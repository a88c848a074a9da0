import SmFighting.Buttons

namespace SmFighting

variable {α σ μ : Type} [DecidableEq α] {assets : Assets α σ μ}

inductive ButtonInput
  | event (event : EInputEvent)
  | tick
  deriving DecidableEq

def Event.buttonInput (button : EFGInputButtons) (event : Event) : Option ButtonInput :=
  if event.isTick then some .tick else (event.inputEvent button).map .event

def buttonInputs (button : EFGInputButtons) (events : List Event) : List ButtonInput :=
  events.filterMap (Event.buttonInput button)

/-- A button by itself: it is down or up, and each Tick compares that with the Tick before. -/
def buttonHistory : Bool → Bool → List ButtonInput → List EFGButtonState
  | _, _, [] => []
  | _, old, .event event :: inputs => buttonHistory (event = .pressed) old inputs
  | down, old, .tick :: inputs =>
      (if down then if old then .heldDown else .justPressed else .up) ::
        buttonHistory down down inputs

def buttonHistoryOf (button : EFGInputButtons) (pawn : AFGDefaultPawn α μ)
    (inputs : List ButtonInput) : List EFGButtonState :=
  buttonHistory (bitSet pawn.buttonsDown button.toNat) (bitSet pawn.buttonsDownOld button.toNat)
    inputs

theorem react_history {pawn after : AFGDefaultPawn α μ} {event : Event}
    {records : List (TickRecord assets)} (reaction : react assets pawn event = .ok (after, records))
    (button : EFGInputButtons) (inputs : List ButtonInput) :
    buttonHistoryOf button pawn ((event.buttonInput button).toList ++ inputs) =
      records.map (recordedState button) ++ buttonHistoryOf button after inputs := by
  obtain ⟨bit, -, cached⟩ := react_buttons reaction button
  cases event with
  | tick deltaSeconds currentTime =>
      obtain ⟨record, ticked, rfl, rfl⟩ := react_tick reaction
      obtain ⟨-, rfl, -, -⟩ := tick_complete ticked
      simp only [Event.inputEvent, Option.map_none, Option.getD_none, Event.isTick, if_true]
        at bit cached
      rw [buttonHistoryOf, buttonHistoryOf, bit, cached]
      rfl
  | _ =>
      obtain ⟨rfl, rfl⟩ := Prod.mk.inj (Except.ok.inj reaction)
      simp only [Event.inputEvent, Event.isTick] at bit cached
      rw [buttonHistoryOf, buttonHistoryOf, bit, cached]
      cases button <;> rfl

/-- The recorded states of a button are its history by itself. -/
theorem run_history {start pawn : AFGDefaultPawn α μ} {events : List Event}
    {records : List (TickRecord assets)} (ran : runPawn assets start events = .ok (pawn, records))
    (button : EFGInputButtons) :
    records.map (recordedState button) =
      buttonHistoryOf button start (buttonInputs button events) := by
  induction events generalizing start records with
  | nil =>
      obtain ⟨rfl, rfl⟩ := Prod.mk.inj (Except.ok.inj ran)
      rfl
  | cons event events ih =>
      obtain ⟨middle, first, rest, reaction, tail, rfl⟩ := EventRun.run_cons.mp ran
      have inputs : buttonInputs button (event :: events) =
          (event.buttonInput button).toList ++ buttonInputs button events := by
        rw [buttonInputs, List.filterMap_cons]
        cases event.buttonInput button <;> rfl
      rw [List.map_append, ih tail, inputs, react_history reaction]

def Succeeds (previous next : EFGButtonState) : Prop :=
  (next = .heldDown → previous ≠ .up) ∧ (next = .justPressed → previous = .up)

theorem history_chain (down old : Bool) (inputs : List ButtonInput) (previous : EFGButtonState)
    (sampled : old = true ↔ previous ≠ .up) :
    (previous :: buttonHistory down old inputs).IsChain Succeeds := by
  induction inputs generalizing down old previous with
  | nil => exact List.isChain_singleton previous
  | cons input inputs ih =>
      cases input with
      | event event => exact ih _ old previous sampled
      | tick =>
          rw [buttonHistory, List.isChain_cons_cons]
          constructor
          · cases down with
            | false => simp [Succeeds]
            | true => cases old <;> simpa [Succeeds] using sampled
          · apply ih
            cases down <;> cases old <;> simp

/-- A state can be JustPressed once for each press, and once more where a press is still waiting for
its Tick. -/
theorem history_presses (down old : Bool) (inputs : List ButtonInput) :
    (buttonHistory down old inputs).count .justPressed ≤
      inputs.count (.event .pressed) + if down && !old then 1 else 0 := by
  induction inputs generalizing down old with
  | nil => exact Nat.zero_le _
  | cons input inputs ih =>
      cases input with
      | event event =>
          have rest := ih (event = .pressed) old
          rw [buttonHistory, List.count_cons]
          cases event <;> cases old <;> simp at rest ⊢ <;> omega
      | tick =>
          have rest := ih down down
          rw [buttonHistory, List.count_cons, List.count_cons]
          cases down <;> cases old <;> simp at rest ⊢ <;> omega

theorem buttonInputs_presses (button : EFGInputButtons) (events : List Event) :
    (buttonInputs button events).count (.event .pressed) =
      (inputEvents button events).count .pressed := by
  rw [buttonInputs, inputEvents, List.count, List.count, List.countP_filterMap,
    List.countP_filterMap]
  congr 1
  funext event
  cases ticks : event.isTick with
  | true =>
      cases event <;> cases ticks
      rfl
  | false =>
      rw [Event.buttonInput, ticks, if_neg Bool.false_ne_true]
      rcases event.inputEvent button with _ | _ | _ <;> rfl

theorem buttonInputs_other {button other : EFGInputButtons} (different : other ≠ button)
    (events : List Event) :
    buttonInputs button (events.filter (fun event => (event.inputEvent other).isNone)) =
      buttonInputs button events := by
  rw [buttonInputs, buttonInputs, List.filterMap_filter]
  congr 1
  funext event
  cases event <;> cases button <;> cases other <;> first | rfl | exact absurd rfl different

structure CoherentHistory (states : List EFGButtonState) : Prop where
  heldDown : ∀ n, states[n]? = some .heldDown →
    ∃ m, n = m + 1 ∧ (states[m]? = some .justPressed ∨ states[m]? = some .heldDown)
  justPressed : ∀ n, states[n]? = some .justPressed →
    n = 0 ∨ ∃ m, n = m + 1 ∧ states[m]? = some .up

theorem coherentHistory_of_chain {states : List EFGButtonState}
    (chain : (.up :: states).IsChain Succeeds) : CoherentHistory states := by
  have adjacent : ∀ (n : Nat) next, states[n]? = some next →
      ∃ previous, (.up :: states)[n]? = some previous ∧ Succeeds previous next := by
    intro n next found
    obtain ⟨inside, rfl⟩ := List.getElem?_eq_some_iff.mp found
    have bound : n + 1 < (.up :: states).length := Nat.succ_lt_succ inside
    exact ⟨_, List.getElem?_eq_getElem (by omega), List.isChain_iff_getElem.mp chain n bound⟩
  constructor
  · intro n found
    obtain ⟨previous, before, succeeds⟩ := adjacent n _ found
    have held := succeeds.1 rfl
    cases n with
    | zero => exact absurd (Option.some.inj before).symm held
    | succ m =>
        refine ⟨m, rfl, ?_⟩
        rw [List.getElem?_cons_succ] at before
        cases previous with
        | up => exact absurd rfl held
        | justPressed => exact .inl before
        | heldDown => exact .inr before
  · intro n found
    obtain ⟨previous, before, succeeds⟩ := adjacent n _ found
    obtain rfl := succeeds.2 rfl
    cases n with
    | zero => exact .inl rfl
    | succ m => exact .inr ⟨m, rfl, before⟩

theorem run_atoms {start pawn : AFGDefaultPawn α μ} {events : List Event}
    {records : List (TickRecord assets)} (ran : runPawn assets start events = .ok (pawn, records))
    (button : EFGInputButtons) :
    ∀ record ∈ records, record.atoms[1 + button.toNat]? =
      start.buttonAtoms[(recordedState button record).toNat]? := by
  induction events generalizing start records with
  | nil =>
      obtain ⟨rfl, rfl⟩ := Prod.mk.inj (Except.ok.inj ran)
      intro record member
      cases member
  | cons event events ih =>
      obtain ⟨middle, first, rest, reaction, tail, rfl⟩ := EventRun.run_cons.mp ran
      obtain ⟨-, kept, -⟩ := react_buttons reaction button
      intro record member
      rcases List.mem_append.mp member with now | later
      · rcases react_cases reaction with ⟨ticked, complete, rfl, rfl, rfl⟩ | ⟨_, _, _, rfl, -⟩
        · obtain rfl := List.mem_singleton.mp now
          exact frameAtoms_button complete.recorded button
        · cases now
      · rw [← kept]
        exact ih tail record later

/-- The states recorded of a button make up a coherent history, with no more presses in it than there
were, and the other button has no part in it. -/
theorem button_coherent {start pawn : AFGDefaultPawn α μ} {events : List Event}
    {records : List (TickRecord assets)} (button : EFGInputButtons)
    (released : start.buttonsDown = 0) (cached : start.buttonsDownOld = 0)
    (ran : runPawn assets start events = .ok (pawn, records)) :
    (∀ record ∈ records, record.atoms[1 + button.toNat]? =
      start.buttonAtoms[(recordedState button record).toNat]?) ∧
    CoherentHistory (records.map (recordedState button)) ∧
    (∀ earlier later, events = earlier ++ later →
      ∃ reached before rest, runPawn assets start earlier = .ok (reached, before) ∧
        records = before ++ rest ∧
        (before.map (recordedState button)).count .justPressed ≤
          (inputEvents button earlier).count .pressed) ∧
    (∀ other, other ≠ button → ∀ events' pawn' (records' : List (TickRecord assets)),
      events'.filter (fun event => (event.inputEvent other).isNone) =
          events.filter (fun event => (event.inputEvent other).isNone) →
        runPawn assets start events' = .ok (pawn', records') →
          records'.map (recordedState button) = records.map (recordedState button)) := by
  have clear : buttonHistoryOf button start = buttonHistory false false := by
    have up : bitSet 0 button.toNat = false := by
      rw [bitSet_eq]
      simp
    funext inputs
    rw [buttonHistoryOf, released, cached, up]
  refine ⟨run_atoms ran button, ?_, ?_, ?_⟩
  · apply coherentHistory_of_chain
    rw [run_history ran, clear]
    exact history_chain false false _ .up (by simp)
  · intro earlier later split
    rw [split] at ran
    obtain ⟨reached, before, rest, ranEarlier, -, whole⟩ := EventRun.run_append.mp ran
    refine ⟨reached, before, rest, ranEarlier, whole, ?_⟩
    rw [run_history ranEarlier, clear, ← buttonInputs_presses]
    exact history_presses false false _
  · intro other different events' pawn' records' same ran'
    have inputs : buttonInputs button events' = buttonInputs button events := by
      rw [← buttonInputs_other different events', same, buttonInputs_other different]
    calc
      _ = buttonHistoryOf button start (buttonInputs button events') := run_history ran' button
      _ = buttonHistoryOf button start (buttonInputs button events) := by rw [inputs]
      _ = _ := (run_history ran button).symm

theorem button_coherent_sample :
    ∃ pawn records, runPawn sampleAssets (samplePawn .standing) sampleEvents = .ok (pawn, records) ∧
      CoherentHistory (records.map (recordedState .leftFace)) := by
  obtain ⟨⟨pawn, records⟩, ran⟩ := sample_runs
  obtain ⟨-, coherent, -⟩ := button_coherent .leftFace rfl rfl ran
  exact ⟨pawn, records, ran, coherent⟩

end SmFighting
