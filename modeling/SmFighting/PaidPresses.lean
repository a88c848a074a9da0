import SmFighting.ButtonHistory
import SmFighting.Motions
import SmFighting.Library.Payment

namespace SmFighting

variable {α σ μ : Type} [DecidableEq α] {assets : Assets α σ μ}

/-- The accepting run of the Tick took a transition on `pressed` in the button's place of a frame. -/
def spendsPress (button : EFGInputButtons) (pressed : Option α) (record : TickRecord assets) : Bool :=
  (acceptedMoves record).any (fun move => decide (move.kind = .transition) &&
    decide (move.dataIndex % 3 = 1 + button.toNat) &&
    decide (record.seen.inputStream[move.dataIndex]? = some pressed))

theorem spendsPress_iff {button : EFGInputButtons} {pressed : Option α} {record : TickRecord assets} :
    spendsPress button pressed record = true ↔ ∃ x, Spends record x ∧ x % 3 = 1 + button.toNat ∧
      record.seen.inputStream[x]? = some pressed := by
  simp only [spendsPress, List.any_eq_true, Bool.and_eq_true, decide_eq_true_eq]
  constructor
  · intro found
    rcases found with ⟨⟨kind, x⟩, member, ⟨rfl, place⟩, atom⟩
    exact ⟨x, member, place, atom⟩
  · intro found
    rcases found with ⟨x, member, place, atom⟩
    exact ⟨⟨.transition, x⟩, member, ⟨rfl, place⟩, atom⟩

def PaysPress (button : EFGInputButtons) (pressed : Option α) (records : List (TickRecord assets))
    (number tag : Nat) : Prop :=
  ∃ (record : TickRecord assets) (x : Nat), records[number]? = some record ∧ Spends record x ∧
    x % 3 = 1 + button.toNat ∧ record.seen.inputStream[x]? = some pressed ∧
    (seenTags records number)[x / 3]? = some tag

omit [DecidableEq α] in
theorem honestTags_atom {records : List (TickRecord assets)} {number : Nat}
    {record : TickRecord assets} (honest : HonestTags records number record) {x tag : Nat}
    (tagged : (seenTags records number)[x / 3]? = some tag) :
    ∃ recorder : TickRecord assets, records[tag]? = some recorder ∧
      record.seen.inputStream[x]? = recorder.atoms[x % 3]? := by
  obtain ⟨recorder, recorded, -, atoms⟩ := honest.2 _ _ tagged
  refine ⟨recorder, recorded, ?_⟩
  rw [← atoms, List.getElem?_take_of_lt (Nat.mod_lt x (Nat.succ_pos 2)), List.getElem?_drop,
    Nat.div_add_mod]

/-- Where only a fresh button is recorded as `pressed`, each Tick that spends a press is paid for by
a Tick that recorded the button as just pressed, and later ones by later ones. -/
theorem presses_pay {records : List (TickRecord assets)} {gone : Nat} (tags : TagInv records gone)
    {button : EFGInputButtons} {pressed : Option α} {buttonAtoms : List (Option α)}
    (recorded : ∀ record ∈ records, record.atoms[1 + button.toNat]? =
      buttonAtoms[(recordedState button record).toNat]?)
    (distinct : ∀ state : EFGButtonState, buttonAtoms[state.toNat]? = some pressed →
      state = .justPressed) :
    Payment.Pays records records (spendsPress button pressed)
      (fun record => decide (recordedState button record = .justPressed))
      (PaysPress button pressed records) where
  paid := by
    intro number record located spends
    obtain ⟨x, spends, place, atom⟩ := spendsPress_iff.mp spends
    obtain ⟨tag, tagged, -⟩ := tags.spent number record x located spends
    obtain ⟨recorder, there, same⟩ := honestTags_atom (tags.honest number record located) tagged
    refine ⟨tag, recorder, ⟨record, x, located, spends, place, atom, tagged⟩, there, ?_⟩
    rw [atom, place, recorded recorder (List.mem_of_getElem? there)] at same
    exact decide_eq_true (distinct _ same.symm)
  ordered := by
    intro p q a b before first second
    rcases first with ⟨one, x, located, spends, -, -, tagged⟩
    rcases second with ⟨two, y, located', spends', -, -, tagged'⟩
    obtain ⟨a', b', tagged'', tagged''', order⟩ :=
      tags.ordered p q one two x y before located located' spends spends'
    rw [tagged] at tagged''
    rw [tagged'] at tagged'''
    rw [Option.some.inj tagged'', Option.some.inj tagged''']
    exact order

theorem spendsPress_count {start pawn : AFGDefaultPawn α μ} {events : List Event}
    {records : List (TickRecord assets)} (emptyStamps : start.inputTimeStamps = [])
    (emptyStream : start.inputStream = []) (nonneg : 0 ≤ start.inputExpirationTime)
    (clamped : ∀ event ∈ events, event.Clamped)
    (ran : runPawn assets start events = .ok (pawn, records)) (button : EFGInputButtons)
    {pressed : Option α}
    (distinct : ∀ state : EFGButtonState, start.buttonAtoms[state.toNat]? = some pressed →
      state = .justPressed) :
    records.countP (spendsPress button pressed) ≤
      (records.map (recordedState button)).count .justPressed := by
  obtain ⟨-, gone, -, -, tags⟩ :=
    run_buffer TagInv tagInv_start tagInv_tick emptyStamps emptyStream nonneg clamped ran
  have payment := presses_pay tags (run_atoms ran button) distinct
  have bounded : ∀ i j, PaysPress button pressed records i j → j < records.length := by
    intro number tag pays
    rcases pays with ⟨record, x, located, -, -, -, tagged⟩
    obtain ⟨recorder, there, -⟩ := honestTags_atom (tags.honest number record located) tagged
    exact (List.getElem?_eq_some_iff.mp there).1
  calc
    _ ≤ records.countP (fun record => decide (recordedState button record = .justPressed)) :=
      Payment.countP_le payment bounded
    _ = (records.map (recordedState button)).count .justPressed := by
      rw [List.count, List.countP_map]
      rfl

/-- On its way to the end an accepted walk of a chain takes a transition for every input that is
left, in the place that the stride leaves for it. -/
theorem chain_spends {β τ : Type} [DecidableEq β] {graph : τ → USMState β τ}
    {stateClass : USMStateClass} {n : Nat} {s : Nat → τ} {acceptable : Nat → List β}
    (chain : Chain graph stateClass n s acceptable) {dataSource : List β} {moves : List Move}
    {c d : τ × Nat} (walk : Walk.Reaches (nextMove graph dataSource) c moves d)
    (accepted : (graph d.1).completionType = .accepted) {k i : Nat} (here : c = (s k, i)) {m : Nat}
    (low : k ≤ m) (high : m < n) :
    ∃ x, ⟨.transition, x⟩ ∈ moves ∧ Accepts dataSource (acceptable m) x ∧
      x % stateClass.loopStride = (i + (m - k)) % stateClass.loopStride := by
  induction walk generalizing k i with
  | stay c =>
      rw [here] at accepted
      exact absurd accepted (chain.unmarked k (by omega))
  | @move a b e move moves step rest ih =>
      subst here
      obtain ⟨inside, -, -⟩ := nextMove_index step
      obtain ⟨onHit, onMiss⟩ := chain_nextMove chain dataSource (Nat.lt_of_le_of_lt low high) inside
      by_cases hit : Accepts dataSource (acceptable k) i
      · rw [onHit hit] at step
        obtain ⟨rfl, rfl⟩ := Prod.mk.inj (Option.some.inj step)
        rcases Nat.eq_or_lt_of_le low with rfl | later
        · exact ⟨i, List.mem_cons_self, hit, by rw [Nat.sub_self, Nat.add_zero]⟩
        · obtain ⟨x, member, accepts, place⟩ := ih accepted rfl later
          refine ⟨x, List.mem_cons_of_mem _ member, accepts, place.trans ?_⟩
          congr 1
          omega
      · rw [onMiss hit] at step
        obtain ⟨rfl, rfl⟩ := Prod.mk.inj (Option.some.inj step)
        obtain ⟨x, member, accepts, place⟩ := ih accepted rfl low
        refine ⟨x, List.mem_cons_of_mem _ member, accepts, place.trans ?_⟩
        rw [Nat.add_right_comm, Nat.add_mod_right]

def AsksPress (button : EFGInputButtons) (pressed : Option α) (n : Nat)
    (acceptable : Nat → List (Option α)) : Prop :=
  ∃ m < n, m % 3 = 1 + button.toNat ∧ acceptable m = [pressed]

theorem motion_spendsPress {record : TickRecord assets} (complete : record.Complete)
    {link : UFGMoveLink assets.state μ} (followed : record.followed = some link) {n : Nat}
    {acceptable : Nat → List (Option α)} (motion : Motion link n acceptable)
    {button : EFGInputButtons} {pressed : Option α} (asks : AsksPress button pressed n acceptable) :
    spendsPress button pressed record = true := by
  rcases motion with ⟨machine, s, found, start, chain⟩
  rcases asks with ⟨m, below, place, only⟩
  obtain ⟨current, machine', -, first, found', -, -, -⟩ := complete_followed complete followed
  obtain rfl : machine = machine' := Option.some.inj (found.symm.trans found')
  have walk := (moves_halts assets.state record.seen.inputStream machine.1 0).1
  have accepted : (assets.state
      (finish assets.state record.seen.inputStream machine.1 0).1).completionType = .accepted := by
    rcases first with ⟨-, -, -, -, -, -, machine', found', ending⟩
    obtain rfl : machine = machine' := Option.some.inj (found.symm.trans found')
    rw [runState_unlimited _ _ _ _ _ (by omega)] at ending
    exact ending
  obtain ⟨x, member, ⟨atom, acceptable', read⟩, aligned⟩ :=
    chain_spends chain walk accepted (by rw [start]) (Nat.zero_le m) below
  rw [spendsPress_iff]
  refine ⟨x, ?_, ?_, ?_⟩
  · rw [Spends, acceptedMoves, followed, Option.bind_some, found]
    exact member
  · rw [← place]
    simpa [USMStateClass.loopStride, EFGInputButtons.count] using aligned
  · rw [only, List.mem_singleton] at acceptable'
    rw [read, acceptable']

/-- In every run there are at most as many Ticks that follow a link on a fresh press of a button as
there are presses of it. So where every link asks for one, the pawn changes its move at most once for
each press, however long the button is held. -/
theorem presses_paid {start pawn : AFGDefaultPawn α μ} {events : List Event}
    {records : List (TickRecord assets)} (emptyStamps : start.inputTimeStamps = [])
    (emptyStream : start.inputStream = []) (nonneg : 0 ≤ start.inputExpirationTime)
    (clamped : ∀ event ∈ events, event.Clamped)
    (ran : runPawn assets start events = .ok (pawn, records)) (button : EFGInputButtons)
    (released : start.buttonsDown = 0) (cached : start.buttonsDownOld = 0) {pressed : Option α}
    (distinct : ∀ state : EFGButtonState, start.buttonAtoms[state.toNat]? = some pressed →
      state = .justPressed) :
    records.countP (spendsPress button pressed) ≤ (inputEvents button events).count .pressed ∧
      ((∀ move, ∀ entry ∈ (assets.move move).linkedMoves, ∀ link, entry = some link →
          ∃ n acceptable, Motion link n acceptable ∧ AsksPress button pressed n acceptable) →
        records.countP (fun record => record.followed.isSome) ≤
          (inputEvents button events).count .pressed) := by
  have paid : records.countP (spendsPress button pressed) ≤
      (inputEvents button events).count .pressed := by
    calc
      _ ≤ (records.map (recordedState button)).count .justPressed :=
        spendsPress_count emptyStamps emptyStream nonneg clamped ran button distinct
      _ ≤ (buttonInputs button events).count (.event .pressed) := by
        rw [run_history ran button, buttonHistoryOf, released, cached, bitSet_eq,
          BitVec.ofNat_eq_ofNat, BitVec.getLsbD_zero]
        exact history_presses false false _
      _ = (inputEvents button events).count .pressed := buttonInputs_presses button events
  refine ⟨paid, fun motions => le_trans (List.countP_mono_left ?_) paid⟩
  intro record member follows
  obtain ⟨link, followed⟩ := Option.isSome_iff_exists.mp follows
  have complete := run_complete ran record member
  obtain ⟨current, machine, -, ⟨earlier, later, split, -⟩, -⟩ := complete_followed complete followed
  have entry : some link ∈ (assets.move current).linkedMoves := by
    rw [split]
    exact List.mem_append_right _ List.mem_cons_self
  obtain ⟨n, acceptable, motion, asks⟩ := motions current _ entry link rfl
  exact motion_spendsPress complete followed motion asks

theorem presses_paid_sample :
    ∃ pawn records, runPawn jabAssets (samplePawn .standing) sampleEvents = .ok (pawn, records) ∧
      records.countP (spendsPress .leftFace (some (.inr .justPressed))) ≤ 2 ∧
      records.countP (fun record => record.followed.isSome) ≤ 2 := by
  have runs : ∃ result, runPawn jabAssets (samplePawn .standing) sampleEvents = .ok result :=
    faultOf_none.mp (by decide +kernel)
  rcases runs with ⟨⟨pawn, records⟩, ran⟩
  have distinct : ∀ state : EFGButtonState, (samplePawn .standing).buttonAtoms[state.toNat]? =
      some (some (.inr .justPressed)) → state = .justPressed := by
    intro state found
    cases state <;> first | rfl | cases found
  obtain ⟨paid, moved⟩ := presses_paid rfl rfl sample_spawned.nonneg sample_clamped ran .leftFace
    rfl rfl distinct
  refine ⟨pawn, records, ran, paid, moved ?_⟩
  intro move entry member link same
  obtain rfl : link = jabLink := Option.some.inj (same.symm.trans (List.mem_singleton.mp member))
  exact ⟨3, jabInputs, jab_motion, 1, by decide, rfl, rfl⟩

end SmFighting
