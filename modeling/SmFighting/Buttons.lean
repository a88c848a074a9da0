import SmFighting.Tick
import Mathlib.Data.BitVec
import Mathlib.Data.List.Chain

namespace SmFighting

variable {α σ μ : Type} [DecidableEq α] {assets : Assets α σ μ}

inductive EInputEvent
  | pressed | released
  deriving DecidableEq

def Event.inputEvent (button : EFGInputButtons) : Event → Option EInputEvent
  | .leftButtonPressed => if button = .leftFace then some .pressed else none
  | .leftButtonReleased => if button = .leftFace then some .released else none
  | .topButtonPressed => if button = .topFace then some .pressed else none
  | .topButtonReleased => if button = .topFace then some .released else none
  | _ => none

def Event.isTick : Event → Bool
  | .tick _ _ => true
  | _ => false

def inputEvents (button : EFGInputButtons) (events : List Event) : List EInputEvent :=
  events.filterMap (Event.inputEvent button)

/-- Presses and releases of a button that starts out released alternate. -/
def Alternates (events : List EInputEvent) : Prop :=
  (.released :: events).IsChain (· ≠ ·)

/-- The last event of a button, a release before there was one. -/
def lastEvent (button : EFGInputButtons) (events : List Event) : EInputEvent :=
  (inputEvents button events).getLast?.getD .released

theorem bitSet_eq (mask : BitVec 32) (i : Nat) : bitSet mask i = mask.getLsbD i := by
  rw [bitSet, ← BitVec.twoPow_eq, BitVec.and_twoPow, Bool.eq_iff_iff, bne_iff_ne]
  constructor
  · intro nonzero
    by_contra clear
    exact nonzero (if_neg clear)
  · intro set zero
    rw [if_pos set] at zero
    have value := congrArg BitVec.toNat zero
    rw [BitVec.toNat_twoPow_of_lt (BitVec.lt_of_getLsbD set)] at value
    simp at value

theorem bitSet_press (mask : BitVec 32) (button other : EFGInputButtons) :
    bitSet (mask ||| (1#32 <<< button.toNat)) other.toNat =
      (bitSet mask other.toNat || decide (other = button)) := by
  cases button <;> cases other <;> simp [bitSet_eq, EFGInputButtons.toNat]

theorem bitSet_release (mask : BitVec 32) (button other : EFGInputButtons) :
    bitSet (mask &&& ~~~(1#32 <<< button.toNat)) other.toNat =
      (bitSet mask other.toNat && !decide (other = button)) := by
  cases button <;> cases other <;> simp [bitSet_eq, EFGInputButtons.toNat]

theorem buttonState_eq (buttonsDown buttonsDownOld : BitVec 32) (i : Nat) :
    buttonState buttonsDown buttonsDownOld i =
      match bitSet buttonsDown i, bitSet buttonsDownOld i with
      | true, true => .heldDown
      | true, false => .justPressed
      | false, _ => .up := by
  rw [buttonState]
  cases bitSet buttonsDown i <;> cases bitSet buttonsDownOld i <;> rfl

omit [DecidableEq α] in
theorem frameAtoms_button {pawn : AFGDefaultPawn α μ} {atoms : List (Option α)}
    (recorded : pawn.frameAtoms = .ok atoms) (button : EFGInputButtons) :
    atoms[1 + button.toNat]? =
      pawn.buttonAtoms[(buttonState pawn.buttonsDown pawn.buttonsDownOld button.toNat).toNat]? := by
  obtain ⟨directional, left, top, -, leftRead, topRead, rfl⟩ :=
    AFGDefaultPawn.frameAtoms_ok.mp recorded
  have read : ∀ i atom, pawn.buttonAtom i = .ok atom →
      pawn.buttonAtoms[(buttonState pawn.buttonsDown pawn.buttonsDownOld i).toNat]? = some atom := by
    intro i atom done
    rw [AFGDefaultPawn.buttonAtom] at done
    split at done
    · rename_i found
      rw [found, Except.ok.inj done]
    · cases done
  cases button with
  | leftFace => exact (read 0 left leftRead).symm
  | topFace => exact (read 1 top topRead).symm

/-- Each event moves its own button's bit; a Tick caches the mask and moves none. -/
theorem react_buttons {pawn after : AFGDefaultPawn α μ} {event : Event}
    {records : List (TickRecord assets)} (reaction : react assets pawn event = .ok (after, records))
    (button : EFGInputButtons) :
    bitSet after.buttonsDown button.toNat =
        ((event.inputEvent button).map (fun e => decide (e = .pressed))).getD
          (bitSet pawn.buttonsDown button.toNat) ∧
      after.buttonAtoms = pawn.buttonAtoms ∧
      after.buttonsDownOld = if event.isTick then pawn.buttonsDown else pawn.buttonsDownOld := by
  cases event with
  | tick deltaSeconds currentTime =>
      obtain ⟨record, ticked, rfl, rfl⟩ := react_tick reaction
      obtain ⟨complete, rfl, -, -⟩ := tick_complete ticked
      obtain ⟨stamps, stream, move, time, after⟩ := after_frame complete
      rw [after]
      exact ⟨rfl, rfl, rfl⟩
  | leftButtonPressed =>
      obtain ⟨rfl, rfl⟩ := Prod.mk.inj (Except.ok.inj reaction)
      refine ⟨(bitSet_press pawn.buttonsDown .leftFace button).trans ?_, rfl, rfl⟩
      cases button <;> simp [Event.inputEvent]
  | leftButtonReleased =>
      obtain ⟨rfl, rfl⟩ := Prod.mk.inj (Except.ok.inj reaction)
      refine ⟨(bitSet_release pawn.buttonsDown .leftFace button).trans ?_, rfl, rfl⟩
      cases button <;> simp [Event.inputEvent]
  | topButtonPressed =>
      obtain ⟨rfl, rfl⟩ := Prod.mk.inj (Except.ok.inj reaction)
      refine ⟨(bitSet_press pawn.buttonsDown .topFace button).trans ?_, rfl, rfl⟩
      cases button <;> simp [Event.inputEvent]
  | topButtonReleased =>
      obtain ⟨rfl, rfl⟩ := Prod.mk.inj (Except.ok.inj reaction)
      refine ⟨(bitSet_release pawn.buttonsDown .topFace button).trans ?_, rfl, rfl⟩
      cases button <;> simp [Event.inputEvent]
  | _ =>
      obtain ⟨rfl, rfl⟩ := Prod.mk.inj (Except.ok.inj reaction)
      exact ⟨rfl, rfl, rfl⟩

theorem lastEvent_append (button : EFGInputButtons) (earlier between : List Event) :
    lastEvent button (earlier ++ between) =
      (inputEvents button between).getLast?.getD (lastEvent button earlier) := by
  rw [lastEvent, lastEvent, inputEvents, List.filterMap_append, List.getLast?_append]
  cases found : (between.filterMap (Event.inputEvent button)).getLast? <;>
    simp [found, inputEvents]

theorem lastEvent_concat (button : EFGInputButtons) (events : List Event) (event : Event) :
    lastEvent button (events ++ [event]) =
      (event.inputEvent button).getD (lastEvent button events) := by
  rw [lastEvent_append]
  cases found : event.inputEvent button <;> simp [found, inputEvents]

theorem run_buttons {start pawn : AFGDefaultPawn α μ} {events : List Event}
    {records : List (TickRecord assets)} (released : start.buttonsDown = 0)
    (ran : runPawn assets start events = .ok (pawn, records)) (button : EFGInputButtons) :
    bitSet pawn.buttonsDown button.toNat = decide (lastEvent button events = .pressed) ∧
      pawn.buttonAtoms = start.buttonAtoms := by
  apply EventRun.run_invariant
    (fun done pawn _ =>
      bitSet pawn.buttonsDown button.toNat = decide (lastEvent button done = .pressed) ∧
        pawn.buttonAtoms = start.buttonAtoms)
    (fun _ => True) _ (fun _ _ => trivial) ⟨_, rfl⟩ ran
  · intro done s outputs event t output inv _ reaction
    rcases inv with ⟨bits, atoms⟩
    obtain ⟨moved, kept, -⟩ := react_buttons reaction button
    refine ⟨?_, kept.trans atoms⟩
    rw [moved, bits, lastEvent_concat]
    cases event.inputEvent button <;> rfl
  · rw [released, bitSet_eq]
    simp [lastEvent, inputEvents]

theorem run_between {start pawn : AFGDefaultPawn α μ} {events : List Event}
    {records : List (TickRecord assets)}
    (noTick : ∀ event ∈ events, event.isTick = false)
    (ran : runPawn assets start events = .ok (pawn, records)) :
    pawn.buttonsDownOld = start.buttonsDownOld := by
  apply EventRun.run_invariant (fun _ pawn _ => pawn.buttonsDownOld = start.buttonsDownOld)
    (fun event => event.isTick = false) _ noTick rfl ran
  intro done s outputs event t output inv notTick reaction
  obtain ⟨-, -, cached⟩ := react_buttons reaction .leftFace
  rw [cached, notTick, ← inv]
  rfl

theorem alternates_split {earlier between : List Event} {button : EFGInputButtons}
    {first : EInputEvent} (alternate : Alternates (inputEvents button (earlier ++ between)))
    (next : (inputEvents button between).head? = some first) :
    lastEvent button earlier ≠ first := by
  rw [Alternates, inputEvents, List.filterMap_append, ← List.cons_append] at alternate
  obtain ⟨-, -, differ⟩ := List.isChain_append.mp alternate
  apply differ _ _ first next
  rw [List.getLast?_cons]
  rfl

theorem run_sampled {start pawn : AFGDefaultPawn α μ} {earlier : List Event}
    {records : List (TickRecord assets)} (released : start.buttonsDown = 0)
    (cached : start.buttonsDownOld = 0)
    (sinceTick : earlier = [] ∨ ∃ before deltaSeconds currentTime,
      earlier = before ++ [.tick deltaSeconds currentTime])
    (ran : runPawn assets start earlier = .ok (pawn, records)) :
    pawn.buttonsDownOld = pawn.buttonsDown := by
  rcases sinceTick with rfl | ⟨before, deltaSeconds, currentTime, rfl⟩
  · obtain ⟨rfl, rfl⟩ := Prod.mk.inj (Except.ok.inj ran)
    rw [released, cached]
  · obtain ⟨middle, first, record, -, ticked, rfl, -⟩ := run_lastTick ran
    obtain ⟨stamps, stream, move, time, after⟩ := after_frame (tick_complete ticked).1
    rw [after]

def recordedState (button : EFGInputButtons) (record : TickRecord assets) : EFGButtonState :=
  buttonState record.before.buttonsDown record.before.buttonsDownOld button.toNat

/-- A Tick records JustPressed for a button exactly when the first and the last of the button's
events since the Tick before are presses: with the last one a release it records Up, and with
presses only behind a release it records HeldDown. -/
theorem press_recorded {start pawn : AFGDefaultPawn α μ} {earlier between : List Event}
    {records : List (TickRecord assets)} {deltaSeconds currentTime : Rat}
    {record : TickRecord assets} (button : EFGInputButtons) (released : start.buttonsDown = 0)
    (cached : start.buttonsDownOld = 0)
    (alternate : Alternates (inputEvents button (earlier ++ between)))
    (sinceTick : earlier = [] ∨ ∃ before deltaSeconds currentTime,
      earlier = before ++ [.tick deltaSeconds currentTime])
    (noTick : ∀ event ∈ between, event.isTick = false)
    (ran : runPawn assets start (earlier ++ between) = .ok (pawn, records))
    (ticked : tick assets pawn deltaSeconds currentTime = .ok record) :
    record.atoms[1 + button.toNat]? = start.buttonAtoms[(recordedState button record).toNat]? ∧
    (recordedState button record = .justPressed ↔
      (inputEvents button between).head? = some .pressed ∧
        (inputEvents button between).getLast? = some .pressed) ∧
    ((inputEvents button between).getLast? = some .released → recordedState button record = .up) ∧
    ((inputEvents button between).head? = some .released →
      (inputEvents button between).getLast? = some .pressed →
        recordedState button record = .heldDown) ∧
    ((∀ state : EFGButtonState, state ≠ .justPressed →
        start.buttonAtoms[state.toNat]? ≠ start.buttonAtoms[EFGButtonState.justPressed.toNat]?) →
      (record.atoms[1 + button.toNat]? = start.buttonAtoms[EFGButtonState.justPressed.toNat]? ↔
        (inputEvents button between).head? = some .pressed ∧
          (inputEvents button between).getLast? = some .pressed)) := by
  obtain ⟨before, first, rest, ranEarlier, ranBetween, -⟩ := EventRun.run_append.mp ran
  obtain ⟨down, atoms⟩ := run_buttons released ran button
  obtain ⟨old, -⟩ := run_buttons released ranEarlier button
  rw [← run_sampled released cached sinceTick ranEarlier, ← run_between noTick ranBetween] at old
  obtain ⟨complete, rfl, -, -⟩ := tick_complete ticked
  have atom : record.atoms[1 + button.toNat]? =
      start.buttonAtoms[(recordedState button record).toNat]? := by
    rw [recordedState, ← atoms]
    exact frameAtoms_button complete.recorded button
  have states : (recordedState button record = .justPressed ↔
        (inputEvents button between).head? = some .pressed ∧
          (inputEvents button between).getLast? = some .pressed) ∧
      ((inputEvents button between).getLast? = some .released → recordedState button record = .up) ∧
      ((inputEvents button between).head? = some .released →
        (inputEvents button between).getLast? = some .pressed →
          recordedState button record = .heldDown) := by
    rw [recordedState, buttonState_eq, down, old, lastEvent_append]
    cases events : inputEvents button between with
    | nil => cases lastEvent button earlier <;> simp
    | cons e rest =>
        have differ : lastEvent button earlier ≠ e :=
          alternates_split alternate (by rw [events, List.head?_cons])
        rw [List.getLast?_cons, Option.getD_some, List.head?_cons]
        generalize lastEvent button earlier = held at differ
        generalize rest.getLast?.getD e = final
        cases held <;> cases e <;> first | exact absurd rfl differ | cases final <;> simp
  rcases states with ⟨pressed, up, held⟩
  refine ⟨atom, pressed, up, held, ?_⟩
  intro distinct
  rw [← pressed, atom]
  constructor
  · intro same
    by_contra other
    exact distinct _ other same
  · intro justPressed
    rw [justPressed]

theorem press_recorded_sample :
    ∃ pawn records record,
      runPawn sampleAssets (samplePawn .standing) (sampleEvents.take 5) = .ok (pawn, records) ∧
      tick sampleAssets pawn (1 / 60) (7 / 60) = .ok record ∧
      recordedState .leftFace record = .justPressed ∧
      record.atoms[1]? = (samplePawn .standing).buttonAtoms[EFGButtonState.justPressed.toNat]? := by
  obtain ⟨⟨after, records⟩, ran⟩ := sample_runs
  have split : sampleEvents = sampleEvents.take 5 ++ [.tick (1 / 60) (7 / 60)] := rfl
  rw [split] at ran
  obtain ⟨pawn, before, record, ranBefore, ticked, -, -⟩ := run_lastTick ran
  have between : sampleEvents.take 5 = sampleEvents.take 4 ++ [.leftButtonPressed] := rfl
  rw [between] at ranBefore ⊢
  have alternate : Alternates
      (inputEvents .leftFace (sampleEvents.take 4 ++ [.leftButtonPressed])) := by
    change Alternates [.pressed, .released, .pressed]
    simp [Alternates]
  obtain ⟨-, pressed, -, -, holds⟩ := press_recorded .leftFace rfl rfl alternate
    (.inr ⟨sampleEvents.take 3, _, _, rfl⟩) (by simp [Event.isTick]) ranBefore ticked
  refine ⟨pawn, before, record, ranBefore, ticked, pressed.mpr ⟨rfl, rfl⟩, ?_⟩
  apply (holds _).mpr ⟨rfl, rfl⟩
  intro state other
  cases state with
  | justPressed => exact absurd rfl other
  | _ => decide

theorem quick_press_lost :
    Alternates (inputEvents .leftFace [.leftButtonPressed, .leftButtonReleased]) ∧
    .pressed ∈ inputEvents .leftFace [.leftButtonPressed, .leftButtonReleased] ∧
    ∃ pawn record, runPawn sampleAssets (samplePawn .standing)
        [.leftButtonPressed, .leftButtonReleased] = .ok (pawn, []) ∧
      tick sampleAssets pawn (1 / 60) 0 = .ok record ∧
      record.atoms[1 + EFGInputButtons.leftFace.toNat]? = some (some (.inr .up)) ∧
      record.atoms[1 + EFGInputButtons.leftFace.toNat]? ≠
        (samplePawn .standing).buttonAtoms[EFGButtonState.justPressed.toNat]? := by
  have ticks : ((tick sampleAssets (samplePawn .standing).leftButtonPressed.leftButtonReleased
      (1 / 60) 0).toOption.map TickRecord.atoms) =
        some [some (.inl .neutral), some (.inr .up), some (.inr .up)] := by
    decide +kernel
  refine ⟨by simp [Alternates, inputEvents, Event.inputEvent], by decide,
    (samplePawn .standing).leftButtonPressed.leftButtonReleased, ?_⟩
  cases ticked : tick sampleAssets (samplePawn .standing).leftButtonPressed.leftButtonReleased
      (1 / 60) 0 with
  | error fault =>
      rw [ticked] at ticks
      cases ticks
  | ok record =>
      rw [ticked] at ticks
      have atoms : record.atoms = [some (.inl .neutral), some (.inr .up), some (.inr .up)] :=
        Option.some.inj ticks
      refine ⟨record, rfl, rfl, ?_⟩
      rw [atoms]
      decide

end SmFighting
