import SmFighting.ButtonHistory
import SmFighting.Fighter
import SmFighting.StickDirections

namespace SmFighting

variable {α μ : Type}

structure PlayerFrame where
  direction : EFGInputDirections
  buttons : EFGInputButtons → EFGButtonState

namespace AFGDefaultPawn

def atomsFor (pawn : AFGDefaultPawn α μ) (frame : PlayerFrame) : List (Option α) :=
  [pawn.directionAtom frame.direction,
    pawn.buttonAtoms[(frame.buttons .leftFace).toNat]?.join,
    pawn.buttonAtoms[(frame.buttons .topFace).toNat]?.join]

def shown (pawn : AFGDefaultPawn α μ) : PlayerFrame :=
  ⟨pawn.direction, fun button => buttonState pawn.buttonsDown pawn.buttonsDownOld button.toNat⟩

structure Equipped (pawn : AFGDefaultPawn α μ) : Prop where
  directions : ∀ direction, pawn.directionAtom direction ≠ none
  buttons : ∀ state : EFGButtonState, ∃ atom, pawn.buttonAtoms[state.toNat]? = some (some atom)

end AFGDefaultPawn

theorem guarded_equipped {pawn : AFGDefaultPawn α μ} (guarded : Guarded pawn) : pawn.Equipped := by
  refine ⟨guarded.directions, fun state => guarded.buttons state.toNat ?_⟩
  cases state <;> decide

theorem equipped_frameAtoms {pawn : AFGDefaultPawn α μ} (equipped : pawn.Equipped) :
    pawn.frameAtoms = .ok (pawn.atomsFor pawn.shown) := by
  have button : ∀ i, ∃ atom, pawn.buttonAtom i = .ok (some atom) ∧
      pawn.buttonAtoms[(buttonState pawn.buttonsDown pawn.buttonsDownOld i).toNat]?.join =
        some atom := by
    intro i
    obtain ⟨atom, found⟩ := equipped.buttons (buttonState pawn.buttonsDown pawn.buttonsDownOld i)
    refine ⟨atom, ?_, ?_⟩
    · rw [AFGDefaultPawn.buttonAtom, found]
    · rw [found]
      rfl
  obtain ⟨directional, found⟩ := Option.ne_none_iff_exists'.mp (equipped.directions pawn.direction)
  obtain ⟨left, leftRead, leftShown⟩ := button 0
  obtain ⟨top, topRead, topShown⟩ := button 1
  refine AFGDefaultPawn.frameAtoms_ok.mpr ⟨directional, some left, some top, found, leftRead, topRead,
    ?_⟩
  calc
    pawn.atomsFor pawn.shown = [pawn.directionAtom pawn.direction,
        pawn.buttonAtoms[(buttonState pawn.buttonsDown pawn.buttonsDownOld 0).toNat]?.join,
        pawn.buttonAtoms[(buttonState pawn.buttonsDown pawn.buttonsDownOld 1).toNat]?.join] := rfl
    _ = _ := by rw [found, leftShown, topShown]

theorem buttonState_succeeds {down old : BitVec 32} {i : Nat} {previous : EFGButtonState}
    (sampled : bitSet old i = decide (previous ≠ .up)) :
    Succeeds previous (buttonState down old i) ∧
      bitSet down i = decide (buttonState down old i ≠ .up) := by
  rw [buttonState_eq, sampled]
  cases bitSet down i <;> cases previous <;> simp [Succeeds]

theorem buttonState_shows {down old : BitVec 32} {i : Nat} {previous next : EFGButtonState}
    (sampled : bitSet old i = decide (previous ≠ .up)) (succeeds : Succeeds previous next)
    (pressed : bitSet down i = decide (next ≠ .up)) : buttonState down old i = next := by
  rw [buttonState_eq, sampled, pressed]
  cases previous <;> cases next <;> simp [Succeeds] at succeeds ⊢

/-- The controls in play: set up as at the start, each button cached as the Tick before found it. -/
structure InHand (start controls : AFGDefaultPawn α μ)
    (previous : EFGInputButtons → EFGButtonState) : Prop where
  threshold : controls.directionThreshold = start.directionThreshold
  directions : ∀ direction, controls.directionAtom direction = start.directionAtom direction
  buttonAtoms : controls.buttonAtoms = start.buttonAtoms
  cached : ∀ button : EFGInputButtons,
    bitSet controls.buttonsDownOld button.toNat = decide (previous button ≠ .up)

structure Shows (start : AFGDefaultPawn α μ) (sample : Sample α) (frame : PlayerFrame) : Prop where
  atoms : sample.frame.atoms = start.atomsFor frame
  nonneg : 0 ≤ sample.expiration

variable {start controls : AFGDefaultPawn α μ} {previous : EFGInputButtons → EFGButtonState}

theorem inHand_atoms (inHand : InHand start controls previous) (frame : PlayerFrame) :
    controls.atomsFor frame = start.atomsFor frame := by
  rw [AFGDefaultPawn.atomsFor, AFGDefaultPawn.atomsFor, inHand.directions, inHand.buttonAtoms]

theorem inHand_equipped (inHand : InHand start controls previous) (equipped : start.Equipped) :
    controls.Equipped where
  directions := fun direction => by
    rw [inHand.directions]
    exact equipped.directions direction
  buttons := fun state => by
    rw [inHand.buttonAtoms]
    exact equipped.buttons state

theorem inHand_controls (pawn : AFGDefaultPawn α μ) :
    ∃ previous, InHand pawn pawn.controls previous := by
  refine ⟨fun button => if bitSet pawn.buttonsDownOld button.toNat then .heldDown else .up, rfl,
    fun _ => rfl, rfl, fun button => ?_⟩
  change bitSet pawn.buttonsDownOld button.toNat = _
  cases bitSet pawn.buttonsDownOld button.toNat <;> rfl

theorem inHand_operate (inHand : InHand start controls previous) {event : Event}
    (quiet : event.isTick = false) : InHand start (controls.operate event) previous := by
  cases event with
  | tick deltaSeconds currentTime => cases quiet
  | _ => exact ⟨inHand.threshold, inHand.directions, inHand.buttonAtoms, inHand.cached⟩

theorem inHand_tick (inHand : InHand start controls previous) (deltaSeconds currentTime : Rat) :
    (∀ button, Succeeds (previous button) (controls.shown.buttons button)) ∧
      InHand start (controls.operate (.tick deltaSeconds currentTime)) controls.shown.buttons := by
  have button : ∀ button, Succeeds (previous button) (controls.shown.buttons button) ∧
      bitSet controls.buttonsDown button.toNat = decide (controls.shown.buttons button ≠ .up) :=
    fun button => buttonState_succeeds (inHand.cached button)
  exact ⟨fun b => (button b).1,
    ⟨inHand.threshold, inHand.directions, inHand.buttonAtoms, fun b => (button b).2⟩⟩

theorem takeSample_quiet (controls : AFGDefaultPawn α μ) {event : Event}
    (quiet : event.isTick = false) : takeSample controls event = .ok (controls.operate event, []) := by
  cases event with
  | tick deltaSeconds currentTime => cases quiet
  | _ => rfl

theorem takeSample_nonneg {next : AFGDefaultPawn α μ} {event : Event} {samples : List (Sample α)}
    (nonneg : 0 ≤ controls.inputExpirationTime) (clamped : event.Clamped)
    (taken : takeSample controls event = .ok (next, samples)) :
    0 ≤ next.inputExpirationTime := by
  cases event with
  | tick deltaSeconds currentTime =>
      obtain ⟨sample, -, rfl, -⟩ := takeSample_tick taken
      exact nonneg
  | editInputExpirationTime value =>
      obtain ⟨rfl, -⟩ := Prod.mk.inj (Except.ok.inj taken)
      exact clamped
  | _ =>
      obtain ⟨rfl, -⟩ := Prod.mk.inj (Except.ok.inj taken)
      exact nonneg

/-- Whatever happens to the controls, what the Ticks take in are frames that can follow each other. -/
theorem samples_shown (equipped : start.Equipped) (inHand : InHand start controls previous)
    (nonneg : 0 ≤ controls.inputExpirationTime) {events : List Event}
    (clamped : ∀ event ∈ events, event.Clamped) {final : AFGDefaultPawn α μ}
    {samples : List (Sample α)} (taken : takeSamples controls events = .ok (final, samples)) :
    ∃ frames, List.Forall₂ (Shows start) samples frames ∧
      ∀ button, (previous button :: frames.map (fun frame => frame.buttons button)).IsChain
        Succeeds := by
  induction events generalizing controls previous samples with
  | nil =>
      obtain ⟨-, rfl⟩ := Prod.mk.inj (Except.ok.inj taken)
      exact ⟨[], .nil, fun button => List.isChain_singleton _⟩
  | cons event events ih =>
      obtain ⟨next, first, rest, done, tail, rfl⟩ := EventRun.run_cons.mp taken
      have nonneg' := takeSample_nonneg nonneg (clamped event List.mem_cons_self) done
      have clamped' : ∀ other ∈ events, other.Clamped :=
        fun other member => clamped other (List.mem_cons_of_mem event member)
      cases ticks : event.isTick with
      | false =>
          rw [takeSample_quiet controls ticks] at done
          obtain ⟨rfl, rfl⟩ := Prod.mk.inj (Except.ok.inj done)
          exact ih (inHand_operate inHand ticks) nonneg' clamped' tail
      | true =>
          cases event with
          | tick deltaSeconds currentTime =>
              obtain ⟨sample, sampled, rfl, rfl⟩ := takeSample_tick done
              obtain ⟨succeeds, inHand'⟩ := inHand_tick inHand deltaSeconds currentTime
              obtain ⟨frames, shows, chains⟩ := ih inHand' nonneg' clamped' tail
              obtain ⟨recorded, -, -, expiration⟩ := sample_ok.mp sampled
              have atoms : sample.frame.atoms = controls.atomsFor controls.shown :=
                Except.ok.inj (recorded.symm.trans
                  (equipped_frameAtoms (inHand_equipped inHand equipped)))
              rw [inHand_atoms inHand] at atoms
              refine ⟨controls.shown :: frames, .cons ⟨atoms, expiration ▸ nonneg⟩ shows, ?_⟩
              intro button
              exact List.isChain_cons_cons.mpr ⟨succeeds button, chains button⟩
          | _ => cases ticks

theorem coherentHistory_chain {states : List EFGButtonState} (coherent : CoherentHistory states) :
    (.up :: states).IsChain Succeeds := by
  apply List.isChain_iff_getElem.mpr
  intro n inside
  have next : states[n]? = some (.up :: states)[n + 1] :=
    List.getElem?_eq_getElem (Nat.lt_of_succ_lt_succ inside)
  have previous : (.up :: states)[n]? = some (.up :: states)[n] :=
    List.getElem?_eq_getElem (Nat.lt_of_succ_lt inside)
  constructor
  · intro held
    rw [held] at next
    obtain ⟨m, rfl, before⟩ := coherent.heldDown n next
    rw [List.getElem?_cons_succ] at previous
    rcases before with pressed | held
    · rw [← Option.some.inj (pressed.symm.trans previous)]
      decide
    · rw [← Option.some.inj (held.symm.trans previous)]
      decide
  · intro pressed
    rw [pressed] at next
    rcases coherent.justPressed n next with rfl | ⟨m, rfl, up⟩
    · rfl
    · rw [List.getElem?_cons_succ] at previous
      exact (Option.some.inj (up.symm.trans previous)).symm

def axisValue (threshold : Rat) : Ordering → Rat
  | .lt => -threshold - 1
  | .eq => 0
  | .gt => threshold

theorem axisPart_value {threshold : Rat} (positive : 0 < threshold) (part : Ordering) :
    axisPart threshold (axisValue threshold part) = part := by
  cases part with
  | lt => exact axisPart_lt.mpr (by simp only [axisValue]; linarith)
  | eq =>
      change axisPart threshold 0 = .eq
      rw [axisPart, if_neg (by linarith), if_pos positive]
  | gt => exact (axisPart_gt positive.le).mpr (le_refl threshold)

def EFGInputDirections.axes : EFGInputDirections → Ordering × Ordering
  | .downBack => (.lt, .lt)
  | .down => (.eq, .lt)
  | .downForward => (.gt, .lt)
  | .back => (.lt, .eq)
  | .neutral => (.eq, .eq)
  | .forward => (.gt, .eq)
  | .upBack => (.lt, .gt)
  | .up => (.eq, .gt)
  | .upForward => (.gt, .gt)

theorem ofAxes_axes (direction : EFGInputDirections) :
    EFGInputDirections.ofAxes direction.axes.1 direction.axes.2 = direction := by
  cases direction <;> rfl

def buttonEvent : EFGInputButtons → EFGButtonState → Event
  | .leftFace, .up => .leftButtonReleased
  | .leftFace, _ => .leftButtonPressed
  | .topFace, .up => .topButtonReleased
  | .topFace, _ => .topButtonPressed

def PlayerFrame.setup (frame : PlayerFrame) (threshold expiration : Rat) : List Event :=
  [.readXAxis (axisValue threshold frame.direction.axes.1),
    .readYAxis (axisValue threshold frame.direction.axes.2),
    buttonEvent .leftFace (frame.buttons .leftFace), buttonEvent .topFace (frame.buttons .topFace),
    .editInputExpirationTime expiration]

theorem buttonEvent_isTick (button : EFGInputButtons) (state : EFGButtonState) :
    (buttonEvent button state).isTick = false := by
  cases button <;> cases state <;> rfl

theorem setup_isTick (frame : PlayerFrame) (threshold expiration : Rat) :
    ∀ event ∈ frame.setup threshold expiration, event.isTick = false := by
  simp only [PlayerFrame.setup, List.forall_mem_cons]
  exact ⟨rfl, rfl, buttonEvent_isTick _ _, buttonEvent_isTick _ _, rfl, List.forall_mem_nil _⟩

theorem setup_clamped (frame : PlayerFrame) (threshold : Rat) {expiration : Rat}
    (nonneg : 0 ≤ expiration) : ∀ event ∈ frame.setup threshold expiration, event.Clamped := by
  have buttons : ∀ button state, (buttonEvent button state).Clamped := by
    intro button state
    cases button <;> cases state <;> trivial
  simp only [PlayerFrame.setup, List.forall_mem_cons]
  exact ⟨trivial, trivial, buttons _ _, buttons _ _, nonneg, List.forall_mem_nil _⟩

theorem operate_buttonEvent_eq (pawn : AFGDefaultPawn α μ) (button : EFGInputButtons)
    (state : EFGButtonState) : pawn.operate (buttonEvent button state) =
      if state = .up then AFGDefaultPawn.releaseButton button pawn
      else AFGDefaultPawn.pressButton button pawn := by
  cases button <;> cases state <;> rfl

theorem operate_buttonEvent (pawn : AFGDefaultPawn α μ) (button other : EFGInputButtons)
    (state : EFGButtonState) :
    bitSet (pawn.operate (buttonEvent button state)).buttonsDown other.toNat =
      if other = button then decide (state ≠ .up) else bitSet pawn.buttonsDown other.toNat := by
  rw [operate_buttonEvent_eq]
  by_cases up : state = .up
  · rw [if_pos up, AFGDefaultPawn.releaseButton, bitSet_release]
    by_cases same : other = button <;> simp [same, up]
  · rw [if_neg up, AFGDefaultPawn.pressButton, bitSet_press]
    by_cases same : other = button <;> simp [same, up]

theorem operate_buttonEvent_rest (pawn : AFGDefaultPawn α μ) (button : EFGInputButtons)
    (state : EFGButtonState) :
    (pawn.operate (buttonEvent button state)).direction = pawn.direction ∧
      (pawn.operate (buttonEvent button state)).buttonsDownOld = pawn.buttonsDownOld := by
  rw [operate_buttonEvent_eq]
  split <;> exact ⟨rfl, rfl⟩

variable {start controls : AFGDefaultPawn α μ} {previous : EFGInputButtons → EFGButtonState}

theorem takeSamples_quiet {events : List Event} (quiet : ∀ event ∈ events, event.isTick = false)
    (inHand : InHand start controls previous) :
    takeSamples controls events = .ok (events.foldl AFGDefaultPawn.operate controls, []) ∧
      InHand start (events.foldl AFGDefaultPawn.operate controls) previous := by
  induction events generalizing controls with
  | nil => exact ⟨rfl, inHand⟩
  | cons event events ih =>
      have still := quiet event List.mem_cons_self
      obtain ⟨tail, inHand'⟩ := ih (fun other member => quiet other (List.mem_cons_of_mem event member))
        (inHand_operate inHand still)
      exact ⟨EventRun.run_cons.mpr ⟨_, [], [], takeSample_quiet controls still, tail, rfl⟩, inHand'⟩

theorem setup_shown (positive : 0 < controls.directionThreshold)
    (inHand : InHand start controls previous) {frame : PlayerFrame}
    (succeeds : ∀ button, Succeeds (previous button) (frame.buttons button)) (expiration : Rat) :
    ((frame.setup controls.directionThreshold expiration).foldl AFGDefaultPawn.operate
      controls).shown = frame := by
  let stick := controls.atStick (axisValue controls.directionThreshold frame.direction.axes.1)
    (axisValue controls.directionThreshold frame.direction.axes.2)
  let left := stick.operate (buttonEvent .leftFace (frame.buttons .leftFace))
  let top := left.operate (buttonEvent .topFace (frame.buttons .topFace))
  obtain ⟨leftStick, leftOld⟩ :=
    operate_buttonEvent_rest stick .leftFace (frame.buttons .leftFace)
  obtain ⟨topStick, topOld⟩ := operate_buttonEvent_rest left .topFace (frame.buttons .topFace)
  have direction : top.direction = frame.direction := by
    rw [topStick, leftStick, direction_atStick, axisPart_value positive, axisPart_value positive,
      ofAxes_axes]
  have state : ∀ button : EFGInputButtons,
      buttonState top.buttonsDown top.buttonsDownOld button.toNat = frame.buttons button := by
    intro button
    rw [topOld, leftOld]
    apply buttonState_shows (inHand.cached button) (succeeds button)
    rw [operate_buttonEvent, operate_buttonEvent]
    cases button <;> rfl
  calc
    _ = (⟨top.direction, fun button =>
        buttonState top.buttonsDown top.buttonsDownOld button.toNat⟩ : PlayerFrame) := rfl
    _ = ⟨frame.direction, frame.buttons⟩ := by rw [direction, funext state]

theorem frame_played (equipped : start.Equipped) (positive : 0 < start.directionThreshold)
    (inHand : InHand start controls previous) {sample : Sample α} {frame : PlayerFrame}
    (shows : Shows start sample frame)
    (succeeds : ∀ button, Succeeds (previous button) (frame.buttons button)) :
    ∃ events next, (∀ event ∈ events, event.Clamped) ∧
      takeSamples controls events = .ok (next, [sample]) ∧ InHand start next frame.buttons := by
  rw [← inHand.threshold] at positive
  let setup := frame.setup controls.directionThreshold sample.expiration
  let ready := setup.foldl AFGDefaultPawn.operate controls
  obtain ⟨quiet, inHand'⟩ :=
    takeSamples_quiet (setup_isTick frame controls.directionThreshold sample.expiration) inHand
  have shown : ready.shown = frame := setup_shown positive inHand succeeds sample.expiration
  have sampled : ready.sample sample.deltaSeconds sample.frame.stamp = .ok sample := by
    refine sample_ok.mpr ⟨?_, rfl, rfl, rfl⟩
    rw [equipped_frameAtoms (inHand_equipped inHand' equipped), inHand_atoms inHand', shown,
      shows.atoms]
  have ticked : takeSample ready (.tick sample.deltaSeconds sample.frame.stamp) =
      .ok (ready.operate (.tick sample.deltaSeconds sample.frame.stamp), [sample]) := by
    rw [takeSample, sampled]
  have inHand'' := (inHand_tick inHand' sample.deltaSeconds sample.frame.stamp).2
  rw [shown] at inHand''
  refine ⟨setup ++ [.tick sample.deltaSeconds sample.frame.stamp], _, ?_,
    EventRun.run_concat quiet ticked, inHand''⟩
  intro event member
  rcases List.mem_append.mp member with before | last
  · exact setup_clamped frame controls.directionThreshold shows.nonneg event before
  · rw [List.mem_singleton.mp last]
    trivial

theorem frames_played (equipped : start.Equipped) (positive : 0 < start.directionThreshold)
    (inHand : InHand start controls previous) {samples : List (Sample α)} {frames : List PlayerFrame}
    (shows : List.Forall₂ (Shows start) samples frames)
    (chains : ∀ button, (previous button :: frames.map (fun frame => frame.buttons button)).IsChain
      Succeeds) :
    ∃ events next, (∀ event ∈ events, event.Clamped) ∧
      takeSamples controls events = .ok (next, samples) := by
  induction shows generalizing controls previous with
  | nil => exact ⟨[], controls, fun _ member => absurd member List.not_mem_nil, rfl⟩
  | @cons sample frame samples frames shown _ ih =>
      have succeeds := fun button => (List.isChain_cons_cons.mp (chains button)).1
      obtain ⟨now, next, clamped, played, inHand'⟩ :=
        frame_played equipped positive inHand shown succeeds
      obtain ⟨later, final, clamped', played'⟩ :=
        ih inHand' (fun button => (List.isChain_cons_cons.mp (chains button)).2)
      refine ⟨now ++ later, final, ?_,
        EventRun.run_append.mpr ⟨next, [sample], samples, played, played', rfl⟩⟩
      intro event member
      exact (List.mem_append.mp member).elim (clamped event) (clamped' event)

/-- The samples that can be made of the controls are those of frames in which each button goes through
a coherent history of states. -/
theorem playable_samples {start : AFGDefaultPawn α μ} (guards : start.beginPlay = .ok ())
    (positive : 0 < start.directionThreshold) (nonneg : 0 ≤ start.inputExpirationTime)
    (cached : start.buttonsDownOld = 0) (samples : List (Sample α)) :
    (∃ events controls, (∀ event ∈ events, event.Clamped) ∧
      takeSamples start.controls events = .ok (controls, samples)) ↔
    ∃ frames, List.Forall₂ (Shows start) samples frames ∧
      ∀ button, CoherentHistory (frames.map (fun frame => frame.buttons button)) := by
  have equipped := guarded_equipped (beginPlay_guards guards)
  have inHand : InHand start start.controls (fun _ => .up) := by
    refine ⟨rfl, fun _ => rfl, rfl, fun button => ?_⟩
    change bitSet start.buttonsDownOld button.toNat = false
    rw [cached, bitSet_eq]
    simp
  constructor
  · intro played
    rcases played with ⟨events, controls, clamped, taken⟩
    obtain ⟨frames, shows, chains⟩ := samples_shown equipped inHand nonneg clamped taken
    exact ⟨frames, shows, fun button => coherentHistory_of_chain (chains button)⟩
  · intro coherent
    rcases coherent with ⟨frames, shows, coherent⟩
    obtain ⟨events, controls, clamped, taken⟩ := frames_played equipped positive inHand shows
      (fun button => coherentHistory_chain (coherent button))
    exact ⟨events, controls, clamped, taken⟩

theorem playable_samples_sample :
    ∃ events controls, (∀ event ∈ events, event.Clamped) ∧
      takeSamples (samplePawn .standing).controls events = .ok (controls,
        [⟨⟨0, [some (.inl .forward), some (.inr .up), some (.inr .up)], rfl⟩, 1 / 60, 3 / 4⟩,
          ⟨⟨1 / 60, [some (.inl .forward), some (.inr .justPressed), some (.inr .up)], rfl⟩,
            1 / 60, 3 / 4⟩]) := by
  have positive : 0 < (samplePawn .standing).directionThreshold := by decide +kernel
  have nonneg : (0 : Rat) ≤ 3 / 4 := by decide +kernel
  have guards : (samplePawn .standing).beginPlay = .ok () := by decide +kernel
  apply (playable_samples guards positive nonneg rfl _).mpr
  refine ⟨[⟨.forward, fun _ => .up⟩,
    ⟨.forward, fun button => if button = .leftFace then .justPressed else .up⟩],
    .cons ⟨rfl, nonneg⟩ (.cons ⟨rfl, nonneg⟩ .nil), fun button => ?_⟩
  apply coherentHistory_of_chain
  cases button <;> simp [Succeeds]

end SmFighting
