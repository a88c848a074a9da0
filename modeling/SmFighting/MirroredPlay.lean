import SmFighting.RunSimulation
import SmFighting.StickDirections
import SmFighting.Library.Outcome

namespace SmFighting

variable {α σ μ : Type}

def USMTransitionBase.exchanged (exchange : α → α) : USMTransitionBase α σ → USMTransitionBase α σ
  | .usmTransition destinationState bReverseInputTest acceptableInputs =>
      .usmTransition destinationState bReverseInputTest (acceptableInputs.map exchange)
  | .ufgInputTransition destinationState => .ufgInputTransition destinationState

def USMState.exchanged (exchange : α → α) (state : USMState α σ) : USMState α σ :=
  { state with
    instancedTransitions :=
      state.instancedTransitions.map (Option.map (USMTransitionBase.exchanged exchange))
    sharedTransitions :=
      state.sharedTransitions.map (Option.map (USMTransitionBase.exchanged exchange)) }

def UFGMoveLink.exchanged (exchange : α → α) {graph : σ → USMState (Option α) σ}
    (link : UFGMoveLink graph μ) :
    UFGMoveLink (fun state => (graph state).exchanged (Option.map exchange)) μ where
  move := link.move
  cancelWindows := link.cancelWindows
  bClearInput := link.bClearInput
  inputStateMachine := link.inputStateMachine.map (fun machine => ⟨machine.1, machine.2⟩)

def Assets.exchanged (exchange : α → α) (assets : Assets α σ μ) : Assets α σ μ where
  state state := (assets.state state).exchanged (Option.map exchange)
  move move := {
    linkedMoves := (assets.move move).linkedMoves.map (Option.map (UFGMoveLink.exchanged exchange))
    bClearInputOnEntry := (assets.move move).bClearInputOnEntry
    bClearInputOnExit := (assets.move move).bClearInputOnExit }

section
variable [DecidableEq α] {exchange : α → α}

theorem exchanged_contains (injective : Function.Injective exchange) (atom : α) (inputs : List α) :
    (inputs.map exchange).contains (exchange atom) = inputs.contains atom := by
  rw [Bool.eq_iff_iff, List.contains_iff_mem, List.contains_iff_mem,
    List.mem_map_of_injective injective]

theorem exchanged_destination (injective : Function.Injective exchange) (dataSource : List α)
    (dataIndex : Nat) (entry : Option (USMTransitionBase α σ)) :
    destination (dataSource.map exchange) dataIndex
        (entry.map (USMTransitionBase.exchanged exchange)) =
      destination dataSource dataIndex entry := by
  cases entry with
  | none => rfl
  | some transition =>
      cases transition with
      | usmTransition destinationState bReverseInputTest inputs =>
          have test : (dataSource.map exchange)[dataIndex]?.any
                (fun atom => (inputs.map exchange).contains atom) =
              dataSource[dataIndex]?.any (fun atom => inputs.contains atom) := by
            rw [List.getElem?_map, Option.any_map]
            simp only [exchanged_contains injective]
          simp only [destination, Option.map_some, Option.bind_some, USMTransitionBase.exchanged,
            USMTransitionBase.tryTransition, test]
      | ufgInputTransition destinationState => rfl

theorem exchanged_runState (injective : Function.Injective exchange) (graph : σ → USMState α σ)
    (dataSource : List α) (state : σ) (dataIndex : Nat) (remainingSteps : Int) :
    runState (fun state => (graph state).exchanged exchange) (dataSource.map exchange) state dataIndex
        remainingSteps = runState graph dataSource state dataIndex remainingSteps := by
  have same : SameMoves graph (fun state => (graph state).exchanged exchange) dataSource
      (dataSource.map exchange) 0 := {
    stateClass := fun _ => rfl
    completionType := fun _ => rfl
    bLoopByDefault := fun _ => rfl
    mustEnd := fun state i => by
      rw [Nat.zero_add, mustEnd, mustEnd, isValidIndex, isValidIndex, List.length_map]
      rfl
    taken := fun state i => by
      rw [Nat.zero_add, takenTransition, takenTransition, USMState.exchanged, ← List.map_append,
        List.findSome?_map]
      congr 1
      funext entry
      exact exchanged_destination injective dataSource i entry }
  have run := runState_sameMoves same state dataIndex remainingSteps
  rw [Nat.zero_add] at run
  rw [run, FStateMachineResult.shift, Nat.zero_add]

variable {graph : σ → USMState (Option α) σ}

theorem exchanged_tryLink (injective : Function.Injective exchange) (link : UFGMoveLink graph μ)
    (timeInMove : Rat) (inputAtoms : List (Option α)) :
    tryLink (link.exchanged exchange) timeInMove (inputAtoms.map (Option.map exchange)) 0 (-1) =
      tryLink link timeInMove inputAtoms 0 (-1) := by
  have cancels : bCanCancel (link.exchanged exchange) timeInMove = bCanCancel link timeInMove := rfl
  rw [tryLink, tryLink, cancels, UFGMoveLink.exchanged]
  cases link.inputStateMachine with
  | none => rfl
  | some machine =>
      cases link.move with
      | none => rfl
      | some target =>
          have run := exchanged_runState (Option.map_injective injective) graph inputAtoms machine.1 0
            (-1)
          change (if (bCanCancel link timeInMove || link.cancelWindows.isEmpty) = true then
            runState (fun state => (graph state).exchanged (Option.map exchange))
              (inputAtoms.map (Option.map exchange)) machine.1 0 (-1) else {}) = _
          rw [run]

end

def FFGMoveLinkToFollow.exchanged (exchange : α → α) {graph : σ → USMState (Option α) σ}
    (result : FFGMoveLinkToFollow graph μ) :
    FFGMoveLinkToFollow (fun state => (graph state).exchanged (Option.map exchange)) μ :=
  { link := result.link.map (UFGMoveLink.exchanged exchange), smResult := result.smResult }

def AFGDefaultPawn.mirrored (exchange : α → α) (pawn : AFGDefaultPawn α μ) : AFGDefaultPawn α μ :=
  { pawn with
    directionInput := ⟨-pawn.directionInput.x, pawn.directionInput.y⟩
    inputStream := pawn.inputStream.map (Option.map exchange) }

def Event.mirrored : Event → Event
  | .readXAxis value => .readXAxis (-value)
  | event => event

def TickRecord.mirrored (exchange : α → α) {assets : Assets α σ μ} (record : TickRecord assets) :
    TickRecord (assets.exchanged exchange) where
  deltaSeconds := record.deltaSeconds
  currentTime := record.currentTime
  before := record.before.mirrored exchange
  atoms := record.atoms.map (Option.map exchange)
  seen := record.seen.mirrored exchange
  moveLinkToFollow := record.moveLinkToFollow.exchanged exchange
  followed := record.followed.map (UFGMoveLink.exchanged exchange)
  after := record.after.mirrored exchange

/-- The exchange takes the atom of each direction to that of the mirrored one and leaves the buttons'
atoms alone, and the stick is off the line where the sides meet unevenly. -/
structure Mirrorable (exchange : α → α) (pawn : AFGDefaultPawn α μ) : Prop where
  directions : ∀ direction,
    pawn.directionAtom direction.mirrorX = (pawn.directionAtom direction).map exchange
  buttonAtoms : pawn.buttonAtoms.map (Option.map exchange) = pawn.buttonAtoms
  threshold : 0 ≤ pawn.directionThreshold
  offBoundary : |pawn.directionInput.x| ≠ pawn.directionThreshold

def Event.OffBoundary (threshold : Rat) : Event → Prop
  | .readXAxis value => |value| ≠ threshold
  | _ => True

variable {exchange : α → α}

theorem mirrored_direction {pawn : AFGDefaultPawn α μ} (mirrorable : Mirrorable exchange pawn) :
    (pawn.mirrored exchange).direction = pawn.direction.mirrorX := by
  have image : (pawn.mirrored exchange).direction =
      .ofAxes (axisPart pawn.directionThreshold (-pawn.directionInput.x))
        (axisPart pawn.directionThreshold pawn.directionInput.y) :=
    direction_atStick (pawn.mirrored exchange) (-pawn.directionInput.x) pawn.directionInput.y
  have original : pawn.direction =
      .ofAxes (axisPart pawn.directionThreshold pawn.directionInput.x)
        (axisPart pawn.directionThreshold pawn.directionInput.y) :=
    direction_atStick pawn pawn.directionInput.x pawn.directionInput.y
  rw [image, original]
  exact (ofAxes_mirrorX _ _ _).mpr ((axisPart_neg mirrorable.threshold).mpr mirrorable.offBoundary)

theorem mirrored_buttonAtom {pawn : AFGDefaultPawn α μ} (mirrorable : Mirrorable exchange pawn) (i : Nat) :
    (pawn.mirrored exchange).buttonAtom i = (pawn.buttonAtom i).map (Option.map exchange) := by
  let n := (buttonState pawn.buttonsDown pawn.buttonsDownOld i).toNat
  have found : pawn.buttonAtoms[n]? = (pawn.buttonAtoms[n]?).map (Option.map exchange) := by
    calc
      _ = (pawn.buttonAtoms.map (Option.map exchange))[n]? := by rw [mirrorable.buttonAtoms]
      _ = _ := List.getElem?_map
  have read : pawn.buttonAtom i = (pawn.buttonAtoms[n]?).elim (.error .buttonAtomsRange) .ok := by
    rw [AFGDefaultPawn.buttonAtom]
    cases pawn.buttonAtoms[n]? <;> rfl
  change pawn.buttonAtom i = _
  rw [read]
  generalize pawn.buttonAtoms[n]? = atom at found
  cases atom with
  | none => rfl
  | some atom => exact congrArg Except.ok (Option.some.inj found)

theorem mirrored_frameAtoms {pawn : AFGDefaultPawn α μ} (mirrorable : Mirrorable exchange pawn) :
    (pawn.mirrored exchange).frameAtoms = pawn.frameAtoms.map (List.map (Option.map exchange)) := by
  have directional : deref ((pawn.mirrored exchange).directionAtom (pawn.mirrored exchange).direction) =
      (deref (pawn.directionAtom pawn.direction)).map exchange := by
    rw [mirrored_direction mirrorable]
    change deref (pawn.directionAtom pawn.direction.mirrorX) = _
    rw [mirrorable.directions]
    cases pawn.directionAtom pawn.direction <;> rfl
  have two : List.range EFGInputButtons.count = [0, 1] := rfl
  simp only [AFGDefaultPawn.frameAtoms, directional, two, List.mapM_cons, List.mapM_nil,
    mirrored_buttonAtom mirrorable]
  cases deref (pawn.directionAtom pawn.direction) with
  | error fault => rfl
  | ok atom =>
      cases pawn.buttonAtom 0 with
      | error fault => rfl
      | ok left => cases pawn.buttonAtom 1 <;> rfl

theorem mirrored_recordFrame (pawn : AFGDefaultPawn α μ) (atoms : List (Option α))
    (currentTime : Rat) :
    (pawn.mirrored exchange).recordFrame (atoms.map (Option.map exchange)) currentTime =
      (pawn.recordFrame atoms currentTime).mirrored exchange := by
  rw [AFGDefaultPawn.mirrored, AFGDefaultPawn.mirrored, AFGDefaultPawn.recordFrame,
    AFGDefaultPawn.recordFrame, List.map_append]

theorem removeAt_map {β γ : Type} (f : β → γ) (array : List β) (index count : Nat) :
    removeAt (array.map f) index count = (removeAt array index count).map (List.map f) := by
  rw [removeAt, removeAt, List.length_map]
  split
  · rw [← List.map_take, ← List.map_drop, ← List.map_append]
    rfl
  · rfl

theorem mirrored_removeAt (pawn : AFGDefaultPawn α μ) (count : Nat) :
    removeAt (pawn.mirrored exchange).inputStream 0 count =
      (removeAt pawn.inputStream 0 count).map (List.map (Option.map exchange)) :=
  removeAt_map _ _ _ _

theorem mirrored_pruneInput (pawn : AFGDefaultPawn α μ) (currentTime : Rat) :
    (pawn.mirrored exchange).pruneInput currentTime =
      (pawn.pruneInput currentTime).map (AFGDefaultPawn.mirrored exchange) := by
  have length : (pawn.mirrored exchange).inputStream.length = pawn.inputStream.length :=
    List.length_map _
  rw [AFGDefaultPawn.pruneInput, AFGDefaultPawn.pruneInput, length]
  change (pruneLoop pawn.inputTimeStamps pawn.inputExpirationTime currentTime
    pawn.inputStream.length 0 >>= _) = _
  cases pruneLoop pawn.inputTimeStamps pawn.inputExpirationTime currentTime
    pawn.inputStream.length 0 with
  | error fault => rfl
  | ok index =>
      cases index with
      | none => rfl
      | some i =>
          have stamps : (pawn.mirrored exchange).inputTimeStamps = pawn.inputTimeStamps := rfl
          simp only [Bind.bind, Except.bind, mirrored_removeAt, stamps]
          split
          · cases removeAt pawn.inputTimeStamps 0 i with
            | error fault => rfl
            | ok stamps => cases removeAt pawn.inputStream 0 (i * (EFGInputButtons.count + 1)) <;> rfl
          · rfl

variable {assets : Assets α σ μ}

theorem mirrored_spendInput (pawn : AFGDefaultPawn α μ) (link : UFGMoveLink assets.state μ)
    (target current : μ) (dataIndex : Nat) :
    spendInput (pawn.mirrored exchange) (link.exchanged exchange)
        ((assets.exchanged exchange).move target) ((assets.exchanged exchange).move current) dataIndex =
      (spendInput pawn link (assets.move target) (assets.move current) dataIndex).map
        (AFGDefaultPawn.mirrored exchange) := by
  have stamps : (pawn.mirrored exchange).inputTimeStamps = pawn.inputTimeStamps := rfl
  have clears : (link.exchanged exchange).bClearInput = link.bClearInput := rfl
  have entry : ((assets.exchanged exchange).move target).bClearInputOnEntry =
      (assets.move target).bClearInputOnEntry := rfl
  have leaving : ((assets.exchanged exchange).move current).bClearInputOnExit =
      (assets.move current).bClearInputOnExit := rfl
  simp only [spendInput, clears, entry, leaving, mirrored_removeAt, stamps, Bind.bind, Except.bind]
  split
  · rfl
  · split
    · cases check (dataIndex % (1 + EFGInputButtons.count) = 0) with
      | error fault => rfl
      | ok whole =>
          cases removeAt pawn.inputTimeStamps 0 (dataIndex / (1 + EFGInputButtons.count)) with
          | error fault => rfl
          | ok stamps => cases removeAt pawn.inputStream 0 dataIndex <;> rfl
    · rfl

variable [DecidableEq α]

theorem exchanged_tryLinks (injective : Function.Injective exchange)
    {graph : σ → USMState (Option α) σ} (timeInMove : Rat) (inputAtoms : List (Option α))
    (linkedMoves : List (Option (UFGMoveLink graph μ))) (start : FFGMoveLinkToFollow graph μ) :
    tryLinks timeInMove (inputAtoms.map (Option.map exchange)) 0 (-1)
        (linkedMoves.map (Option.map (UFGMoveLink.exchanged exchange))) (start.exchanged exchange) =
      (tryLinks timeInMove inputAtoms 0 (-1) linkedMoves start).map
        (FFGMoveLinkToFollow.exchanged exchange) := by
  induction linkedMoves generalizing start with
  | nil => rfl
  | cons entry linkedMoves ih =>
      cases entry with
      | none => rfl
      | some link =>
          have tried := exchanged_tryLink injective link timeInMove inputAtoms
          have move : (link.exchanged exchange).move = link.move := rfl
          simp only [List.map_cons, Option.map_some, tryLinks, deref, Bind.bind, Except.bind, tried, move]
          cases link.move with
          | none => rfl
          | some target =>
              simp only
              split
              · rfl
              · exact ih { start with smResult := tryLink link timeInMove inputAtoms }

theorem mirrored_tick (injective : Function.Injective exchange) {pawn : AFGDefaultPawn α μ}
    (mirrorable : Mirrorable exchange pawn) (deltaSeconds currentTime : Rat) :
    tick (assets.exchanged exchange) (pawn.mirrored exchange) deltaSeconds currentTime =
      (tick assets pawn deltaSeconds currentTime).map (TickRecord.mirrored exchange) := by
  rw [tick, tick, mirrored_frameAtoms mirrorable]
  apply Outcome.bind_mapped
  intro atoms _
  rw [mirrored_recordFrame, mirrored_pruneInput]
  apply Outcome.bind_mapped
  intro seen _
  have move : (seen.mirrored exchange).currentMove = seen.currentMove := rfl
  rw [move]
  cases seen.currentMove with
  | none => rfl
  | some current =>
      have tried := exchanged_tryLinks injective seen.timeInCurrentMove seen.inputStream
        (assets.move current).linkedMoves {}
      change (tryLinks seen.timeInCurrentMove (seen.inputStream.map (Option.map exchange)) 0 (-1)
        ((assets.move current).linkedMoves.map (Option.map (UFGMoveLink.exchanged exchange)))
        (FFGMoveLinkToFollow.exchanged exchange {}) >>= _) = Except.map _ (tryLinks _ _ _ _ _ _ >>= _)
      rw [tried]
      apply Outcome.bind_mapped
      intro result _
      change (if result.smResult.completionType = .accepted then _ else _) = _
      split
      · change ((deref (result.link.map (UFGMoveLink.exchanged exchange))) >>= _) = _
        cases result.link with
        | none => rfl
        | some link =>
            change (deref link.move >>= _) = Except.map _ (deref link.move >>= _)
            cases link.move with
            | none => rfl
            | some target =>
                change (spendInput (seen.mirrored exchange) (link.exchanged exchange)
                  ((assets.exchanged exchange).move target) ((assets.exchanged exchange).move current)
                  result.smResult.dataIndex >>= _) = Except.map _ (spendInput _ _ _ _ _ >>= _)
                rw [mirrored_spendInput]
                apply Outcome.bind_mapped
                intro spent _
                rfl
      · rfl

theorem mirrored_react (injective : Function.Injective exchange) {pawn : AFGDefaultPawn α μ}
    (mirrorable : Mirrorable exchange pawn) (event : Event) :
    react (assets.exchanged exchange) (pawn.mirrored exchange) event.mirrored =
      (react assets pawn event).map
        (fun next => (next.1.mirrored exchange, next.2.map (TickRecord.mirrored exchange))) := by
  cases event with
  | tick deltaSeconds currentTime =>
      change react _ _ (.tick deltaSeconds currentTime) = _
      rw [react_tick_eq, react_tick_eq, mirrored_tick injective mirrorable]
      cases tick assets pawn deltaSeconds currentTime <;> rfl
  | _ => rfl

theorem mirrorable_react {pawn after : AFGDefaultPawn α μ} (mirrorable : Mirrorable exchange pawn)
    {event : Event} (offBoundary : event.OffBoundary pawn.directionThreshold)
    {records : List (TickRecord assets)} (reaction : react assets pawn event = .ok (after, records)) :
    Mirrorable exchange after ∧ after.directionThreshold = pawn.directionThreshold := by
  rcases mirrorable with ⟨directions, buttonAtoms, threshold, inside⟩
  cases event with
  | readXAxis value =>
      obtain ⟨rfl, -⟩ := Prod.mk.inj (Except.ok.inj reaction)
      exact ⟨⟨directions, buttonAtoms, threshold, offBoundary⟩, rfl⟩
  | tick deltaSeconds currentTime =>
      obtain ⟨record, ticked, rfl, -⟩ := react_tick reaction
      obtain ⟨complete, rfl, -, -⟩ := tick_complete ticked
      obtain ⟨stamps, stream, move, time, after⟩ := after_frame complete
      rw [after]
      refine ⟨⟨?_, buttonAtoms, threshold, inside⟩, rfl⟩
      intro direction
      have kept := directions direction
      cases direction <;> exact kept
  | _ =>
      obtain ⟨rfl, -⟩ := Prod.mk.inj (Except.ok.inj reaction)
      exact ⟨⟨directions, buttonAtoms, threshold, inside⟩, rfl⟩

/-- Fighting on the other side is the same game. With the atoms of mirrored directions exchanged in the
moves and the stick pushed the other way, a run is the mirror image of the run: the same links are
followed at the same Ticks, the same frames are kept, and it fails where the other does. -/
theorem mirrored_play (injective : Function.Injective exchange) {start : AFGDefaultPawn α μ}
    (mirrorable : Mirrorable exchange start) {events : List Event}
    (offBoundary : ∀ event ∈ events, event.OffBoundary start.directionThreshold) :
    runPawn (assets.exchanged exchange) (start.mirrored exchange) (events.map Event.mirrored) =
      (runPawn assets start events).map
        (fun final => (final.1.mirrored exchange, final.2.map (TickRecord.mirrored exchange))) := by
  apply @Outcome.run_mapped _ _ _ _ _ _ _ _ _ _ _ _
    (fun pawn => Mirrorable exchange pawn ∧ pawn.directionThreshold = start.directionThreshold)
    (Event.OffBoundary start.directionThreshold) _ _ _ ⟨mirrorable, rfl⟩ _ offBoundary
  · intro pawn event after records inv allowed reaction
    rcases inv with ⟨mirrorable, threshold⟩
    rw [← threshold] at allowed
    obtain ⟨mirrorable', same⟩ := mirrorable_react mirrorable allowed reaction
    exact ⟨mirrorable', same.trans threshold⟩
  · intro pawn event inv _
    exact mirrored_react injective inv.1 event

def sampleExchange : SampleAtom → SampleAtom
  | .inl direction => .inl direction.mirrorX
  | .inr state => .inr state

theorem sampleExchange_injective : Function.Injective sampleExchange := by
  intro atom atom' same
  rcases atom with direction | state <;> rcases atom' with direction' | state'
  · cases direction <;> cases direction' <;> first | rfl | cases same
  · cases same
  · cases same
  · exact same

theorem sample_mirrorable : Mirrorable sampleExchange (samplePawn .standing) where
  directions := fun direction => by cases direction <;> rfl
  buttonAtoms := rfl
  threshold := by decide +kernel
  offBoundary := by decide +kernel

def forwardEvents : List Event :=
  [.readXAxis 1, .leftButtonPressed, .tick (1 / 60) 0, .readXAxis 0, .tick (1 / 60) (1 / 60)]

theorem mirrored_play_sample :
    runPawn (sampleAssets.exchanged sampleExchange) ((samplePawn .standing).mirrored sampleExchange)
        (forwardEvents.map Event.mirrored) =
      (runPawn sampleAssets (samplePawn .standing) forwardEvents).map (fun final =>
        (final.1.mirrored sampleExchange, final.2.map (TickRecord.mirrored sampleExchange))) := by
  apply mirrored_play sampleExchange_injective sample_mirrorable
  simp only [forwardEvents, List.forall_mem_cons]
  refine ⟨?_, trivial, trivial, ?_, trivial, List.forall_mem_nil _⟩
  · change |(1 : Rat)| ≠ 1 / 2
    decide +kernel
  · change |(0 : Rat)| ≠ 1 / 2
    decide +kernel

end SmFighting
