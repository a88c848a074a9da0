import SmFighting.FollowedLinks
import SmFighting.RunSimulation
import SmFighting.Library.Outcome

namespace SmFighting

variable {α σ μ : Type} [DecidableEq α]

inductive SameTransition : Option (USMTransitionBase α σ) → Option (USMTransitionBase α σ) → Prop
  | usmTransition (destinationState : Option σ) (bReverseInputTest : Bool) {inputs inputs' : List α}
      (same : ∀ atom, atom ∈ inputs ↔ atom ∈ inputs') :
      SameTransition (some (.usmTransition destinationState bReverseInputTest inputs))
        (some (.usmTransition destinationState bReverseInputTest inputs'))

/-- States alike in all but how refusing is spelt, which list a transition is on and what can never be
taken. -/
structure SameState (state state' : USMState α σ) : Prop where
  stateClass : state'.stateClass = state.stateClass
  bTerminateImmediately : state'.bTerminateImmediately = state.bTerminateImmediately
  bLoopByDefault : state'.bLoopByDefault = state.bLoopByDefault
  accepts : state'.completionType = .accepted ↔ state.completionType = .accepted
  transitions : List.Forall₂ SameTransition
    ((state.instancedTransitions ++ state.sharedTransitions).filter (fun entry => !inert entry))
    ((state'.instancedTransitions ++ state'.sharedTransitions).filter (fun entry => !inert entry))

structure SameLink {graph graph' : σ → USMState (Option α) σ} (link : UFGMoveLink graph μ)
    (link' : UFGMoveLink graph' μ) : Prop where
  move : link'.move = link.move
  windows : ∀ window, window ∈ link'.cancelWindows ↔ window ∈ link.cancelWindows
  bClearInput : link'.bClearInput = link.bClearInput
  machine : link'.inputStateMachine.map (fun machine => machine.1) =
    link.inputStateMachine.map (fun machine => machine.1)

structure SameAssets (assets assets' : Assets α σ μ) : Prop where
  state : ∀ state, SameState (assets.state state) (assets'.state state)
  links : ∀ move, List.Forall₂ (Option.Rel SameLink) (assets.move move).linkedMoves
    (assets'.move move).linkedMoves
  bClearInputOnEntry : ∀ move,
    (assets'.move move).bClearInputOnEntry = (assets.move move).bClearInputOnEntry
  bClearInputOnExit : ∀ move,
    (assets'.move move).bClearInputOnExit = (assets.move move).bClearInputOnExit

theorem sameTransition_destination {entry entry' : Option (USMTransitionBase α σ)}
    (same : SameTransition entry entry') (dataSource : List α) (dataIndex : Nat) :
    destination dataSource dataIndex entry' = destination dataSource dataIndex entry := by
  cases same with
  | @usmTransition destinationState bReverseInputTest inputs inputs' same =>
      have test : ∀ atom, inputs'.contains atom = inputs.contains atom := by
        intro atom
        rw [Bool.eq_iff_iff, List.contains_iff_mem, List.contains_iff_mem, same]
      simp only [destination, Option.bind_some, USMTransitionBase.tryTransition, test]

theorem sameTransitions_taken {entries entries' : List (Option (USMTransitionBase α σ))}
    (same : List.Forall₂ SameTransition entries entries') (dataSource : List α) (dataIndex : Nat) :
    entries'.findSome? (destination dataSource dataIndex) =
      entries.findSome? (destination dataSource dataIndex) := by
  induction same with
  | nil => rfl
  | cons first _ ih =>
      rw [List.findSome?_cons, List.findSome?_cons, sameTransition_destination first, ih]

theorem sameState_nextMove {graph graph' : σ → USMState α σ}
    (same : ∀ state, SameState (graph state) (graph' state)) (dataSource : List α) :
    nextMove graph' dataSource = nextMove graph dataSource := by
  funext c
  have ends : mustEnd graph' dataSource c.1 c.2 = mustEnd graph dataSource c.1 c.2 := by
    rw [mustEnd, mustEnd, (same c.1).bTerminateImmediately]
  have taken : takenTransition graph' dataSource c.1 c.2 =
      takenTransition graph dataSource c.1 c.2 := by
    calc
      _ = _ := (findSome_active dataSource c.2 _).symm
      _ = _ := sameTransitions_taken (same c.1).transitions dataSource c.2
      _ = _ := findSome_active dataSource c.2 _
  simp only [nextMove, ends, taken, (same c.1).bLoopByDefault, (same c.1).stateClass]

/-- What TryLinks reads of a result: whether it is accepted, and then how far it came. -/
def acceptedIndex (result : FStateMachineResult σ) : Option Nat :=
  if result.completionType = .accepted then some result.dataIndex else none

theorem sameState_accepts {graph graph' : σ → USMState α σ}
    (same : ∀ state, SameState (graph state) (graph' state)) (dataSource : List α) (state : σ) :
    acceptedIndex (runState graph' dataSource state 0 (-1)) =
      acceptedIndex (runState graph dataSource state 0 (-1)) := by
  rw [runState_unlimited _ _ _ _ _ (by omega), runState_unlimited _ _ _ _ _ (by omega), finish, finish,
    sameState_nextMove same]
  exact if_congr (same _).accepts rfl rfl

section
variable {graph graph' : σ → USMState (Option α) σ}

theorem sameLink_accepts (same : ∀ state, SameState (graph state) (graph' state))
    {link : UFGMoveLink graph μ} {link' : UFGMoveLink graph' μ} (alike : SameLink link link')
    (timeInMove : Rat) (inputAtoms : List (Option α)) :
    acceptedIndex (tryLink link' timeInMove inputAtoms 0 (-1)) =
      acceptedIndex (tryLink link timeInMove inputAtoms 0 (-1)) := by
  have empty : link'.cancelWindows.isEmpty = link.cancelWindows.isEmpty := by
    rw [Bool.eq_iff_iff, List.isEmpty_iff, List.isEmpty_iff, List.eq_nil_iff_forall_not_mem,
      List.eq_nil_iff_forall_not_mem]
    simp only [alike.windows]
  have cancels : bCanCancel link' timeInMove = bCanCancel link timeInMove := by
    rw [Bool.eq_iff_iff, bCanCancel, bCanCancel, List.any_eq_true, List.any_eq_true]
    simp only [alike.windows]
  have machine := alike.machine
  rw [tryLink, tryLink, alike.move, empty, cancels]
  generalize link.inputStateMachine = started at machine
  generalize link'.inputStateMachine = started' at machine
  rcases started with _ | started <;> rcases started' with _ | started'
  · rfl
  · cases machine
  · cases machine
  · have start : started'.1 = started.1 := Option.some.inj machine
    cases link.move with
    | none => rfl
    | some target =>
        simp only [start]
        split
        · exact sameState_accepts same inputAtoms started.1
        · rfl

structure SameResult (result : FFGMoveLinkToFollow graph μ)
    (result' : FFGMoveLinkToFollow graph' μ) : Prop where
  index : acceptedIndex result'.smResult = acceptedIndex result.smResult
  link : result.smResult.completionType = .accepted → Option.Rel SameLink result.link result'.link

theorem acceptedIndex_some {result : FStateMachineResult σ} {dataIndex : Nat} :
    acceptedIndex result = some dataIndex ↔
      result.completionType = .accepted ∧ result.dataIndex = dataIndex := by
  simp [acceptedIndex]

theorem acceptedIndex_none {result : FStateMachineResult σ} :
    acceptedIndex result = none ↔ result.completionType ≠ .accepted := by
  simp [acceptedIndex]

theorem tryLinks_same (same : ∀ state, SameState (graph state) (graph' state)) (timeInMove : Rat)
    (inputAtoms : List (Option α)) {linkedMoves : List (Option (UFGMoveLink graph μ))}
    {linkedMoves' : List (Option (UFGMoveLink graph' μ))}
    (links : List.Forall₂ (Option.Rel SameLink) linkedMoves linkedMoves')
    {start : FFGMoveLinkToFollow graph μ} {start' : FFGMoveLinkToFollow graph' μ}
    (alike : SameResult start start') :
    Outcome.Same SameResult (tryLinks timeInMove inputAtoms 0 (-1) linkedMoves start)
      (tryLinks timeInMove inputAtoms 0 (-1) linkedMoves' start') := by
  induction links generalizing start start' with
  | nil => exact .ok alike
  | cons entry _ ih =>
      cases entry with
      | none => exact .error Fault.nullPointer
      | @some link link' alike =>
          refine Outcome.same_bind (.ok alike) ?_
          intro link link' alike
          rw [alike.move]
          refine Outcome.same_bind (Outcome.same_refl (fun _ => rfl) (deref link.move)) ?_
          intro target _ same'
          have index := sameLink_accepts same alike timeInMove inputAtoms
          simp only
          by_cases accepted : (tryLink link timeInMove inputAtoms 0 (-1)).completionType = .accepted
          · have opened := acceptedIndex_some.mpr ⟨accepted, rfl⟩
            have accepted' := (acceptedIndex_some.mp (index.trans opened)).1
            rw [if_pos accepted, if_pos accepted']
            exact .ok ⟨index, fun _ => .some alike⟩
          · have shut := acceptedIndex_none.mpr accepted
            have accepted' := acceptedIndex_none.mp (index.trans shut)
            rw [if_neg accepted, if_neg accepted']
            exact ih ⟨index, fun impossible => absurd impossible accepted⟩

end

variable {assets assets' : Assets α σ μ}

structure SameRecord (record : TickRecord assets) (record' : TickRecord assets') : Prop where
  deltaSeconds : record'.deltaSeconds = record.deltaSeconds
  currentTime : record'.currentTime = record.currentTime
  before : record'.before = record.before
  atoms : record'.atoms = record.atoms
  seen : record'.seen = record.seen
  moveLinkToFollow : SameResult record.moveLinkToFollow record'.moveLinkToFollow
  followed : Option.Rel SameLink record.followed record'.followed
  after : record'.after = record.after

omit [DecidableEq α] in
theorem spendInput_same (same : SameAssets assets assets') {link : UFGMoveLink assets.state μ}
    {link' : UFGMoveLink assets'.state μ} (alike : SameLink link link')
    (pawn : AFGDefaultPawn α μ) (target current : μ) (dataIndex : Nat) :
    spendInput pawn link' (assets'.move target) (assets'.move current) dataIndex =
      spendInput pawn link (assets.move target) (assets.move current) dataIndex := by
  rw [spendInput, spendInput, alike.bClearInput, same.bClearInputOnEntry, same.bClearInputOnExit]

theorem tick_same (same : SameAssets assets assets') (pawn : AFGDefaultPawn α μ)
    (deltaSeconds currentTime : Rat) :
    Outcome.Same SameRecord (tick assets pawn deltaSeconds currentTime)
      (tick assets' pawn deltaSeconds currentTime) := by
  refine Outcome.same_bind (Outcome.same_refl (fun _ => rfl) pawn.frameAtoms) ?_
  rintro atoms _ rfl
  refine Outcome.same_bind (Outcome.same_refl (fun _ => rfl) _) ?_
  rintro seen _ rfl
  refine Outcome.same_bind (Outcome.same_refl (fun _ => rfl) (deref seen.currentMove)) ?_
  rintro current _ rfl
  have initial : SameResult ({} : FFGMoveLinkToFollow assets.state μ)
      ({} : FFGMoveLinkToFollow assets'.state μ) :=
    ⟨rfl, fun impossible => by cases impossible⟩
  refine Outcome.same_bind (tryLinks_same same.state _ _ (same.links current) initial) ?_
  intro result result' alike
  by_cases accepted : result.smResult.completionType = .accepted
  · have opened := acceptedIndex_some.mpr ⟨accepted, rfl⟩
    obtain ⟨accepted', index⟩ := acceptedIndex_some.mp (alike.index.trans opened)
    rw [if_pos accepted, if_pos accepted', index]
    have linked := alike.link accepted
    refine Outcome.same_bind (R := SameLink) ?_ ?_
    · generalize result.link = link at linked
      generalize result'.link = link' at linked
      cases linked with
      | none => exact .error Fault.nullPointer
      | some alike => exact .ok alike
    · intro link link' same'
      rw [same'.move]
      refine Outcome.same_bind (Outcome.same_refl (fun _ => rfl) (deref link.move)) ?_
      rintro target _ rfl
      rw [spendInput_same same same']
      refine Outcome.same_bind (Outcome.same_refl (fun _ => rfl) _) ?_
      rintro spent _ rfl
      exact .ok ⟨rfl, rfl, rfl, rfl, rfl, alike, .some same', rfl⟩
  · have shut := acceptedIndex_none.mpr accepted
    have accepted' := acceptedIndex_none.mp (alike.index.trans shut)
    rw [if_neg accepted, if_neg accepted']
    exact .ok ⟨rfl, rfl, rfl, rfl, rfl, alike, .none, rfl⟩

theorem react_same (same : SameAssets assets assets') (pawn : AFGDefaultPawn α μ) (event : Event) :
    Outcome.Same (fun next next' => next'.1 = next.1 ∧ List.Forall₂ SameRecord next.2 next'.2)
      (react assets pawn event) (react assets' pawn event) := by
  cases event with
  | tick deltaSeconds currentTime =>
      have alike := tick_same same pawn deltaSeconds currentTime
      rw [react_tick_eq, react_tick_eq]
      generalize tick assets pawn deltaSeconds currentTime = outcome at alike
      generalize tick assets' pawn deltaSeconds currentTime = outcome' at alike
      cases alike with
      | error fault => exact .error fault
      | ok alike => exact .ok ⟨alike.after, .cons alike .nil⟩
  | _ => exact .ok ⟨rfl, .nil⟩

/-- Play depends on the assets only through the active transitions of each state in their order (not
through the list that holds them), the sets of their inputs and of the cancel windows, whether a
completion type is accepted or not, and the links and flags: assets that agree on these are played alike,
Tick by Tick, up to the same fault if there is one. -/
theorem same_play (same : SameAssets assets assets') (start : AFGDefaultPawn α μ)
    (events : List Event) :
    Outcome.Same (fun final final' => final'.1 = final.1 ∧ List.Forall₂ SameRecord final.2 final'.2)
      (runPawn assets start events) (runPawn assets' start events) :=
  Outcome.same_run (react_same same) start events

def strictState (state : SampleState) : USMState (Option SampleAtom) SampleState :=
  { sampleState state with
    completionType := if state = .struck then .accepted else .rejected
    instancedTransitions := [none]
    sharedTransitions := (sampleState state).instancedTransitions ++
      some (.ufgInputTransition (some .struck)) :: (sampleState state).sharedTransitions }

def strictAssets : Assets SampleAtom SampleState SampleMove where
  state := strictState
  move
    | .standing => {
        linkedMoves := [some { move := some .jab, inputStateMachine := some ⟨.neutralStick, rfl⟩ }] }
    | .jab => {
        linkedMoves := [some {
          move := some .jab, cancelWindows := [⟨1 / 10, 1 / 2⟩, ⟨1 / 10, 1 / 2⟩]
          inputStateMachine := some ⟨.neutralStick, rfl⟩ }] }
    | .crouching => {
        linkedMoves := [some { move := some .standing, inputStateMachine := some ⟨.stickOnly, rfl⟩ }] }

theorem strict_same : SameAssets sampleAssets strictAssets where
  state := by
    intro state
    refine ⟨rfl, rfl, rfl, by cases state <;> decide, ?_⟩
    cases state
    case struck => exact .nil
    all_goals exact .cons (.usmTransition _ _ (fun _ => Iff.rfl)) .nil
  links := by
    intro move
    cases move
    case jab =>
      exact .cons (.some ⟨rfl, fun _ => by simp, rfl, rfl⟩) .nil
    all_goals exact .cons (.some ⟨rfl, fun _ => Iff.rfl, rfl, rfl⟩) .nil
  bClearInputOnEntry := fun move => by cases move <;> rfl
  bClearInputOnExit := fun move => by cases move <;> rfl

theorem same_play_sample :
    Outcome.Same (fun final final' => final'.1 = final.1 ∧ List.Forall₂ SameRecord final.2 final'.2)
      (runPawn sampleAssets (samplePawn .standing) sampleEvents)
      (runPawn strictAssets (samplePawn .standing) sampleEvents) :=
  same_play strict_same (samplePawn .standing) sampleEvents

end SmFighting
