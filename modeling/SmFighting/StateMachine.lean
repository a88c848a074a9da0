import Mathlib.Data.List.ReduceOption

/-! The BasicStateMachine plugin (SM_State) with the game's atoms (FGAtoms), state class (FGState)
and input transition (FGInputTransition). A pointer to a state is a value of `σ`, a pointer to an
atom a value of `α`, a pointer that may be null an option. DataIndex is a natural number: the callers
start at 0 and no step lowers it. RemainingSteps is an integer, since it counts down from -1. -/

namespace SmFighting

inductive EFGInputDirections
  | downBack | down | downForward | back | neutral | forward | upBack | up | upForward
  deriving DecidableEq, Repr

inductive EFGButtonState
  | up | justPressed | heldDown
  deriving DecidableEq, Repr

inductive EFGInputButtons
  | leftFace | topFace
  deriving DecidableEq, Repr

def EFGButtonState.toNat : EFGButtonState → Nat
  | .up => 0
  | .justPressed => 1
  | .heldDown => 2

def EFGButtonState.count : Nat := 3

def EFGInputButtons.toNat : EFGInputButtons → Nat
  | .leftFace => 0
  | .topFace => 1

def EFGInputButtons.count : Nat := 2

inductive EStateMachineCompletionType
  | notAccepted | accepted | rejected | outOfSteps
  deriving DecidableEq, Repr

structure FStateMachineResult (σ : Type) where
  completionType : EStateMachineCompletionType := .notAccepted
  finalState : Option σ := none
  dataIndex : Nat := 0
  deriving DecidableEq, Repr

/-- The two transition classes of the repository, with the fields their TryTransition reads. -/
inductive USMTransitionBase (α σ : Type)
  | usmTransition (destinationState : Option σ) (bReverseInputTest : Bool)
      (acceptableInputs : List α)
  | ufgInputTransition (destinationState : Option σ)
  deriving DecidableEq, Repr

/-- The dynamic class of a state, which selects its LoopState. -/
inductive USMStateClass
  | usmState | ufgState
  deriving DecidableEq, Repr

structure USMState (α σ : Type) where
  stateClass : USMStateClass
  completionType : EStateMachineCompletionType := .notAccepted
  bTerminateImmediately : Bool := false
  bLoopByDefault : Bool := true
  instancedTransitions : List (Option (USMTransitionBase α σ)) := []
  sharedTransitions : List (Option (USMTransitionBase α σ)) := []

variable {α σ : Type} [DecidableEq α]

def isValidIndex {β : Type} (array : List β) (index : Nat) : Bool := decide (index < array.length)

/-- The returned destination and the value written to OutDataIndex. -/
def USMTransitionBase.tryTransition (dataSource : List α) (dataIndex : Nat) :
    USMTransitionBase α σ → Option σ × Nat
  | .usmTransition destinationState bReverseInputTest acceptableInputs =>
      if dataSource[dataIndex]?.any (fun atom => acceptableInputs.contains atom) then
        (if bReverseInputTest then none else destinationState, dataIndex + 1)
      else
        (if bReverseInputTest then destinationState else none, dataIndex + 1)
  | .ufgInputTransition _ => (none, dataIndex)

/-- One of RunState's two loops over transitions. Every entry tried overwrites the shared
DestinationDataIndex, whether it succeeds or not. -/
def tryTransitions (dataSource : List α) (dataIndex : Nat) :
    List (Option (USMTransitionBase α σ)) → Nat → Option σ × Nat
  | [], destinationDataIndex => (none, destinationDataIndex)
  | none :: transitions, destinationDataIndex =>
      tryTransitions dataSource dataIndex transitions destinationDataIndex
  | some transition :: transitions, _ =>
      match transition.tryTransition dataSource dataIndex with
      | (some destinationState, destinationDataIndex) =>
          (some destinationState, destinationDataIndex)
      | (none, destinationDataIndex) =>
          tryTransitions dataSource dataIndex transitions destinationDataIndex

theorem tryTransition_index (dataSource : List α) (dataIndex : Nat)
    (transition : USMTransitionBase α σ) (destination : σ)
    (taken : (transition.tryTransition dataSource dataIndex).1 = some destination) :
    (transition.tryTransition dataSource dataIndex).2 = dataIndex + 1 := by
  cases transition with
  | usmTransition target reversed acceptable => simp only [USMTransitionBase.tryTransition]; split <;> rfl
  | ufgInputTransition target => simp [USMTransitionBase.tryTransition] at taken

/-- The index handed on with a destination is the taken transition's own, never a stale one. -/
theorem tryTransitions_index (dataSource : List α) (dataIndex : Nat)
    (transitions : List (Option (USMTransitionBase α σ))) (stale out : Nat) (destination : σ)
    (taken : tryTransitions dataSource dataIndex transitions stale = (some destination, out)) :
    out = dataIndex + 1 := by
  induction transitions generalizing stale with
  | nil => simp [tryTransitions] at taken
  | cons entry transitions ih =>
      cases entry with
      | none => exact ih stale taken
      | some transition =>
          have index := tryTransition_index dataSource dataIndex transition
          simp only [tryTransitions] at taken
          split at taken
          · rename_i target next tried
            simp only [Prod.mk.injEq, Option.some.injEq] at taken
            rw [tried] at index
            rw [← taken.2]
            exact index target rfl
          · exact ih _ taken

/-- How far LoopState advances DataIndex: one atom, or one whole frame for a UFGState. -/
def USMStateClass.loopStride : USMStateClass → Nat
  | .usmState => 1
  | .ufgState => 1 + EFGInputButtons.count

mutual

def runState (graph : σ → USMState α σ) (dataSource : List α) (state : σ) (dataIndex : Nat)
    (remainingSteps : Int) : FStateMachineResult σ :=
  let bMustEndNow := (graph state).bTerminateImmediately || !isValidIndex dataSource dataIndex
  if _running : remainingSteps ≠ 0 ∧ bMustEndNow = false then
    match instanced : tryTransitions dataSource dataIndex (graph state).instancedTransitions
        dataIndex with
    | (some destinationState, destinationDataIndex) =>
        runState graph dataSource destinationState destinationDataIndex (remainingSteps - 1)
    | (none, destinationDataIndex) =>
        match shared : tryTransitions dataSource dataIndex (graph state).sharedTransitions
            destinationDataIndex with
        | (some destinationState, destinationDataIndex) =>
            runState graph dataSource destinationState destinationDataIndex (remainingSteps - 1)
        | (none, _) =>
            if (graph state).bLoopByDefault then
              loopState graph dataSource state dataIndex remainingSteps
            else
              -- bMustEndNow was set to true
              ⟨(graph state).completionType, some state, dataIndex⟩
  else
    ⟨if bMustEndNow then (graph state).completionType else .outOfSteps, some state, dataIndex⟩
termination_by 2 * (dataSource.length - dataIndex)
decreasing_by
  all_goals
    have valid : dataIndex < dataSource.length := by
      simpa [bMustEndNow, isValidIndex] using (Bool.or_eq_false_iff.mp _running.2).2
  · have next := tryTransitions_index _ _ _ _ _ _ instanced
    omega
  · have next := tryTransitions_index _ _ _ _ _ _ shared
    omega
  · rw [if_pos valid]
    omega

/-- The virtual LoopState, dispatched on the state's class. -/
def loopState (graph : σ → USMState α σ) (dataSource : List α) (state : σ) (dataIndex : Nat)
    (remainingSteps : Int) : FStateMachineResult σ :=
  runState graph dataSource state (dataIndex + (graph state).stateClass.loopStride)
    (remainingSteps - 1)
termination_by if dataIndex < dataSource.length then 2 * (dataSource.length - dataIndex) - 1 else 1
decreasing_by
  have advance : 0 < (graph state).stateClass.loopStride := by
    cases (graph state).stateClass <;> decide
  split <;> omega

end

end SmFighting
