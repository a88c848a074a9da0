import SmFighting.Resumption

namespace SmFighting

variable {α σ : Type} [DecidableEq α]

/-- The result as seen with `k` more atoms in front of the input. -/
def FStateMachineResult.shift (k : Nat) (result : FStateMachineResult σ) : FStateMachineResult σ :=
  { result with dataIndex := k + result.dataIndex }

/-- What RunState reads of a graph and its input, the same for two of them up to `k` atoms. -/
structure SameMoves (graph graph' : σ → USMState α σ) (xs ys : List α) (k : Nat) : Prop where
  stateClass : ∀ state, (graph' state).stateClass = (graph state).stateClass
  completionType : ∀ state, (graph' state).completionType = (graph state).completionType
  bLoopByDefault : ∀ state, (graph' state).bLoopByDefault = (graph state).bLoopByDefault
  mustEnd : ∀ state i, mustEnd graph' ys state (k + i) = mustEnd graph xs state i
  taken : ∀ state i, takenTransition graph' ys state (k + i) = takenTransition graph xs state i

theorem sameMoves_nextMove {graph graph' : σ → USMState α σ} {xs ys : List α} {k : Nat}
    (same : SameMoves graph graph' xs ys k) (state : σ) (i : Nat) :
    nextMove graph' ys (state, k + i) =
      (nextMove graph xs (state, i)).map
        (fun next => (⟨next.1.kind, k + next.1.dataIndex⟩, (next.2.1, k + next.2.2))) := by
  simp only [nextMove, same.mustEnd, same.taken, same.bLoopByDefault, same.stateClass]
  split
  · rfl
  · split
    · rfl
    · split
      · simp only [Option.map_some, Nat.add_assoc]
      · rfl

theorem runState_sameMoves {graph graph' : σ → USMState α σ} {xs ys : List α} {k : Nat}
    (same : SameMoves graph graph' xs ys k) (state : σ) (i : Nat) (n : Int) :
    runState graph' ys state (k + i) n = (runState graph xs state i n).shift k := by
  induction left : xs.length - i using Nat.strong_induction_on generalizing state i n with
  | _ left' ih =>
      rw [runState_eq graph', runState_eq graph, same.mustEnd, sameMoves_nextMove same]
      split
      · simp only [stoppedAt, same.completionType, FStateMachineResult.shift]
      · split
        · rfl
        · cases step : nextMove graph xs (state, i) with
          | none => simp only [Option.map_none, stoppedAt, same.completionType,
              FStateMachineResult.shift]
          | some next =>
              rcases next with ⟨move, d⟩
              obtain ⟨valid, -, index⟩ := nextMove_index step
              have forward := advance_pos move
              simp only at valid index
              exact ih (xs.length - d.2) (by omega) d.1 d.2 (n - 1) rfl

/-- An entry that can never be taken: a null pointer, a transition without a destination, an input
transition. -/
def inert : Option (USMTransitionBase α σ) → Bool
  | none => true
  | some (.usmTransition destinationState _ _) => destinationState.isNone
  | some (.ufgInputTransition _) => true

def USMState.merged (state : USMState α σ) : USMState α σ :=
  { state with
    instancedTransitions :=
      (state.instancedTransitions ++ state.sharedTransitions).filter (fun entry => !inert entry)
    sharedTransitions := [] }

theorem destination_inert (dataSource : List α) (dataIndex : Nat)
    {entry : Option (USMTransitionBase α σ)} (never : inert entry = true) :
    destination dataSource dataIndex entry = none := by
  rcases entry with _ | ⟨destinationState, bReverseInputTest, acceptableInputs⟩ | _
  · rfl
  · obtain rfl := Option.isNone_iff_eq_none.mp never
    simp only [destination, Option.bind_some, USMTransitionBase.tryTransition, ite_self]
  · rfl

theorem findSome_active (dataSource : List α) (dataIndex : Nat)
    (transitions : List (Option (USMTransitionBase α σ))) :
    (transitions.filter (fun entry => !inert entry)).findSome? (destination dataSource dataIndex) =
      transitions.findSome? (destination dataSource dataIndex) := by
  induction transitions with
  | nil => rfl
  | cons entry transitions ih =>
      cases never : inert entry with
      | true =>
          rw [List.filter_cons_of_neg (by simp [never]), ih, List.findSome?_cons,
            destination_inert dataSource dataIndex never]
      | false =>
          rw [List.filter_cons_of_pos (by simp [never]), List.findSome?_cons, List.findSome?_cons, ih]

/-- Inert transitions are invisible, and the two lists act as one. -/
theorem runState_merged (graph : σ → USMState α σ) (dataSource : List α) (state : σ)
    (dataIndex : Nat) (remainingSteps : Int) :
    runState (fun state => (graph state).merged) dataSource state dataIndex remainingSteps =
      runState graph dataSource state dataIndex remainingSteps := by
  have same : SameMoves graph (fun state => (graph state).merged) dataSource dataSource 0 := {
    stateClass := fun _ => rfl
    completionType := fun _ => rfl
    bLoopByDefault := fun _ => rfl
    mustEnd := fun state i => by rw [Nat.zero_add]; rfl
    taken := fun state i => by
      rw [Nat.zero_add]
      simp only [takenTransition, USMState.merged, List.append_nil, findSome_active] }
  calc
    _ = runState (fun state => (graph state).merged) dataSource state (0 + dataIndex)
          remainingSteps := by
      rw [Nat.zero_add]
    _ = (runState graph dataSource state dataIndex remainingSteps).shift 0 :=
      runState_sameMoves same state dataIndex remainingSteps
    _ = runState graph dataSource state dataIndex remainingSteps := by
      rw [FStateMachineResult.shift, Nat.zero_add]

theorem runState_drop (graph : σ → USMState α σ) (dataSource : List α) (k : Nat) (state : σ)
    (dataIndex : Nat) (remainingSteps : Int) :
    runState graph dataSource state (k + dataIndex) remainingSteps =
      (runState graph (dataSource.drop k) state dataIndex remainingSteps).shift k := by
  have same : SameMoves graph graph (dataSource.drop k) dataSource k := {
    stateClass := fun _ => rfl
    completionType := fun _ => rfl
    bLoopByDefault := fun _ => rfl
    mustEnd := fun state i => by
      have valid : k + i < dataSource.length ↔ i < dataSource.length - k := by omega
      simp only [mustEnd, isValidIndex, List.length_drop, valid]
    taken := fun state i => by
      have atom : dataSource[k + i]? = (dataSource.drop k)[i]? := List.getElem?_drop.symm
      simp only [takenTransition, destination_congr atom] }
  exact runState_sameMoves same state dataIndex remainingSteps

end SmFighting
