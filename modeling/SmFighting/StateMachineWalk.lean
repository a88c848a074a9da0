import SmFighting.StateMachine
import SmFighting.Library.Walk
import Mathlib.Tactic.Common

namespace SmFighting

variable {α σ : Type} [DecidableEq α]

inductive MoveKind
  | transition
  | loop (stateClass : USMStateClass)
  deriving DecidableEq, Repr

structure Move where
  kind : MoveKind
  dataIndex : Nat
  deriving DecidableEq, Repr

def Move.advance (move : Move) : Nat :=
  match move.kind with
  | .transition => 1
  | .loop stateClass => stateClass.loopStride

def mustEnd (graph : σ → USMState α σ) (dataSource : List α) (state : σ) (dataIndex : Nat) : Bool :=
  (graph state).bTerminateImmediately || !isValidIndex dataSource dataIndex

def destination (dataSource : List α) (dataIndex : Nat)
    (entry : Option (USMTransitionBase α σ)) : Option σ :=
  entry.bind (fun transition => (transition.tryTransition dataSource dataIndex).1)

/-- Where the first successful transition leads, the instanced ones before the shared ones. -/
def takenTransition (graph : σ → USMState α σ) (dataSource : List α) (state : σ)
    (dataIndex : Nat) : Option σ :=
  ((graph state).instancedTransitions ++ (graph state).sharedTransitions).findSome?
    (destination dataSource dataIndex)

def nextMove (graph : σ → USMState α σ) (dataSource : List α) (c : σ × Nat) :
    Option (Move × (σ × Nat)) :=
  if mustEnd graph dataSource c.1 c.2 then none
  else
    match takenTransition graph dataSource c.1 c.2 with
    | some target => some (⟨.transition, c.2⟩, (target, c.2 + 1))
    | none =>
        if (graph c.1).bLoopByDefault then
          some (⟨.loop (graph c.1).stateClass, c.2⟩,
            (c.1, c.2 + (graph c.1).stateClass.loopStride))
        else none

def stoppedAt (graph : σ → USMState α σ) (c : σ × Nat) : FStateMachineResult σ :=
  ⟨(graph c.1).completionType, some c.1, c.2⟩

theorem tryTransitions_destination (dataSource : List α) (dataIndex : Nat)
    (transitions : List (Option (USMTransitionBase α σ))) (stale : Nat) :
    (tryTransitions dataSource dataIndex transitions stale).1 =
      transitions.findSome? (destination dataSource dataIndex) := by
  induction transitions generalizing stale with
  | nil => rfl
  | cons entry transitions ih =>
      cases entry with
      | none => exact ih stale
      | some transition =>
          simp only [tryTransitions, List.findSome?_cons, destination, Option.bind_some]
          split
          · rename_i target out tried
            simp [tried]
          · rename_i out tried
            rw [tried]
            exact ih out

/-- Whatever stale indices RunState's two loops start with, they find the taken transition. -/
theorem takenTransition_lists (graph : σ → USMState α σ) (dataSource : List α) (state : σ)
    (dataIndex stale stale' : Nat) :
    takenTransition graph dataSource state dataIndex =
      (tryTransitions dataSource dataIndex (graph state).instancedTransitions stale).1.or
        (tryTransitions dataSource dataIndex (graph state).sharedTransitions stale').1 := by
  rw [tryTransitions_destination, tryTransitions_destination]
  exact List.findSome?_append

/-- RunState by cases: the end tests first, then the budget, then the move. -/
theorem runState_eq (graph : σ → USMState α σ) (dataSource : List α) (state : σ) (dataIndex : Nat)
    (remainingSteps : Int) :
    runState graph dataSource state dataIndex remainingSteps =
      if mustEnd graph dataSource state dataIndex then stoppedAt graph (state, dataIndex)
      else if remainingSteps = 0 then ⟨.outOfSteps, some state, dataIndex⟩
      else
        match nextMove graph dataSource (state, dataIndex) with
        | none => stoppedAt graph (state, dataIndex)
        | some (_, c) => runState graph dataSource c.1 c.2 (remainingSteps - 1) := by
  rw [runState]
  by_cases ended : mustEnd graph dataSource state dataIndex = true
  · have flag : ((graph state).bTerminateImmediately || !isValidIndex dataSource dataIndex) = true :=
      ended
    simp [ended, flag, stoppedAt]
  · have flag : ((graph state).bTerminateImmediately || !isValidIndex dataSource dataIndex) = false :=
      Bool.eq_false_iff.mpr ended
    rw [if_neg ended]
    by_cases spent : remainingSteps = 0
    · simp [spent, flag]
    · rw [dif_pos ⟨spent, flag⟩, if_neg spent, nextMove, if_neg ended]
      split
      · rename_i target out tried
        have taken := takenTransition_lists graph dataSource state dataIndex dataIndex out
        rw [tried, Option.some_or] at taken
        have index := tryTransitions_index _ _ _ _ _ _ tried
        simp only [taken, index]
      · rename_i out tried
        have taken := takenTransition_lists graph dataSource state dataIndex dataIndex out
        rw [tried, Option.none_or] at taken
        split
        · rename_i target out' tried'
          rw [tried'] at taken
          have index := tryTransitions_index _ _ _ _ _ _ tried'
          simp only [taken, index]
        · rename_i out' tried'
          rw [tried'] at taken
          simp only [taken]
          by_cases loops : (graph state).bLoopByDefault = true
          · simp only [loops, if_true, loopState]
          · simp only [loops, stoppedAt]
            rfl

def USMTransitionBase.destinationState : USMTransitionBase α σ → Option σ
  | .usmTransition destinationState _ _ => destinationState
  | .ufgInputTransition destinationState => destinationState

theorem takenTransition_destination {graph : σ → USMState α σ} {dataSource : List α} {state : σ}
    {dataIndex : Nat} {target : σ}
    (taken : takenTransition graph dataSource state dataIndex = some target) :
    ∃ transition,
      some transition ∈ (graph state).instancedTransitions ++ (graph state).sharedTransitions ∧
        transition.destinationState = some target := by
  obtain ⟨entry, member, tried⟩ := List.exists_of_findSome?_eq_some taken
  cases entry with
  | none => cases tried
  | some transition =>
      refine ⟨transition, member, ?_⟩
      cases transition with
      | usmTransition destinationState bReverseInputTest acceptableInputs =>
          simp only [destination, Option.bind_some, USMTransitionBase.tryTransition] at tried
          split at tried
          · cases bReverseInputTest
            · exact tried
            · cases tried
          · cases bReverseInputTest
            · cases tried
            · exact tried
      | ufgInputTransition destinationState => cases tried

theorem nextMove_cases {graph : σ → USMState α σ} {dataSource : List α} {c d : σ × Nat}
    {move : Move} (step : nextMove graph dataSource c = some (move, d)) :
    mustEnd graph dataSource c.1 c.2 = false ∧
      ((∃ target, takenTransition graph dataSource c.1 c.2 = some target ∧
          move = ⟨.transition, c.2⟩ ∧ d = (target, c.2 + 1)) ∨
        (takenTransition graph dataSource c.1 c.2 = none ∧ (graph c.1).bLoopByDefault = true ∧
          move = ⟨.loop (graph c.1).stateClass, c.2⟩ ∧
          d = (c.1, c.2 + (graph c.1).stateClass.loopStride))) := by
  rw [nextMove] at step
  split at step
  · cases step
  · rename_i running
    refine ⟨Bool.eq_false_iff.mpr running, ?_⟩
    split at step
    · rename_i target taken
      simp only [Option.some.injEq, Prod.mk.injEq] at step
      exact .inl ⟨target, taken, step.1.symm, step.2.symm⟩
    · rename_i taken
      split at step
      · rename_i loops
        simp only [Option.some.injEq, Prod.mk.injEq] at step
        exact .inr ⟨taken, loops, step.1.symm, step.2.symm⟩
      · cases step

omit [DecidableEq α] in
theorem mustEnd_false {graph : σ → USMState α σ} {dataSource : List α} {state : σ} {dataIndex : Nat} :
    mustEnd graph dataSource state dataIndex = false ↔
      (graph state).bTerminateImmediately = false ∧ dataIndex < dataSource.length := by
  simp [mustEnd, isValidIndex]

theorem nextMove_of_mustEnd {graph : σ → USMState α σ} {dataSource : List α} {c : σ × Nat}
    (ended : mustEnd graph dataSource c.1 c.2 = true) : nextMove graph dataSource c = none :=
  if_pos ended

theorem loopStride_pos (stateClass : USMStateClass) : 0 < stateClass.loopStride := by
  cases stateClass <;> decide

theorem advance_pos (move : Move) : 0 < move.advance := by
  unfold Move.advance
  split
  · exact Nat.one_pos
  · exact loopStride_pos _

theorem loopStride_le (stateClass : USMStateClass) : stateClass.loopStride ≤ 3 := by
  cases stateClass <;> decide

theorem advance_le (move : Move) : move.advance ≤ 3 := by
  unfold Move.advance
  split
  · decide
  · exact loopStride_le _

theorem nextMove_index {graph : σ → USMState α σ} {dataSource : List α} {c d : σ × Nat}
    {move : Move} (step : nextMove graph dataSource c = some (move, d)) :
    c.2 < dataSource.length ∧ move.dataIndex = c.2 ∧ d.2 = c.2 + move.advance := by
  obtain ⟨running, moved⟩ := nextMove_cases step
  have valid := (mustEnd_false.mp running).2
  rcases moved with ⟨target, -, rfl, rfl⟩ | ⟨-, -, rfl, rfl⟩ <;> exact ⟨valid, rfl, rfl⟩

theorem reaches_index {graph : σ → USMState α σ} {dataSource : List α} {c d : σ × Nat}
    {moves : List Move} (walk : Walk.Reaches (nextMove graph dataSource) c moves d) :
    d.2 = c.2 + (moves.map Move.advance).sum :=
  Walk.reaches_weight (fun c => c.2) Move.advance
    (fun _ _ _ step => (nextMove_index step).2.2) walk

theorem reaches_move_bounds {graph : σ → USMState α σ} {dataSource : List α} {c d : σ × Nat}
    {moves : List Move} (walk : Walk.Reaches (nextMove graph dataSource) c moves d) :
    ∀ move ∈ moves, c.2 ≤ move.dataIndex ∧ move.dataIndex < dataSource.length ∧
      move.dataIndex + move.advance ≤ d.2 := by
  induction walk with
  | stay c => intro move member; cases member
  | move step rest ih =>
      obtain ⟨valid, made, next⟩ := nextMove_index step
      have covered := reaches_index rest
      intro move member
      rcases List.mem_cons.mp member with rfl | member
      · omega
      · obtain ⟨low, inside, high⟩ := ih move member
        omega

/-- A run can overshoot the input by less than a frame. -/
theorem reaches_overshoot {graph : σ → USMState α σ} {dataSource : List α} {c d : σ × Nat}
    {moves : List Move} (walk : Walk.Reaches (nextMove graph dataSource) c moves d)
    (start : c.2 ≤ dataSource.length + 2) : d.2 ≤ dataSource.length + 2 := by
  apply Walk.reaches_invariant (fun c => c.2 ≤ dataSource.length + 2) _ walk start
  intro a move b _ step
  obtain ⟨valid, -, next⟩ := nextMove_index step
  have short := advance_le move
  omega

def moves (graph : σ → USMState α σ) (dataSource : List α) (state : σ) (dataIndex : Nat) :
    List Move :=
  (Walk.trace (nextMove graph dataSource) (dataSource.length - dataIndex) (state, dataIndex)).1

def finish (graph : σ → USMState α σ) (dataSource : List α) (state : σ) (dataIndex : Nat) : σ × Nat :=
  (Walk.trace (nextMove graph dataSource) (dataSource.length - dataIndex) (state, dataIndex)).2

theorem moves_halts (graph : σ → USMState α σ) (dataSource : List α) (state : σ) (dataIndex : Nat) :
    Walk.Halts (nextMove graph dataSource) (state, dataIndex)
      (moves graph dataSource state dataIndex) (finish graph dataSource state dataIndex) := by
  refine Walk.trace_halts (fun c => dataSource.length - c.2) ?_ _ _ (Nat.le_refl _)
  intro a move b step
  obtain ⟨valid, -, next⟩ := nextMove_index step
  have forward := advance_pos move
  omega

/-- As long as the budget lasts, a run is the run from wherever its walk has come. -/
theorem runState_reaches {graph : σ → USMState α σ} {dataSource : List α} {c d : σ × Nat}
    {moves : List Move} (walk : Walk.Reaches (nextMove graph dataSource) c moves d) (n : Int)
    (budget : n < 0 ∨ (moves.length : Int) ≤ n) :
    runState graph dataSource c.1 c.2 n = runState graph dataSource d.1 d.2 (n - moves.length) := by
  induction walk generalizing n with
  | stay c => simp
  | @move a b e move moves step rest ih =>
      have running := (nextMove_cases step).1
      have nonzero : n ≠ 0 := by
        simp only [List.length_cons] at budget
        omega
      have left : n - 1 < 0 ∨ (moves.length : Int) ≤ n - 1 := by
        simp only [List.length_cons] at budget
        omega
      rw [runState_eq, running, if_neg Bool.false_ne_true, if_neg nonzero, step]
      simp only
      rw [ih (n - 1) left]
      congr 1
      simp only [List.length_cons]
      omega

theorem runState_stopped {graph : σ → USMState α σ} {dataSource : List α} {c : σ × Nat}
    (stopped : nextMove graph dataSource c = none) (n : Int)
    (noticed : mustEnd graph dataSource c.1 c.2 = true ∨ n ≠ 0) :
    runState graph dataSource c.1 c.2 n = stoppedAt graph c := by
  rw [runState_eq]
  rcases noticed with ended | nonzero
  · rw [if_pos ended]
  · rw [if_neg nonzero, stopped]
    simp

theorem runState_halts {graph : σ → USMState α σ} {dataSource : List α} {c d : σ × Nat}
    {moves : List Move} (walk : Walk.Halts (nextMove graph dataSource) c moves d) (n : Int)
    (unlimited : n < 0) : runState graph dataSource c.1 c.2 n = stoppedAt graph d := by
  calc
    _ = runState graph dataSource d.1 d.2 (n - moves.length) :=
      runState_reaches walk.1 n (.inl unlimited)
    _ = stoppedAt graph d := runState_stopped walk.2 _ (.inr (by omega))

theorem runState_unlimited (graph : σ → USMState α σ) (dataSource : List α) (state : σ)
    (dataIndex : Nat) (n : Int) (unlimited : n < 0) :
    runState graph dataSource state dataIndex n =
      stoppedAt graph (finish graph dataSource state dataIndex) :=
  runState_halts (moves_halts graph dataSource state dataIndex) n unlimited

def sampleGraph : Fin 3 → USMState Nat (Fin 3)
  | 0 => {
      stateClass := .ufgState
      instancedTransitions := [some (.usmTransition (some 1) false [7])] }
  | 1 => {
      stateClass := .ufgState
      sharedTransitions := [none, some (.usmTransition (some 2) false [8, 9])] }
  | 2 => { stateClass := .ufgState, completionType := .accepted, bTerminateImmediately := true }

end SmFighting
