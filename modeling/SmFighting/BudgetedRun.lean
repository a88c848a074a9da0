import SmFighting.Resumption
import Mathlib.Data.Nat.ModEq

namespace SmFighting

variable {α σ : Type} [DecidableEq α]

/-- As many moves as a budget pays for; without a limit, as many as there are atoms left. -/
def affordable (dataSource : List α) (dataIndex : Nat) (remainingSteps : Int) : Nat :=
  if remainingSteps < 0 then dataSource.length - dataIndex else remainingSteps.toNat

def movesMade (graph : σ → USMState α σ) (dataSource : List α) (state : σ) (dataIndex : Nat)
    (remainingSteps : Int) : List Move :=
  (Walk.trace (nextMove graph dataSource) (affordable dataSource dataIndex remainingSteps)
    (state, dataIndex)).1

def countMoves (kind : MoveKind) (moves : List Move) : Nat :=
  moves.countP (fun move => move.kind = kind)

theorem movesMade_reaches (graph : σ → USMState α σ) (dataSource : List α) (state : σ)
    (dataIndex : Nat) (n : Int) :
    ∃ final, (runState graph dataSource state dataIndex n).finalState = some final ∧
      Walk.Reaches (nextMove graph dataSource) (state, dataIndex)
        (movesMade graph dataSource state dataIndex n)
        (final, (runState graph dataSource state dataIndex n).dataIndex) := by
  rcases lt_or_ge n 0 with unlimited | limited
  · have all : movesMade graph dataSource state dataIndex n =
        moves graph dataSource state dataIndex := by
      rw [movesMade, affordable, if_pos unlimited, moves]
    rw [all, runState_unlimited _ _ _ _ n unlimited]
    exact ⟨_, rfl, (moves_halts graph dataSource state dataIndex).1⟩
  · obtain ⟨m, rfl⟩ := Int.eq_ofNat_of_zero_le limited
    obtain ⟨made, d, walk, ending⟩ := runState_budget graph dataSource (state, dataIndex) m
    have traced : movesMade graph dataSource state dataIndex m = made := by
      have fuel : affordable dataSource dataIndex m = m := by
        rw [affordable, if_neg (by omega), Int.toNat_natCast]
      rw [movesMade, fuel, Walk.trace_reaches walk m]
      rcases ending with ⟨-, short, stopped, -⟩ | ⟨-, exact⟩
      · exact .inr ⟨short, stopped⟩
      · exact .inl exact
    rw [traced]
    rcases ending with ⟨result, -⟩ | ⟨result, -⟩
    · rw [result]
      exact ⟨d.1, rfl, walk⟩
    · rw [result]
      exact ⟨d.1, rfl, walk⟩

theorem sum_advance (moves : List Move) :
    (moves.map Move.advance).sum = countMoves .transition moves +
      countMoves (.loop .usmState) moves + 3 * countMoves (.loop .ufgState) moves := by
  induction moves with
  | nil => rfl
  | cons move moves ih =>
      rw [List.map_cons, List.sum_cons, ih]
      rcases move with ⟨kind, dataIndex⟩
      rcases kind with _ | _ | _ <;>
        simp [countMoves, Move.advance, USMStateClass.loopStride, EFGInputButtons.count] <;> omega

theorem reaches_loops {graph : σ → USMState α σ} {dataSource : List α} {c d : σ × Nat}
    {moves : List Move} (walk : Walk.Reaches (nextMove graph dataSource) c moves d)
    (stateClass : USMStateClass) (other : ∀ state, (graph state).stateClass ≠ stateClass) :
    countMoves (.loop stateClass) moves = 0 := by
  rw [countMoves, List.countP_eq_zero]
  intro move member same
  obtain ⟨a, b, step⟩ := Walk.reaches_labels walk move member
  obtain ⟨-, ⟨target, -, rfl, -⟩ | ⟨-, -, rfl, -⟩⟩ := nextMove_cases step
  · simp at same
  · exact other a.1 (by simpa using same)

theorem index_accounting (graph : σ → USMState α σ) (dataSource : List α) (state : σ) (i : Nat)
    (n : Int) (inside : i ≤ dataSource.length) {completionType : EStateMachineCompletionType}
    {finalState : Option σ} {j : Nat}
    (returned : runState graph dataSource state i n = ⟨completionType, finalState, j⟩) :
    (∃ final, finalState = some final ∧ Walk.Reaches (nextMove graph dataSource) (state, i)
      (movesMade graph dataSource state i n) (final, j)) ∧
    (∀ move ∈ movesMade graph dataSource state i n, move.kind = .transition →
      (∃ atom, dataSource[move.dataIndex]? = some atom) ∧ move.dataIndex < j) ∧
    j - i = countMoves .transition (movesMade graph dataSource state i n) +
      countMoves (.loop .usmState) (movesMade graph dataSource state i n) +
      3 * countMoves (.loop .ufgState) (movesMade graph dataSource state i n) ∧
    i ≤ j ∧ j ≤ dataSource.length + 2 ∧
    ((∀ state, (graph state).stateClass = .ufgState) →
      j ≡ i + countMoves .transition (movesMade graph dataSource state i n) [MOD 3]) ∧
    (dataSource.length % 3 = 0 → j % 3 = 0 → j ≤ dataSource.length) := by
  obtain ⟨final, ended, walk⟩ := movesMade_reaches graph dataSource state i n
  rw [returned] at ended walk
  have bounds := reaches_move_bounds walk
  have travelled := reaches_index walk
  have overshoot := reaches_overshoot walk (by simp only; omega)
  have loops := reaches_loops walk .usmState
  rw [sum_advance] at travelled
  simp only at travelled overshoot bounds
  refine ⟨⟨final, ended, walk⟩, ?_, by omega, by omega, overshoot, ?_, fun whole whole' => by omega⟩
  · intro move member taken
    obtain ⟨-, valid, covered⟩ := bounds move member
    have forward := advance_pos move
    exact ⟨⟨_, List.getElem?_eq_getElem valid⟩, by omega⟩
  · intro frames
    have noPlain := loops (fun state same => by rw [frames state] at same; cases same)
    rw [Nat.ModEq]
    omega

theorem index_accounting_sample :
    runState sampleGraph [0, 0, 0, 7, 0, 0, 0, 8] 0 0 2 = ⟨.outOfSteps, some 1, 4⟩ ∧
      4 ≡ 0 + countMoves .transition (movesMade sampleGraph [0, 0, 0, 7, 0, 0, 0, 8] 0 0 2)
        [MOD 3] := by
  have cut : runState sampleGraph [0, 0, 0, 7, 0, 0, 0, 8] 0 0 2 = ⟨.outOfSteps, some 1, 4⟩ := by
    decide +kernel
  obtain ⟨-, -, -, -, -, frames, -⟩ :=
    index_accounting sampleGraph [0, 0, 0, 7, 0, 0, 0, 8] 0 0 2 (by decide) cut
  exact ⟨cut, frames (by decide)⟩

/-- Nothing ends the run here, but no transition succeeds and the state does not loop. -/
def Stuck (graph : σ → USMState α σ) (dataSource : List α) (c : σ × Nat) : Prop :=
  mustEnd graph dataSource c.1 c.2 = false ∧ takenTransition graph dataSource c.1 c.2 = none ∧
    (graph c.1).bLoopByDefault = false

theorem stuck_iff {graph : σ → USMState α σ} {dataSource : List α} {c : σ × Nat} :
    Stuck graph dataSource c ↔
      nextMove graph dataSource c = none ∧ mustEnd graph dataSource c.1 c.2 = false := by
  constructor
  · intro stuck
    rcases stuck with ⟨running, untaken, stays⟩
    simp [nextMove, running, untaken, stays]
  · intro stopped
    rcases stopped with ⟨still, running⟩
    rw [nextMove, running, if_neg Bool.false_ne_true] at still
    split at still
    · cases still
    · rename_i untaken
      split at still
      · cases still
      · rename_i stays
        exact ⟨running, untaken, Bool.eq_false_iff.mpr stays⟩

theorem runState_short (graph : σ → USMState α σ) (dataSource : List α) (state : σ)
    (dataIndex n : Nat) (short : n < (moves graph dataSource state dataIndex).length) :
    (runState graph dataSource state dataIndex n).completionType = .outOfSteps := by
  obtain ⟨made, d, walk, ending⟩ := runState_budget graph dataSource (state, dataIndex) n
  rcases ending with ⟨-, enough, stopped, -⟩ | ⟨result, -⟩
  · have same := (Walk.halts_unique (moves_halts graph dataSource state dataIndex)
      ⟨walk, stopped⟩).1
    rw [same] at short
    omega
  · rw [result]

/-- A budget of at least as many moves brings the run to its end, where one that is just used up
leaves a stuck state unnoticed. -/
theorem runState_enough (graph : σ → USMState α σ) (dataSource : List α) (state : σ)
    (dataIndex n : Nat) (enough : (moves graph dataSource state dataIndex).length ≤ n) :
    runState graph dataSource state dataIndex n =
      if (moves graph dataSource state dataIndex).length = n ∧
          mustEnd graph dataSource (finish graph dataSource state dataIndex).1
            (finish graph dataSource state dataIndex).2 = false then
        { runState graph dataSource state dataIndex (-1) with completionType := .outOfSteps }
      else runState graph dataSource state dataIndex (-1) := by
  obtain ⟨walk, stopped⟩ := moves_halts graph dataSource state dataIndex
  rw [runState_unlimited _ _ _ _ (-1) (by omega)]
  have reached := runState_reaches walk n (.inr (by omega))
  simp only at reached
  rw [reached]
  split
  · rename_i last
    rcases last with ⟨rfl, running⟩
    rw [runState_eq, running, if_neg Bool.false_ne_true, Int.sub_self, if_pos rfl]
    rfl
  · rename_i noticed
    apply runState_stopped stopped
    by_cases used : (moves graph dataSource state dataIndex).length = n
    · exact .inl (Bool.eq_true_of_not_eq_false (fun running => noticed ⟨used, running⟩))
    · exact .inr (by omega)

/-- OutOfSteps means that the machine was still running, except with a budget that is used up just
as the machine gets stuck. -/
theorem outOfSteps_exact (graph : σ → USMState α σ)
    (visible : ∀ state, (graph state).completionType ≠ .outOfSteps) (dataSource : List α)
    (state : σ) (dataIndex n : Nat) :
    (((runState graph dataSource state dataIndex n).completionType = .outOfSteps ↔
        n < (moves graph dataSource state dataIndex).length) ∧
      ((moves graph dataSource state dataIndex).length ≤ n →
        runState graph dataSource state dataIndex n =
          runState graph dataSource state dataIndex (-1))) ↔
    ∀ made c, Walk.Reaches (nextMove graph dataSource) (state, dataIndex) made c →
      made.length = n → ¬ Stuck graph dataSource c := by
  have halts := moves_halts graph dataSource state dataIndex
  have short := runState_short graph dataSource state dataIndex n
  have enough := runState_enough graph dataSource state dataIndex n
  have ends : (runState graph dataSource state dataIndex (-1)).completionType ≠ .outOfSteps := by
    rw [runState_unlimited _ _ _ _ (-1) (by omega)]
    exact visible _
  constructor
  · intro exact made c walk used stuck
    obtain ⟨stopped, running⟩ := stuck_iff.mp stuck
    obtain ⟨same, there⟩ := Walk.halts_unique halts ⟨walk, stopped⟩
    rw [same, there] at enough
    have reported := exact.1.mp (by rw [enough (by omega), if_pos ⟨used, running⟩])
    rw [same] at reported
    omega
  · intro unstuck
    have agrees : (moves graph dataSource state dataIndex).length ≤ n →
        runState graph dataSource state dataIndex n =
          runState graph dataSource state dataIndex (-1) := by
      intro bound
      rw [enough bound, if_neg]
      intro last
      exact unstuck _ _ halts.1 last.1 (stuck_iff.mpr ⟨halts.2, last.2⟩)
    refine ⟨⟨fun reported => ?_, short⟩, agrees⟩
    by_contra bound
    rw [agrees (by omega)] at reported
    exact ends reported

theorem outOfSteps_exact_sample :
    (runState sampleGraph [0, 0, 0, 7, 0, 0, 0, 8] 0 0 2).completionType = .outOfSteps ↔
      2 < (moves sampleGraph [0, 0, 0, 7, 0, 0, 0, 8] 0 0).length := by
  apply ((outOfSteps_exact sampleGraph (by decide) [0, 0, 0, 7, 0, 0, 0, 8] 0 0 2).mpr _).1
  -- every state of this graph loops
  intro made c walk used stuck
  have loops : ∀ state, (sampleGraph state).bLoopByDefault = true := by decide
  exact Bool.false_ne_true (stuck.2.2.symm.trans (loops c.1))

def deadEndGraph : Fin 2 → USMState Nat (Fin 2)
  | 0 => {
      stateClass := .usmState
      instancedTransitions := [some (.usmTransition (some 1) false [7])] }
  | 1 => { stateClass := .usmState, completionType := .accepted, bLoopByDefault := false }

/-- The machine ends after its one move, but a budget of one step reports OutOfSteps. -/
theorem dead_end_unnoticed :
    (∀ state, (deadEndGraph state).completionType ≠ .outOfSteps) ∧
    (moves deadEndGraph [7, 0] 0 0).length = 1 ∧
    runState deadEndGraph [7, 0] 0 0 (-1) = ⟨.accepted, some 1, 1⟩ ∧
    runState deadEndGraph [7, 0] 0 0 1 = ⟨.outOfSteps, some 1, 1⟩ ∧
    ¬ ((runState deadEndGraph [7, 0] 0 0 1).completionType = .outOfSteps ↔
      1 < (moves deadEndGraph [7, 0] 0 0).length) := by
  decide +kernel

end SmFighting
