import SmFighting.Resumption

namespace SmFighting

variable {α σ : Type} [DecidableEq α]

/-- A signed overflow, or a call deeper than the depth that the run was granted. -/
inductive Interrupt
  | overflow | outOfDepth
  deriving DecidableEq, Repr

def InInt32 (value : Int) : Prop := -2 ^ 31 ≤ value ∧ value < 2 ^ 31

instance (value : Int) : Decidable (InInt32 value) :=
  inferInstanceAs (Decidable (_ ∧ _))

def int32 (value : Int) : Except Interrupt Unit :=
  if InInt32 value then .ok () else .error .overflow

structure RunStateCall (σ : Type) where
  state : σ
  dataIndex : Nat
  remainingSteps : Int
  deriving DecidableEq, Repr

/-- The calls of a run, the first one first, and what it returned. -/
structure CheckedRun (σ : Type) where
  calls : List (RunStateCall σ)
  result : FStateMachineResult σ
  deriving DecidableEq, Repr

def CheckedRun.after (call : RunStateCall σ) (run : CheckedRun σ) : CheckedRun σ :=
  { run with calls := call :: run.calls }

def tryTransitions32 (dataSource : List α) (dataIndex : Nat) :
    List (Option (USMTransitionBase α σ)) → Nat → Except Interrupt (Option σ × Nat)
  | [], destinationDataIndex => .ok (none, destinationDataIndex)
  | none :: transitions, destinationDataIndex =>
      tryTransitions32 dataSource dataIndex transitions destinationDataIndex
  | some transition :: transitions, _ => do
      int32 (transition.tryTransition dataSource dataIndex).2
      match transition.tryTransition dataSource dataIndex with
      | (some destinationState, destinationDataIndex) =>
          return (some destinationState, destinationDataIndex)
      | (none, destinationDataIndex) =>
          tryTransitions32 dataSource dataIndex transitions destinationDataIndex

/-- The call of RunState that `caller` returns, behind the sums that give its arguments. -/
def callRunState (run : RunStateCall σ → Except Interrupt (CheckedRun σ))
    (caller next : RunStateCall σ) : Except Interrupt (CheckedRun σ) := do
  int32 next.dataIndex
  int32 next.remainingSteps
  let rest ← run next
  return rest.after caller

def loopState32 (graph : σ → USMState α σ)
    (run : RunStateCall σ → Except Interrupt (CheckedRun σ)) (call : RunStateCall σ) :
    Except Interrupt (CheckedRun σ) :=
  callRunState run call
    ⟨call.state, call.dataIndex + (graph call.state).stateClass.loopStride, call.remainingSteps - 1⟩

def runState32 (graph : σ → USMState α σ) (dataSource : List α) :
    Nat → RunStateCall σ → Except Interrupt (CheckedRun σ)
  | 0, _ => .error .outOfDepth
  | depth + 1, call => do
      let bMustEndNow := (graph call.state).bTerminateImmediately ||
        !isValidIndex dataSource call.dataIndex
      if call.remainingSteps ≠ 0 ∧ bMustEndNow = false then
        match ← tryTransitions32 dataSource call.dataIndex (graph call.state).instancedTransitions
            call.dataIndex with
        | (some destinationState, destinationDataIndex) =>
            callRunState (runState32 graph dataSource depth) call
              ⟨destinationState, destinationDataIndex, call.remainingSteps - 1⟩
        | (none, destinationDataIndex) =>
            match ← tryTransitions32 dataSource call.dataIndex (graph call.state).sharedTransitions
                destinationDataIndex with
            | (some destinationState, destinationDataIndex) =>
                callRunState (runState32 graph dataSource depth) call
                  ⟨destinationState, destinationDataIndex, call.remainingSteps - 1⟩
            | (none, _) =>
                if (graph call.state).bLoopByDefault then
                  loopState32 graph (runState32 graph dataSource depth) call
                else
                  return ⟨[call], (graph call.state).completionType, some call.state, call.dataIndex⟩
      else
        return ⟨[call], if bMustEndNow then (graph call.state).completionType else .outOfSteps,
          some call.state, call.dataIndex⟩

theorem ok_bind {ε β γ : Type} (value : β) (rest : β → Except ε γ) :
    (Except.ok value >>= rest) = rest value := rfl

theorem int32_ok {value : Int} (inside : InInt32 value) : int32 value = .ok () :=
  if_pos inside

theorem tryTransition_bound (dataSource : List α) (dataIndex : Nat)
    (transition : USMTransitionBase α σ) :
    (transition.tryTransition dataSource dataIndex).2 ≤ dataIndex + 1 := by
  cases transition with
  | usmTransition destinationState bReverseInputTest acceptableInputs =>
      simp only [USMTransitionBase.tryTransition]
      split <;> exact Nat.le_refl _
  | ufgInputTransition destinationState => exact Nat.le_succ dataIndex

theorem tryTransitions32_ok (dataSource : List α) (dataIndex : Nat)
    (transitions : List (Option (USMTransitionBase α σ))) (stale : Nat)
    (inside : InInt32 (dataIndex + 1 : Nat)) :
    tryTransitions32 dataSource dataIndex transitions stale =
      .ok (tryTransitions dataSource dataIndex transitions stale) := by
  induction transitions generalizing stale with
  | nil => rfl
  | cons entry transitions ih =>
      cases entry with
      | none => exact ih stale
      | some transition =>
          have bound := tryTransition_bound dataSource dataIndex transition
          have written : InInt32 (transition.tryTransition dataSource dataIndex).2 := by
            unfold InInt32 at inside ⊢
            omega
          rw [tryTransitions32, tryTransitions, int32_ok written]
          cases tried : transition.tryTransition dataSource dataIndex with
          | mk destination out =>
              cases destination with
              | none => exact ih out
              | some target => rfl

omit [DecidableEq α] in
theorem callRunState_eq (run : RunStateCall σ → Except Interrupt (CheckedRun σ))
    (caller next : RunStateCall σ) (index : InInt32 next.dataIndex)
    (steps : InInt32 next.remainingSteps) :
    callRunState run caller next = (run next).map (CheckedRun.after caller) := by
  rw [callRunState, int32_ok index, int32_ok steps]
  cases run next <;> rfl

structure Room (dataSource : List α) (call : RunStateCall σ) : Prop where
  index : call.dataIndex < dataSource.length → InInt32 (call.dataIndex + 3 : Nat)
  steps : call.dataIndex < dataSource.length → InInt32 (call.remainingSteps - 1)

theorem runState32_eq (graph : σ → USMState α σ) (dataSource : List α) (depth : Nat)
    (call : RunStateCall σ) (room : Room dataSource call) :
    runState32 graph dataSource (depth + 1) call =
      if mustEnd graph dataSource call.state call.dataIndex then
        .ok ⟨[call], stoppedAt graph (call.state, call.dataIndex)⟩
      else if call.remainingSteps = 0 then
        .ok ⟨[call], .outOfSteps, some call.state, call.dataIndex⟩
      else
        match nextMove graph dataSource (call.state, call.dataIndex) with
        | none => .ok ⟨[call], stoppedAt graph (call.state, call.dataIndex)⟩
        | some (_, c) =>
            (runState32 graph dataSource depth ⟨c.1, c.2, call.remainingSteps - 1⟩).map
              (CheckedRun.after call) := by
  rcases call with ⟨state, dataIndex, remainingSteps⟩
  simp only [runState32]
  by_cases ended : mustEnd graph dataSource state dataIndex = true
  · have flag : ((graph state).bTerminateImmediately || !isValidIndex dataSource dataIndex) = true :=
      ended
    simp [ended, flag, stoppedAt, Pure.pure, Except.pure]
  · have flag : ((graph state).bTerminateImmediately || !isValidIndex dataSource dataIndex) = false :=
      Bool.eq_false_iff.mpr ended
    rw [if_neg ended]
    by_cases spent : remainingSteps = 0
    · simp [spent, flag, Pure.pure, Except.pure]
    · obtain ⟨-, valid⟩ := mustEnd_false.mp flag
      have index := room.index valid
      have steps := room.steps valid
      simp only at index steps
      have next : InInt32 (dataIndex + 1 : Nat) := by
        unfold InInt32 at index ⊢
        omega
      have looped : InInt32 (dataIndex + (graph state).stateClass.loopStride : Nat) := by
        have short := loopStride_le (graph state).stateClass
        unfold InInt32 at index ⊢
        omega
      rw [if_pos ⟨spent, flag⟩, if_neg spent, nextMove, if_neg ended,
        tryTransitions32_ok _ _ _ _ next, ok_bind]
      cases tried : tryTransitions dataSource dataIndex (graph state).instancedTransitions
          dataIndex with
      | mk instancedTarget out =>
          have taken := takenTransition_lists graph dataSource state dataIndex dataIndex out
          rw [tried] at taken
          cases instancedTarget with
          | some target =>
              obtain rfl := tryTransitions_index _ _ _ _ _ _ tried
              rw [taken, Option.some_or]
              exact callRunState_eq _ _ _ next steps
          | none =>
              simp only [taken, Option.none_or]
              rw [tryTransitions32_ok _ _ _ _ next, ok_bind]
              cases tried' : tryTransitions dataSource dataIndex (graph state).sharedTransitions
                  out with
              | mk sharedTarget out' =>
                  cases sharedTarget with
                  | some target =>
                      obtain rfl := tryTransitions_index _ _ _ _ _ _ tried'
                      exact callRunState_eq _ _ _ next steps
                  | none =>
                      by_cases loops : (graph state).bLoopByDefault = true
                      · simp only [loops, if_true]
                        exact callRunState_eq _ _ _ looped steps
                      · simp only [loops]
                        rfl

/-- What carries a call through to its end: input that leaves room for one more frame, and a counter
that can be lowered for every atom that is left, unless it comes to 0 before. -/
structure Fits (dataSource : List α) (call : RunStateCall σ) : Prop where
  length : dataSource.length ≤ 2 ^ 31 - 3
  index : InInt32 call.dataIndex
  steps : InInt32 call.remainingSteps
  slack : 0 ≤ call.remainingSteps ∨
    -2 ^ 31 + ((dataSource.length - call.dataIndex : Nat) : Int) ≤ call.remainingSteps

omit [DecidableEq α] in
theorem fits_room {dataSource : List α} {call : RunStateCall σ} (fits : Fits dataSource call) :
    Room dataSource call := by
  rcases fits with ⟨length, -, steps, slack⟩
  constructor <;> intro valid <;> unfold InInt32 at * <;> omega

theorem fits_move {graph : σ → USMState α σ} {dataSource : List α} {call : RunStateCall σ}
    (fits : Fits dataSource call) (going : call.remainingSteps ≠ 0) {move : Move} {d : σ × Nat}
    (step : nextMove graph dataSource (call.state, call.dataIndex) = some (move, d)) :
    Fits dataSource ⟨d.1, d.2, call.remainingSteps - 1⟩ := by
  obtain ⟨valid, -, next⟩ := nextMove_index step
  have forward := advance_pos move
  have short := advance_le move
  have signed := Int.lt_or_gt_of_ne going
  rcases fits with ⟨length, -, steps, slack⟩
  simp only at valid next
  unfold InInt32 at steps
  refine ⟨length, ?_, ?_, ?_⟩
  · simp only [InInt32]
    omega
  · simp only [InInt32]
    omega
  · simp only
    omega

theorem runState32_fits (graph : σ → USMState α σ) (dataSource : List α) (depth : Nat)
    (call : RunStateCall σ) (fits : Fits dataSource call)
    (deep : dataSource.length - call.dataIndex < depth ∨
      0 ≤ call.remainingSteps ∧ call.remainingSteps < depth) :
    ∃ calls, runState32 graph dataSource depth call =
        .ok ⟨call :: calls,
          runState graph dataSource call.state call.dataIndex call.remainingSteps⟩ ∧
      calls.length ≤ dataSource.length - call.dataIndex ∧
      (0 ≤ call.remainingSteps → (calls.length : Int) ≤ call.remainingSteps) ∧
      ∀ other ∈ call :: calls, Fits dataSource other ∧
        (call.remainingSteps < 0 → other.remainingSteps < 0) := by
  induction depth generalizing call with
  | zero => omega
  | succ depth ih =>
      have alone : ∀ other ∈ [call], Fits dataSource other ∧
          (call.remainingSteps < 0 → other.remainingSteps < 0) := by
        intro other member
        obtain rfl := List.mem_singleton.mp member
        exact ⟨fits, id⟩
      rw [runState32_eq graph dataSource depth call (fits_room fits), runState_eq]
      split
      · exact ⟨[], rfl, Nat.zero_le _, fun limited => limited, alone⟩
      · split
        · exact ⟨[], rfl, Nat.zero_le _, fun limited => limited, alone⟩
        · rename_i going
          cases step : nextMove graph dataSource (call.state, call.dataIndex) with
          | none => exact ⟨[], rfl, Nat.zero_le _, fun limited => limited, alone⟩
          | some next =>
              rcases next with ⟨move, d⟩
              obtain ⟨valid, -, index⟩ := nextMove_index step
              have forward := advance_pos move
              simp only at valid index
              obtain ⟨calls, ran, short, limited, inside⟩ :=
                ih ⟨d.1, d.2, call.remainingSteps - 1⟩ (fits_move fits going step)
                  (by simp only; omega)
              simp only at ran short limited inside
              refine ⟨_ :: calls, by simp only [ran]; rfl, ?_, ?_, ?_⟩
              · rw [List.length_cons]
                omega
              · intro nonneg
                have rest := limited (by omega)
                rw [List.length_cons]
                omega
              · intro other member
                rcases List.mem_cons.mp member with rfl | member
                · exact ⟨fits, id⟩
                · obtain ⟨fitsOther, below⟩ := inside other member
                  exact ⟨fitsOther, fun negative => below (by omega)⟩

/-- The run comes to its end within the int32 range. Without a limit it makes no more moves than
there are atoms left, its counter never comes to 0, and it reports OutOfSteps only for a state that
is marked so. With a budget it makes no more moves than the budget. -/
theorem runState32_total (graph : σ → USMState α σ) (dataSource : List α)
    (small : dataSource.length ≤ 2 ^ 31 - 3) (state : σ) (dataIndex : Nat)
    (index : InInt32 dataIndex) :
    (∀ depth, dataSource.length - dataIndex < depth →
      ∃ run, runState32 graph dataSource depth ⟨state, dataIndex, -1⟩ = .ok run ∧
        run.result = runState graph dataSource state dataIndex (-1) ∧
        run.calls.head? = some ⟨state, dataIndex, -1⟩ ∧
        run.calls.length ≤ (dataSource.length - dataIndex) + 1 ∧
        (∀ call ∈ run.calls, InInt32 call.dataIndex ∧ InInt32 call.remainingSteps ∧
          call.remainingSteps ≠ 0) ∧
        (run.result.completionType = .outOfSteps →
          ∃ final, run.result.finalState = some final ∧
            (graph final).completionType = .outOfSteps)) ∧
    (∀ n : Nat, InInt32 n → ∀ depth, n < depth →
      ∃ run, runState32 graph dataSource depth ⟨state, dataIndex, n⟩ = .ok run ∧
        run.result = runState graph dataSource state dataIndex n ∧
        run.calls.head? = some ⟨state, dataIndex, n⟩ ∧ run.calls.length ≤ n + 1 ∧
        ∀ call ∈ run.calls, InInt32 call.dataIndex ∧ InInt32 call.remainingSteps) := by
  constructor
  · intro depth deep
    have unlimited : InInt32 (-1) := by decide
    have fits : Fits dataSource ⟨state, dataIndex, -1⟩ :=
      ⟨small, index, unlimited, .inr (by simp only; omega)⟩
    obtain ⟨calls, ran, short, -, inside⟩ :=
      runState32_fits graph dataSource depth ⟨state, dataIndex, -1⟩ fits (.inl deep)
    refine ⟨_, ran, rfl, rfl, Nat.succ_le_succ short, ?_, ?_⟩
    · intro call member
      obtain ⟨fitsCall, negative⟩ := inside call member
      have below := negative (by simp only; omega)
      exact ⟨fitsCall.index, fitsCall.steps, by omega⟩
    · simp only
      rw [runState_unlimited graph dataSource state dataIndex (-1) (by omega)]
      intro marked
      exact ⟨_, rfl, marked⟩
  · intro n budget depth deep
    have fits : Fits dataSource ⟨state, dataIndex, n⟩ :=
      ⟨small, index, budget, .inl (by simp only; omega)⟩
    obtain ⟨calls, ran, -, limited, inside⟩ :=
      runState32_fits graph dataSource depth ⟨state, dataIndex, n⟩ fits
        (.inr (by simp only; omega))
    have made := limited (by simp only; omega)
    simp only at made
    refine ⟨_, ran, rfl, rfl, by simp only [List.length_cons]; omega, ?_⟩
    intro call member
    obtain ⟨fitsCall, -⟩ := inside call member
    exact ⟨fitsCall.index, fitsCall.steps⟩

theorem runState32_total_sample :
    ∃ run, runState32 sampleGraph [0, 0, 0, 7, 0, 0, 0, 8] 9 ⟨0, 0, -1⟩ = .ok run ∧
      run.result = runState sampleGraph [0, 0, 0, 7, 0, 0, 0, 8] 0 0 (-1) ∧
      run.calls.length ≤ 9 := by
  obtain ⟨run, ran, result, -, short, -⟩ :=
    (runState32_total sampleGraph [0, 0, 0, 7, 0, 0, 0, 8] (by decide) 0 0 (by decide)).1 9
      (by decide)
  exact ⟨run, ran, result, short⟩

end SmFighting
