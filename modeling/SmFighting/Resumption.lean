import SmFighting.StateMachineWalk

namespace SmFighting

variable {α σ : Type} [DecidableEq α]

theorem destination_congr {xs ys : List α} {i j : Nat} (same : xs[i]? = ys[j]?) :
    (destination xs i : Option (USMTransitionBase α σ) → Option σ) = destination ys j := by
  funext entry
  cases entry with
  | none => rfl
  | some transition =>
      cases transition with
      | usmTransition target reversed acceptable =>
          simp only [destination, Option.bind_some, USMTransitionBase.tryTransition, same]
          split <;> rfl
      | ufgInputTransition target => rfl

/-- Input behind the atom that a move reads does not change the move. -/
theorem nextMove_extend {graph : σ → USMState α σ} {xs : List α} (ys : List α) {c d : σ × Nat}
    {move : Move} (step : nextMove graph xs c = some (move, d)) :
    nextMove graph (xs ++ ys) c = some (move, d) := by
  have running := (nextMove_cases step).1
  obtain ⟨goesOn, valid⟩ := mustEnd_false.mp running
  have longer : c.2 < (xs ++ ys).length := by
    rw [List.length_append]
    omega
  have running' : mustEnd graph (xs ++ ys) c.1 c.2 = false := mustEnd_false.mpr ⟨goesOn, longer⟩
  have atom : xs[c.2]? = (xs ++ ys)[c.2]? := (List.getElem?_append_left valid).symm
  have taken : takenTransition graph xs c.1 c.2 = takenTransition graph (xs ++ ys) c.1 c.2 := by
    simp only [takenTransition, destination_congr atom]
  rw [nextMove, running, taken] at step
  rw [nextMove, running']
  exact step

theorem reaches_extend {graph : σ → USMState α σ} {xs : List α} (ys : List α) {c d : σ × Nat}
    {moves : List Move} (walk : Walk.Reaches (nextMove graph xs) c moves d) :
    Walk.Reaches (nextMove graph (xs ++ ys)) c moves d := by
  obtain ⟨_, longer, rfl⟩ := Walk.reaches_simulate (fun a b => a = b)
    (fun a b move c same step => ⟨c, same ▸ nextMove_extend ys step, rfl⟩) walk rfl
  exact longer

theorem runState_negative (graph : σ → USMState α σ) (dataSource : List α) (state : σ)
    (dataIndex : Nat) {m n : Int} (first : m < 0) (second : n < 0) :
    runState graph dataSource state dataIndex m = runState graph dataSource state dataIndex n := by
  rw [runState_unlimited _ _ _ _ m first, runState_unlimited _ _ _ _ n second]

/-- Running on a first part of the input and going on from where that ended is running on all of
it, however the first run ended. -/
theorem runState_append_input (graph : σ → USMState α σ) (xs ys : List α) (state : σ)
    (dataIndex : Nat) :
    ∃ completionType final reached,
      runState graph xs state dataIndex (-1) = ⟨completionType, some final, reached⟩ ∧
        runState graph (xs ++ ys) state dataIndex (-1) =
          runState graph (xs ++ ys) final reached (-1) := by
  have longer := reaches_extend ys (moves_halts graph xs state dataIndex).1
  refine ⟨_, _, _, runState_unlimited graph xs state dataIndex (-1) (by omega), ?_⟩
  calc
    _ = runState graph (xs ++ ys) (finish graph xs state dataIndex).1
          (finish graph xs state dataIndex).2 (-1 - (moves graph xs state dataIndex).length) :=
      runState_reaches longer (-1) (.inl (by omega))
    _ = _ := runState_negative graph _ _ _ (by omega) (by omega)

/-- How a run with a budget ends: in a stop that it notices, or with the budget just used up. -/
theorem runState_budget (graph : σ → USMState α σ) (dataSource : List α) (c : σ × Nat) (n : Nat) :
    ∃ moves d, Walk.Reaches (nextMove graph dataSource) c moves d ∧
      ((runState graph dataSource c.1 c.2 n = stoppedAt graph d ∧ moves.length ≤ n ∧
          nextMove graph dataSource d = none ∧
          (mustEnd graph dataSource d.1 d.2 = true ∨ moves.length < n)) ∨
        (runState graph dataSource c.1 c.2 n = ⟨.outOfSteps, some d.1, d.2⟩ ∧
          moves.length = n)) := by
  induction n generalizing c with
  | zero =>
      refine ⟨[], c, .stay c, ?_⟩
      cases ended : mustEnd graph dataSource c.1 c.2 with
      | true =>
          have stopped := nextMove_of_mustEnd ended
          exact .inl ⟨runState_stopped stopped _ (.inl ended), Nat.le_refl _, stopped, .inl rfl⟩
      | false =>
          right
          refine ⟨?_, rfl⟩
          rw [runState_eq, ended]
          rfl
  | succ n ih =>
      cases step : nextMove graph dataSource c with
      | none =>
          refine ⟨[], c, .stay c, .inl ⟨?_, Nat.zero_le _, step, .inr (Nat.succ_pos n)⟩⟩
          exact runState_stopped step _ (.inr (by omega))
      | some next =>
          rcases next with ⟨move, d⟩
          obtain ⟨moves, e, walk, ending⟩ := ih d
          have first : runState graph dataSource c.1 c.2 (n + 1 : Nat) =
              runState graph dataSource d.1 d.2 n := by
            have one := Walk.Reaches.move step (Walk.Reaches.stay d)
            have affordable : (([move] : List Move).length : Int) ≤ (n + 1 : Nat) := by
              simp only [List.length_singleton]
              omega
            calc
              _ = runState graph dataSource d.1 d.2 ((n + 1 : Nat) - ([move] : List Move).length) :=
                runState_reaches one _ (.inr affordable)
              _ = runState graph dataSource d.1 d.2 n := by
                congr 1
                simp only [List.length_singleton]
                omega
          refine ⟨move :: moves, e, .move step walk, ?_⟩
          rw [first]
          rcases ending with ⟨result, short, stopped, noticed⟩ | ⟨result, exact⟩
          · refine .inl ⟨result, Nat.succ_le_succ short, stopped, ?_⟩
            exact noticed.imp id Nat.succ_lt_succ
          · exact .inr ⟨result, congrArg Nat.succ exact⟩

/-- A run cut off by its budget can be taken up where it stopped; one that came to its end gives
the same result under every larger budget and without one. -/
theorem runState_resume (graph : σ → USMState α σ)
    (visible : ∀ state, (graph state).completionType ≠ .outOfSteps) (dataSource : List α)
    (state : σ) (dataIndex n : Nat) :
    (∀ final reached,
      runState graph dataSource state dataIndex n = ⟨.outOfSteps, some final, reached⟩ →
        (∀ m : Nat, runState graph dataSource state dataIndex (n + m) =
          runState graph dataSource final reached m) ∧
        runState graph dataSource state dataIndex (-1) =
          runState graph dataSource final reached (-1)) ∧
    ((runState graph dataSource state dataIndex n).completionType ≠ .outOfSteps →
      (∀ m : Nat, n ≤ m → runState graph dataSource state dataIndex m =
        runState graph dataSource state dataIndex n) ∧
      runState graph dataSource state dataIndex (-1) =
        runState graph dataSource state dataIndex n) := by
  obtain ⟨moves, d, walk, ending⟩ := runState_budget graph dataSource (state, dataIndex) n
  rcases ending with ⟨result, short, stopped, noticed⟩ | ⟨result, exact⟩
  · rw [result]
    refine ⟨?_, fun _ => ⟨?_, ?_⟩⟩
    · intro final reached outOfSteps
      exact absurd (congrArg FStateMachineResult.completionType outOfSteps) (visible d.1)
    · intro m larger
      rw [runState_reaches walk m (.inr (by omega))]
      exact runState_stopped stopped _ (noticed.imp id (fun below => by omega))
    · exact runState_halts ⟨walk, stopped⟩ (-1) (by omega)
  · rw [result]
    refine ⟨?_, fun finished => absurd rfl finished⟩
    intro final reached same
    simp only [FStateMachineResult.mk.injEq, Option.some.injEq, true_and] at same
    rcases same with ⟨rfl, rfl⟩
    constructor
    · intro m
      rw [runState_reaches walk (n + m) (.inr (by omega))]
      congr 1
      omega
    · calc
        _ = runState graph dataSource d.1 d.2 (-1 - moves.length) :=
          runState_reaches walk (-1) (.inl (by omega))
        _ = runState graph dataSource d.1 d.2 (-1) :=
          runState_negative graph _ _ _ (by omega) (by omega)

theorem runState_resume_sample :
    runState sampleGraph [0, 0, 0, 7, 0, 0, 0, 8] 0 0 2 = ⟨.outOfSteps, some 1, 4⟩ ∧
      ∀ m : Nat, runState sampleGraph [0, 0, 0, 7, 0, 0, 0, 8] 0 0 (2 + m) =
        runState sampleGraph [0, 0, 0, 7, 0, 0, 0, 8] 1 4 m := by
  have cut : runState sampleGraph [0, 0, 0, 7, 0, 0, 0, 8] 0 0 2 = ⟨.outOfSteps, some 1, 4⟩ := by
    decide +kernel
  exact ⟨cut, ((runState_resume sampleGraph (by decide) [0, 0, 0, 7, 0, 0, 0, 8] 0 0 2).1 1 4 cut).1⟩

end SmFighting
