import SmFighting.RunSimulation
import SmFighting.Tick

namespace SmFighting

variable {α σ μ : Type} [DecidableEq α] {assets : Assets α σ μ}

/-- `short` is what is left of `long` without its first atoms, and every run over it from 0 is the run
over `long` from behind those atoms, up to the index that it returns. -/
structure RunsAsRest (graph : σ → USMState (Option α) σ) (short long : List (Option α)) : Prop where
  rest : short = long.drop (long.length - short.length)
  completionType : ∀ state remainingSteps,
    (runState graph short state 0 remainingSteps).completionType =
      (runState graph long state (long.length - short.length) remainingSteps).completionType
  finalState : ∀ state remainingSteps,
    (runState graph short state 0 remainingSteps).finalState =
      (runState graph long state (long.length - short.length) remainingSteps).finalState

theorem runsAsRest_drop (graph : σ → USMState (Option α) σ) {short long : List (Option α)} {k : Nat}
    (bound : k ≤ long.length) (removed : short = long.drop k) : RunsAsRest graph short long := by
  have count : long.length - short.length = k := by
    rw [removed, List.length_drop]
    omega
  have shifted := fun state remainingSteps => runState_drop graph long k state 0 remainingSteps
  simp only [Nat.add_zero] at shifted
  constructor
  · rw [count, removed]
  · intro state remainingSteps
    rw [count, removed, shifted]
    rfl
  · intro state remainingSteps
    rw [count, removed, shifted]
    rfl

theorem seen_stream {record : TickRecord assets} (complete : record.Complete) :
    ∃ k ≤ (record.before.inputStream ++ record.atoms).length,
      record.seen.inputStream = (record.before.inputStream ++ record.atoms).drop k := by
  obtain ⟨i, available, seen⟩ := AFGDefaultPawn.pruneInput_drops complete.pruned
  exact ⟨_, available, congrArg AFGDefaultPawn.inputStream seen⟩

theorem after_stream {record : TickRecord assets} (complete : record.Complete) :
    ∃ k ≤ record.seen.inputStream.length,
      record.after.inputStream = record.seen.inputStream.drop k := by
  rcases complete.tried with ⟨current, -, -, ending⟩
  rcases ending with ⟨-, link, target, spent, -, -, spending, -, after⟩ | ⟨-, -, after⟩
  · rw [after]
    rcases spendInput_cases spending with ⟨-, rfl⟩ | ⟨-, -, available, rfl⟩
    · exact ⟨_, Nat.le_refl _, List.drop_length.symm⟩
    · exact ⟨_, available, rfl⟩
  · rw [after]
    exact ⟨0, Nat.zero_le _, rfl⟩

/-- Removing the first atoms of the input shifts a run and changes nothing else. So the link machines
give the same results over a pruned or consumed stream as over the whole one, from behind the atoms
that were removed. -/
theorem removed_input {β τ : Type} [DecidableEq β] (graph : τ → USMState β τ) :
    (∀ (dataSource : List β) (state : τ) (k i : Nat) (r : Int)
      (c : EStateMachineCompletionType) (f : Option τ) (j : Nat), k ≤ dataSource.length →
        runState graph (dataSource.drop k) state i r = ⟨c, f, j⟩ →
          runState graph dataSource state (k + i) r = ⟨c, f, k + j⟩) ∧
    ∀ (pawn : AFGDefaultPawn α μ) (deltaSeconds currentTime : Rat) (record : TickRecord assets),
      tick assets pawn deltaSeconds currentTime = .ok record →
        RunsAsRest assets.state record.seen.inputStream (pawn.inputStream ++ record.atoms) ∧
          RunsAsRest assets.state record.after.inputStream record.seen.inputStream := by
  constructor
  · intro dataSource state k i r c f j _ returned
    rw [runState_drop, returned]
    rfl
  · intro pawn deltaSeconds currentTime record ticked
    obtain ⟨complete, rfl, -, -⟩ := tick_complete ticked
    obtain ⟨k, bound, pruned⟩ := seen_stream complete
    obtain ⟨k', bound', spent⟩ := after_stream complete
    exact ⟨runsAsRest_drop assets.state bound pruned, runsAsRest_drop assets.state bound' spent⟩

theorem removed_input_sample :
    runState sampleGraph [0, 0, 0, 7, 0, 0, 0, 8] 0 (3 + 0) (-1) = ⟨.accepted, some 2, 3 + 5⟩ ∧
      ∃ record, tick sampleAssets (samplePawn .standing).leftButtonPressed (1 / 60) 0 = .ok record ∧
        RunsAsRest sampleState record.after.inputStream record.seen.inputStream := by
  have shorter : runState sampleGraph [7, 0, 0, 0, 8] 0 0 (-1) = ⟨.accepted, some 2, 5⟩ := by
    decide +kernel
  have ticks : ∃ record,
      tick sampleAssets (samplePawn .standing).leftButtonPressed (1 / 60) 0 = .ok record :=
    faultOf_none.mp (by decide +kernel)
  rcases ticks with ⟨record, ticked⟩
  have removed :=
    @removed_input SampleAtom SampleState SampleMove _ sampleAssets Nat (Fin 3) _ sampleGraph
  exact ⟨removed.1 [0, 0, 0, 7, 0, 0, 0, 8] 0 3 0 (-1) _ _ _ (by decide) shorter, record, ticked,
    (removed.2 _ _ _ record ticked).2⟩

end SmFighting
