import SmFighting.StateMachineWalk
import SmFighting.Library.StridedMatch

namespace SmFighting

variable {α σ : Type} [DecidableEq α]

theorem findSome_destination (dataSource : List α) (dataIndex : Nat)
    (transitions : List (Option (USMTransitionBase α σ))) :
    transitions.findSome? (destination dataSource dataIndex) =
      transitions.reduceOption.findSome?
        (fun transition => (transition.tryTransition dataSource dataIndex).1) := by
  induction transitions with
  | nil => rfl
  | cons entry transitions ih =>
      cases entry with
      | none =>
          rw [List.reduceOption_cons_of_none, ← ih]
          rfl
      | some transition =>
          rw [List.reduceOption_cons_of_some, List.findSome?_cons, List.findSome?_cons, ih]
          rfl

def Accepts (dataSource : List α) (acceptable : List α) (dataIndex : Nat) : Prop :=
  ∃ atom ∈ acceptable, dataSource[dataIndex]? = some atom

omit [DecidableEq α] in
theorem accepts_bound {dataSource acceptable : List α} {dataIndex : Nat}
    (accepts : Accepts dataSource acceptable dataIndex) : dataIndex < dataSource.length := by
  rcases accepts with ⟨atom, -, found⟩
  exact (List.getElem?_eq_some_iff.mp found).1

theorem tryTransition_forward (dataSource acceptable : List α) (dataIndex : Nat) (target : σ) :
    ((USMTransitionBase.usmTransition (some target) false acceptable).tryTransition dataSource
      dataIndex).1 = some target ↔ Accepts dataSource acceptable dataIndex := by
  simp only [USMTransitionBase.tryTransition, Accepts]
  cases dataSource[dataIndex]? with
  | none => simp
  | some atom => by_cases member : atom ∈ acceptable <;> simp [member]

/-- A chain of states of one class: every state but the last waits, looping, for one of its own
acceptable inputs, and the last one accepts at once. -/
structure Chain (graph : σ → USMState α σ) (stateClass : USMStateClass) (n : Nat) (s : Nat → σ)
    (acceptable : Nat → List α) : Prop where
  sameClass : ∀ k, k ≤ n → (graph (s k)).stateClass = stateClass
  waits : ∀ k, k < n → (graph (s k)).bTerminateImmediately = false
  loops : ∀ k, k < n → (graph (s k)).bLoopByDefault = true
  unmarked : ∀ k, k < n → (graph (s k)).completionType ≠ .accepted
  only : ∀ k, k < n →
    ((graph (s k)).instancedTransitions ++ (graph (s k)).sharedTransitions).reduceOption =
      [.usmTransition (some (s (k + 1))) false (acceptable k)]
  terminates : (graph (s n)).bTerminateImmediately = true
  accepted : (graph (s n)).completionType = .accepted

/-- Indices `t 0 < ... < t (n - 1)` of the input that spell the chain's inputs in order, each in
the residue class that the stride leaves reachable. -/
structure Spells (stride : Nat) (dataSource : List α) (acceptable : Nat → List α) (n : Nat)
    (t : Nat → Nat) : Prop where
  start : t 0 % stride = 0
  ascending : ∀ k, k + 1 < n → t k < t (k + 1)
  aligned : ∀ k, k + 1 < n → t (k + 1) % stride = (t k + 1) % stride
  inside : ∀ k, k < n → t k < dataSource.length
  reads : ∀ k, k < n → Accepts dataSource (acceptable k) (t k)

omit [DecidableEq α] in
theorem spells_iff_occurs {stride : Nat} {dataSource : List α} {acceptable : Nat → List α} {n : Nat}
    (nonempty : 1 ≤ n) (t : Nat → Nat) :
    Spells stride dataSource acceptable n t ↔
      StridedMatch.Occurs stride (fun k => Accepts dataSource (acceptable k)) n 0 0 t := by
  constructor
  · intro spells
    refine ⟨fun _ => ⟨Nat.zero_le _, ?_⟩, ?_, fun m _ => spells.reads m⟩
    · rw [spells.start, Nat.zero_mod]
    · exact fun m _ next => ⟨spells.ascending m next, spells.aligned m next⟩
  · intro occurs
    have first := (occurs.first (by omega)).2
    rw [Nat.zero_mod] at first
    exact {
      start := first
      ascending := fun k next => (occurs.later k (Nat.zero_le k) next).1
      aligned := fun k next => (occurs.later k (Nat.zero_le k) next).2
      inside := fun k below => accepts_bound (occurs.hits k (Nat.zero_le k) below)
      reads := fun k below => occurs.hits k (Nat.zero_le k) below }

section
variable {graph : σ → USMState α σ} {stateClass : USMStateClass} {n : Nat} {s : Nat → σ}
  {acceptable : Nat → List α}

theorem chain_nextMove (chain : Chain graph stateClass n s acceptable) (dataSource : List α)
    {k i : Nat} (below : k < n) (inside : i < dataSource.length) :
    (Accepts dataSource (acceptable k) i →
      nextMove graph dataSource (s k, i) = some (⟨.transition, i⟩, (s (k + 1), i + 1))) ∧
    (¬ Accepts dataSource (acceptable k) i →
      nextMove graph dataSource (s k, i) =
        some (⟨.loop stateClass, i⟩, (s k, i + stateClass.loopStride))) := by
  have running : mustEnd graph dataSource (s k) i = false :=
    mustEnd_false.mpr ⟨chain.waits k below, inside⟩
  have taken : takenTransition graph dataSource (s k) i =
      ((USMTransitionBase.usmTransition (some (s (k + 1))) false (acceptable k)).tryTransition
        dataSource i).1 := by
    rw [takenTransition, findSome_destination, chain.only k below]
    simp
  have forward := tryTransition_forward dataSource (acceptable k) i (s (k + 1))
  constructor
  · intro accepts
    simp only [nextMove, running, taken, forward.mpr accepts, Bool.false_eq_true, if_false]
  · intro refuses
    have stuck : takenTransition graph dataSource (s k) i = none := by
      rw [taken]
      cases result : ((USMTransitionBase.usmTransition (some (s (k + 1))) false
          (acceptable k)).tryTransition dataSource i).1 with
      | none => rfl
      | some target =>
          have same : target = s (k + 1) := by
            simp only [USMTransitionBase.tryTransition] at result
            split at result
            · exact (Option.some.inj result).symm
            · cases result
          exact absurd (forward.mp (same ▸ result)) refuses
    simp only [nextMove, running, stuck, chain.loops k below, chain.sameClass k (Nat.le_of_lt below),
      Bool.false_eq_true, if_false, if_true]

/-- The interpreter on a chain is the striding scan for the chain's stages. -/
theorem chain_scan (chain : Chain graph stateClass n s acceptable) (dataSource : List α) (k i : Nat)
    (budget : Int) (low : k ≤ n) (negative : budget < 0) :
    ∃ result, StridedMatch.Scan stateClass.loopStride
        (fun k => Accepts dataSource (acceptable k)) dataSource.length n k i result ∧
      (∀ j, result = some j →
        runState graph dataSource (s k) i budget = ⟨.accepted, some (s n), j⟩) ∧
      (result = none →
        (runState graph dataSource (s k) i budget).completionType ≠ .accepted) := by
  induction left : dataSource.length - i using Nat.strong_induction_on generalizing k i budget with
  | _ left' ih =>
      have nonzero : budget ≠ 0 := by omega
      rcases Nat.eq_or_lt_of_le low with rfl | below
      · refine ⟨some i, .done (Nat.le_refl k), ?_, fun impossible => by cases impossible⟩
        intro j same
        rw [← Option.some.inj same]
        simp [runState_eq, mustEnd, chain.terminates, stoppedAt, chain.accepted]
      · by_cases inside : i < dataSource.length
        · obtain ⟨onHit, onMiss⟩ := chain_nextMove chain dataSource below inside
          have running : mustEnd graph dataSource (s k) i = false :=
            mustEnd_false.mpr ⟨chain.waits k below, inside⟩
          have stride := loopStride_pos stateClass
          by_cases hit : Accepts dataSource (acceptable k) i
          · obtain ⟨result, scan, found, lost⟩ :=
              ih _ (by omega) (k + 1) (i + 1) (budget - 1) below (by omega) rfl
            refine ⟨result, .take below inside hit scan, ?_⟩
            rw [runState_eq, running, if_neg Bool.false_ne_true, if_neg nonzero, onHit hit]
            exact ⟨found, lost⟩
          · obtain ⟨result, scan, found, lost⟩ :=
              ih _ (by omega) k (i + stateClass.loopStride) (budget - 1) low (by omega) rfl
            refine ⟨result, .skip below inside hit scan, ?_⟩
            rw [runState_eq, running, if_neg Bool.false_ne_true, if_neg nonzero, onMiss hit]
            exact ⟨found, lost⟩
        · have past : dataSource.length ≤ i := by omega
          have ended : mustEnd graph dataSource (s k) i = true := by
            simp [mustEnd, isValidIndex, past]
          refine ⟨none, .out below past, fun j impossible => (by cases impossible), fun _ => ?_⟩
          rw [runState_eq, if_pos ended]
          exact chain.unmarked k below

/-- A chain is accepted exactly when its inputs occur in order, and at their earliest completion. -/
theorem chain_recognised (chain : Chain graph stateClass n s acceptable) (nonempty : 1 ≤ n)
    (dataSource : List α) :
    ((runState graph dataSource (s 0) 0 (-1)).completionType = .accepted ↔
      ∃ t, Spells stateClass.loopStride dataSource acceptable n t) ∧
    ((runState graph dataSource (s 0) 0 (-1)).completionType = .accepted →
      (runState graph dataSource (s 0) 0 (-1)).finalState = some (s n) ∧
      ∃ last, IsLeast {i | ∃ t, Spells stateClass.loopStride dataSource acceptable n t ∧
          i = t (n - 1)} last ∧
        (runState graph dataSource (s 0) 0 (-1)).dataIndex = 1 + last) := by
  obtain ⟨result, scan, found, lost⟩ :=
    chain_scan chain dataSource 0 0 (-1) (Nat.zero_le n) (by omega)
  obtain ⟨least, never⟩ := StridedMatch.scan_complete (fun k i => accepts_bound) scan
  simp only [spells_iff_occurs nonempty]
  cases result with
  | none =>
      have refused := lost rfl
      exact ⟨⟨fun accepted => absurd accepted refused, fun occurs => absurd occurs (never rfl)⟩,
        fun accepted => absurd accepted refused⟩
  | some j =>
      have accepted := found j rfl
      obtain ⟨⟨t, occurs, last⟩, lower⟩ := least j rfl
      rw [accepted]
      refine ⟨⟨fun _ => ⟨t, occurs⟩, fun _ => rfl⟩, fun _ => ⟨rfl, t (n - 1), ⟨⟨t, occurs, rfl⟩, ?_⟩, ?_⟩⟩
      · intro i spelt
        rcases spelt with ⟨t', occurs', rfl⟩
        have order := lower ⟨t', occurs', rfl⟩
        rw [last, StridedMatch.finish, StridedMatch.finish, if_pos (by omega), if_pos (by omega)]
          at order
        omega
      · rw [last, StridedMatch.finish, if_pos (by omega), Nat.add_comm]

end

theorem sampleGraph_chain : Chain sampleGraph .ufgState 2 (Fin.ofNat 3)
    (fun k => if k = 0 then [7] else [8, 9]) where
  sameClass := by decide
  waits := by decide
  loops := by decide
  unmarked := by decide
  only := by decide
  terminates := rfl
  accepted := rfl

theorem chain_recognised_sample :
    (runState sampleGraph [7, 0, 0, 7, 0, 0, 0, 8, 9] 0 0 (-1)).finalState = some 2 ∧
      ∃ last, IsLeast {i | ∃ t, Spells 3 [7, 0, 0, 7, 0, 0, 0, 8, 9]
          (fun k => if k = 0 then [7] else [8, 9]) 2 t ∧ i = t 1} last ∧
        (runState sampleGraph [7, 0, 0, 7, 0, 0, 0, 8, 9] 0 0 (-1)).dataIndex = 1 + last := by
  have accepted : (runState sampleGraph [7, 0, 0, 7, 0, 0, 0, 8, 9] 0 0 (-1)).completionType =
      .accepted := by
    decide +kernel
  exact (chain_recognised sampleGraph_chain (by decide) [7, 0, 0, 7, 0, 0, 0, 8, 9]).2 accepted

end SmFighting
