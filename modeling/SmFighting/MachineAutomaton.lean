import SmFighting.Resumption
import SmFighting.Library.SkippingReader

/-! The automaton behind a state machine. However long the input, RunState comes to what a finite
automaton comes to that reads it atom by atom, once. -/

namespace SmFighting

variable {α σ : Type} [DecidableEq α]

def USMStateClass.skips : USMStateClass → Fin 3
  | .usmState => ⟨0, by decide⟩
  | .ufgState => ⟨2, by decide⟩

/-- What a state does with the atom at hand: where it goes on and how many atoms it skips, or nothing
where the machine stops. -/
def reads (graph : σ → USMState α σ) (state : σ) (atom : α) : Option (σ × Fin 3) :=
  if (graph state).bTerminateImmediately then none
  else
    match takenTransition graph [atom] state 0 with
    | some target => some (target, ⟨0, by decide⟩)
    | none =>
        if (graph state).bLoopByDefault then some (state, (graph state).stateClass.skips) else none

/-- The deterministic automaton of a machine: its control is a state with the atoms left to skip, or a
state that it stopped in. -/
def machineAutomaton (graph : σ → USMState α σ) (start : σ) :
    DFA α (SkippingReader.Control σ 2) :=
  SkippingReader.automaton (reads graph) start {state | (graph state).completionType = .accepted}

theorem loopStride_skips (stateClass : USMStateClass) :
    stateClass.loopStride = 1 + stateClass.skips.val := by
  cases stateClass <;> rfl

theorem takenTransition_atom (graph : σ → USMState α σ) {dataSource : List α} (state : σ)
    {dataIndex : Nat} (valid : dataIndex < dataSource.length) :
    takenTransition graph dataSource state dataIndex =
      takenTransition graph [dataSource[dataIndex]] state 0 := by
  have same : dataSource[dataIndex]? = [dataSource[dataIndex]][0]? := List.getElem?_eq_getElem valid
  rw [takenTransition, takenTransition, destination_congr same]

theorem nextMove_reads (graph : σ → USMState α σ) {dataSource : List α} (state : σ) {dataIndex : Nat}
    (valid : dataIndex < dataSource.length) :
    (nextMove graph dataSource (state, dataIndex)).map Prod.snd =
      (reads graph state dataSource[dataIndex]).map
        (fun next => (next.1, dataIndex + 1 + next.2.val)) := by
  rw [nextMove, reads]
  cases terminates : (graph state).bTerminateImmediately with
  | true =>
      have ended : mustEnd graph dataSource state dataIndex = true := by
        rw [mustEnd, terminates, Bool.true_or]
      rw [ended]
      rfl
  | false =>
      have running := mustEnd_false.mpr ⟨terminates, valid⟩
      rw [running, takenTransition_atom graph state valid]
      simp only [Bool.false_eq_true, if_false]
      cases takenTransition graph [dataSource[dataIndex]] state 0 with
      | some target => rfl
      | none =>
          cases (graph state).bLoopByDefault with
          | false => rfl
          | true => simp [loopStride_skips, Nat.add_assoc]

theorem nextMove_goes {graph : σ → USMState α σ} {stream : List α} {c d : σ × Nat} {move : Move}
    (step : nextMove graph stream c = some (move, d)) :
    ∃ atom skip, stream[c.2]? = some atom ∧ reads graph c.1 atom = some (d.1, skip) ∧
      d.2 = c.2 + 1 + skip.val := by
  have valid := (nextMove_index step).1
  have reading := nextMove_reads graph c.1 valid
  rw [step, Option.map_some] at reading
  obtain ⟨after, goes, rfl⟩ := Option.map_eq_some_iff.mp reading.symm
  exact ⟨_, after.2, List.getElem?_eq_getElem valid, goes, rfl⟩

theorem nextMove_going {graph : σ → USMState α σ} {stream : List α} {state next : σ} {i : Nat}
    {atom : α} {skip : Fin 3} (found : stream[i]? = some atom)
    (goes : reads graph state atom = some (next, skip)) :
    ∃ move, nextMove graph stream (state, i) = some (move, (next, i + 1 + skip.val)) := by
  obtain ⟨valid, rfl⟩ := List.getElem?_eq_some_iff.mp found
  have reading := nextMove_reads graph state valid
  rw [goes, Option.map_some] at reading
  obtain ⟨step, moved, same⟩ := Option.map_eq_some_iff.mp reading
  exact ⟨step.1, by rw [moved, ← same]⟩

theorem nextMove_stuck {graph : σ → USMState α σ} {stream : List α} {state : σ} {i : Nat} {atom : α}
    (found : stream[i]? = some atom) :
    nextMove graph stream (state, i) = none ↔ reads graph state atom = none := by
  obtain ⟨valid, rfl⟩ := List.getElem?_eq_some_iff.mp found
  have reading := nextMove_reads graph state valid
  constructor
  · intro stopped
    rw [stopped] at reading
    exact Option.map_eq_none_iff.mp reading.symm
  · intro stopped
    rw [stopped] at reading
    exact Option.map_eq_none_iff.mp reading

theorem at_finish (graph : σ → USMState α σ) (start : σ) (atoms : List α) :
    SkippingReader.At (machineAutomaton graph start) atoms (finish graph atoms start 0) := by
  apply Walk.reaches_invariant _ _ (moves_halts graph atoms start 0).1
    (SkippingReader.at_start atoms)
  intro position move next here step
  have valid := (nextMove_index step).1
  have reading := nextMove_reads graph position.1 valid
  rw [step, Option.map_some] at reading
  obtain ⟨after, acts, rfl⟩ := Option.map_eq_some_iff.mp reading.symm
  exact SkippingReader.at_move here valid acts

theorem machine_stops {graph : σ → USMState α σ} {start : σ} {atoms : List α}
    (valid : (finish graph atoms start 0).2 < atoms.length) :
    (machineAutomaton graph start).eval (atoms.take (finish graph atoms start 0).2) =
        ((finish graph atoms start 0).1, some 0) ∧
      (machineAutomaton graph start).eval (atoms.take ((finish graph atoms start 0).2 + 1)) =
        ((finish graph atoms start 0).1, none) ∧
      (machineAutomaton graph start).eval atoms = ((finish graph atoms start 0).1, none) := by
  have here := at_finish graph start atoms
  have stops : reads graph (finish graph atoms start 0).1 atoms[(finish graph atoms start 0).2] =
      none :=
    (nextMove_stuck (List.getElem?_eq_getElem valid)).mp (moves_halts graph atoms start 0).2
  exact ⟨here.inside valid.le, SkippingReader.at_stop here valid stops⟩

theorem machine_ends {graph : σ → USMState α σ} {start : σ} {atoms : List α}
    (past : atoms.length ≤ (finish graph atoms start 0).2) :
    ∃ skip : Fin 3, (finish graph atoms start 0).2 = atoms.length + skip ∧
      (machineAutomaton graph start).eval atoms = ((finish graph atoms start 0).1, some skip) := by
  have short := reaches_overshoot (moves_halts graph atoms start 0).1 (Nat.zero_le _)
  obtain ⟨skip, count⟩ := Nat.exists_eq_add_of_le past
  refine ⟨⟨skip, by omega⟩, count, ?_⟩
  exact (at_finish graph start atoms).beyond ⟨skip, by omega⟩ count

theorem machine_control (graph : σ → USMState α σ) (start : σ) (atoms : List α) :
    ((machineAutomaton graph start).eval atoms).1 = (finish graph atoms start 0).1 := by
  rcases Nat.lt_or_ge (finish graph atoms start 0).2 atoms.length with valid | past
  · exact congrArg Prod.fst (machine_stops valid).2.2
  · obtain ⟨skip, -, whole⟩ := machine_ends past
    exact congrArg Prod.fst whole

theorem machine_accepts (graph : σ → USMState α σ) (start : σ) (atoms : List α) :
    atoms ∈ (machineAutomaton graph start).accepts ↔
      (runState graph atoms start 0 (-1)).completionType = .accepted := by
  rw [runState_unlimited graph atoms start 0 (-1) (by omega), stoppedAt, ← machine_control]
  rfl

/-- RunState from the front of the input is one pass of the automaton over it. Final state and
completion type are the automaton's. While it is still reading at the end, DataIndex counts the atoms
that it would skip beyond it; where it has stopped, DataIndex is the index of the atom it stopped at. -/
theorem machine_refined (graph : σ → USMState α σ) (start : σ) (atoms : List α) :
    (runState graph atoms start 0 (-1)).finalState =
        some ((machineAutomaton graph start).eval atoms).1 ∧
      (runState graph atoms start 0 (-1)).completionType =
        (graph ((machineAutomaton graph start).eval atoms).1).completionType ∧
      (∀ skip, ((machineAutomaton graph start).eval atoms).2 = some skip →
        (runState graph atoms start 0 (-1)).dataIndex = atoms.length + skip) ∧
      (((machineAutomaton graph start).eval atoms).2 = none →
        ∃ i < atoms.length, (runState graph atoms start 0 (-1)).dataIndex = i ∧
          ((machineAutomaton graph start).eval (atoms.take i)).2 = some 0 ∧
          ((machineAutomaton graph start).eval (atoms.take (i + 1))).2 = none) := by
  rw [runState_unlimited graph atoms start 0 (-1) (by omega), stoppedAt, machine_control]
  refine ⟨rfl, rfl, ?_⟩
  rcases Nat.lt_or_ge (finish graph atoms start 0).2 atoms.length with valid | past
  · obtain ⟨before, next, whole⟩ := machine_stops valid
    rw [whole]
    refine ⟨fun skip impossible => (by cases impossible), fun _ => ⟨_, valid, rfl, ?_, ?_⟩⟩
    · exact congrArg Prod.snd before
    · exact congrArg Prod.snd next
  · obtain ⟨skip, count, whole⟩ := machine_ends past
    rw [whole]
    refine ⟨?_, fun impossible => (by cases impossible)⟩
    intro skip' same
    obtain rfl := Option.some.inj same
    exact count

end SmFighting
