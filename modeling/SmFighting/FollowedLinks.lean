import SmFighting.Tick
import SmFighting.StateMachineWalk

namespace SmFighting

variable {α σ μ : Type} [DecidableEq α] {assets : Assets α σ μ}

/-- An accepted result of TryLinks is that of an unlimited run of a link machine from index 0. -/
theorem tryLinks_result {graph : σ → USMState (Option α) σ} {timeInMove : Rat}
    {inputAtoms : List (Option α)} {linkedMoves : List (Option (UFGMoveLink graph μ))}
    {result : FFGMoveLinkToFollow graph μ}
    (done : tryLinks timeInMove inputAtoms 0 (-1) linkedMoves {} = .ok result)
    (accepted : result.smResult.completionType = .accepted) :
    ∃ link machine, FirstOpening linkedMoves timeInMove inputAtoms link ∧
      result.link = some link ∧ link.inputStateMachine = some machine ∧
      result.smResult = stoppedAt graph (finish graph inputAtoms machine.1 0) := by
  obtain ⟨link, first, rfl⟩ := (tryLinks_accepted timeInMove inputAtoms linkedMoves {} result
    (fun impossible => by cases impossible)).mp ⟨done, accepted⟩
  obtain ⟨-, -, -, -, complete, opens⟩ := id first
  obtain ⟨machine, found, runs⟩ := tryLink_runs complete opens
  refine ⟨link, machine, first, rfl, found, ?_⟩
  rw [← runState_unlimited graph inputAtoms machine.1 0 (-1) (by omega)]
  exact runs

theorem finish_overshoot (graph : σ → USMState (Option α) σ) (dataSource : List (Option α))
    (state : σ) : (finish graph dataSource state 0).2 ≤ dataSource.length + 2 :=
  reaches_overshoot (moves_halts graph dataSource state 0).1 (Nat.zero_le _)

theorem tryLinks_overshoot {graph : σ → USMState (Option α) σ} {timeInMove : Rat}
    {inputAtoms : List (Option α)} {linkedMoves : List (Option (UFGMoveLink graph μ))}
    {result : FFGMoveLinkToFollow graph μ}
    (done : tryLinks timeInMove inputAtoms 0 (-1) linkedMoves {} = .ok result)
    (accepted : result.smResult.completionType = .accepted) :
    result.smResult.dataIndex ≤ inputAtoms.length + 2 := by
  obtain ⟨link, machine, -, -, -, stopped⟩ := tryLinks_result done accepted
  rw [stopped]
  exact finish_overshoot graph inputAtoms machine.1

theorem complete_followed {record : TickRecord assets} (complete : record.Complete)
    {link : UFGMoveLink assets.state μ} (followed : record.followed = some link) :
    ∃ current machine, record.before.currentMove = some current ∧
      FirstOpening (assets.move current).linkedMoves record.before.timeInCurrentMove
        record.seen.inputStream link ∧
      link.inputStateMachine = some machine ∧
      record.moveLinkToFollow.smResult =
        stoppedAt assets.state (finish assets.state record.seen.inputStream machine.1 0) ∧
      record.after.currentMove = link.move ∧ record.after.timeInCurrentMove = 0 := by
  obtain ⟨stamps, stream, seen⟩ := seen_frame complete
  rcases complete.tried with ⟨current, found, tried, ending⟩
  rcases ending with ⟨accepted, link', target, spent, linked, targeted, -, followed', after⟩ |
    ⟨-, stayed, -⟩
  · obtain rfl : link = link' := Option.some.inj (followed.symm.trans followed')
    obtain ⟨link', machine, first, linked', machineFound, stopped⟩ := tryLinks_result tried accepted
    obtain rfl : link = link' := Option.some.inj (linked.symm.trans linked')
    have time : record.seen.timeInCurrentMove = record.before.timeInCurrentMove := by rw [seen]
    have move : record.seen.currentMove = record.before.currentMove := by rw [seen]
    rw [time] at first
    refine ⟨current, machine, move ▸ found, first, machineFound, stopped, ?_, ?_⟩
    · rw [after, targeted]
    · rw [after]
  · rw [stayed] at followed
    cases followed

theorem complete_stayed {record : TickRecord assets} (complete : record.Complete)
    (stayed : record.followed = none) :
    ∃ current, record.before.currentMove = some current ∧
      (∀ link, ¬ FirstOpening (assets.move current).linkedMoves record.before.timeInCurrentMove
        record.seen.inputStream link) ∧
      record.after.currentMove = some current ∧
      record.after.timeInCurrentMove = record.before.timeInCurrentMove + record.deltaSeconds := by
  obtain ⟨stamps, stream, seen⟩ := seen_frame complete
  rcases complete.tried with ⟨current, found, tried, ending⟩
  rcases ending with ⟨-, link, -, -, -, -, -, followed, -⟩ | ⟨refused, -, after⟩
  · rw [stayed] at followed
    cases followed
  · have time : record.seen.timeInCurrentMove = record.before.timeInCurrentMove := by rw [seen]
    have move : record.seen.currentMove = record.before.currentMove := by rw [seen]
    refine ⟨current, move ▸ found, ?_, ?_, ?_⟩
    · intro link first
      rw [← time] at first
      obtain ⟨done, accepted⟩ := (tryLinks_accepted record.seen.timeInCurrentMove
        record.seen.inputStream (assets.move current).linkedMoves {} _
        (fun impossible => by cases impossible)).mpr ⟨link, first, rfl⟩
      have same := Except.ok.inj (tried.symm.trans done)
      rw [same] at refused
      exact absurd accepted refused
    · rw [after]
      exact found
    · rw [after, time]

end SmFighting
