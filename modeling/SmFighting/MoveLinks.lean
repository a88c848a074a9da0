import SmFighting.Pawn

namespace SmFighting

variable {α σ μ : Type} [DecidableEq α]

/-- Pointers to states whose class is UFGState. -/
def UFGState (graph : σ → USMState (Option α) σ) : Type :=
  { state : σ // (graph state).stateClass = .ufgState }

structure UFGMoveLink (graph : σ → USMState (Option α) σ) (μ : Type) where
  move : Option μ
  cancelWindows : List FVector2D := []
  bClearInput : Bool := false
  inputStateMachine : Option (UFGState graph)

structure UFGMove (graph : σ → USMState (Option α) σ) (μ : Type) where
  linkedMoves : List (Option (UFGMoveLink graph μ)) := []
  bClearInputOnEntry : Bool := false
  bClearInputOnExit : Bool := false

structure Assets (α σ μ : Type) where
  state : σ → USMState (Option α) σ
  move : μ → UFGMove state μ

structure FFGMoveLinkToFollow (graph : σ → USMState (Option α) σ) (μ : Type) where
  link : Option (UFGMoveLink graph μ) := none
  smResult : FStateMachineResult σ := {}

/-- FMath::Clamp. -/
def clamp (x min max : Rat) : Rat := if x < min then min else if x < max then x else max

def bCanCancel {graph : σ → USMState (Option α) σ} (link : UFGMoveLink graph μ)
    (timeInMove : Rat) : Bool :=
  link.cancelWindows.any (fun cancelWindow =>
    timeInMove == clamp timeInMove cancelWindow.x cancelWindow.y)

def tryLink {graph : σ → USMState (Option α) σ} (link : UFGMoveLink graph μ) (timeInMove : Rat)
    (inputAtoms : List (Option α)) (dataIndex : Nat := 0) (remainingSteps : Int := -1) :
    FStateMachineResult σ :=
  match link.inputStateMachine, link.move with
  | some machine, some _ =>
      if bCanCancel link timeInMove || link.cancelWindows.isEmpty then
        runState graph inputAtoms machine.1 dataIndex remainingSteps
      else {}
  | _, _ => {}

/-- TryLinks over the entries that are left, with the result of the last one tried. The log line
goes through LinkedMoves[i] and its Move before anything tests them, so the check() behind it never
fails. -/
def tryLinks {graph : σ → USMState (Option α) σ} (timeInMove : Rat) (inputAtoms : List (Option α))
    (dataIndex : Nat := 0) (remainingSteps : Int := -1) :
    List (Option (UFGMoveLink graph μ)) → FFGMoveLinkToFollow graph μ →
      Except Fault (FFGMoveLinkToFollow graph μ)
  | [], moveLinkToFollow => .ok moveLinkToFollow
  | entry :: linkedMoves, moveLinkToFollow => do
      let link ← deref entry
      let _ ← deref link.move
      let smResult := tryLink link timeInMove inputAtoms dataIndex remainingSteps
      if smResult.completionType = .accepted then
        return { link := some link, smResult := smResult }
      else
        tryLinks timeInMove inputAtoms dataIndex remainingSteps linkedMoves
          { moveLinkToFollow with smResult := smResult }

theorem clamp_fixed (t min max : Rat) : t = clamp t min max ↔ min ≤ t ∧ t ≤ max := by
  unfold clamp
  split
  · rename_i low
    exact ⟨fun same => absurd low (by rw [← same]; exact lt_irrefl t),
      fun inside => absurd low (not_lt.mpr inside.1)⟩
  · rename_i low
    split
    · rename_i high
      exact ⟨fun _ => ⟨not_lt.mp low, high.le⟩, fun _ => rfl⟩
    · rename_i high
      refine ⟨fun same => ⟨not_lt.mp low, same.le⟩, fun inside => ?_⟩
      exact le_antisymm inside.2 (not_lt.mp high)

section
variable {graph : σ → USMState (Option α) σ}

def WindowsOpen (link : UFGMoveLink graph μ) (timeInMove : Rat) : Prop :=
  link.cancelWindows = [] ∨
    ∃ window ∈ link.cancelWindows, window.x ≤ timeInMove ∧ timeInMove ≤ window.y

def Opens (link : UFGMoveLink graph μ) (timeInMove : Rat) (inputAtoms : List (Option α)) : Prop :=
  WindowsOpen link timeInMove ∧ ∃ machine, link.inputStateMachine = some machine ∧
    (runState graph inputAtoms machine.1 0 (-1)).completionType = .accepted

/-- The entry that TryLinks stops at: the first that opens, behind complete ones that do not. -/
def FirstOpening (linkedMoves : List (Option (UFGMoveLink graph μ))) (timeInMove : Rat)
    (inputAtoms : List (Option α)) (link : UFGMoveLink graph μ) : Prop :=
  ∃ (earlier : List (UFGMoveLink graph μ)) (later : List (Option (UFGMoveLink graph μ))),
    linkedMoves = earlier.map some ++ some link :: later ∧
    (∀ other ∈ earlier, other.move ≠ none ∧ ¬ Opens other timeInMove inputAtoms) ∧
    link.move ≠ none ∧ Opens link timeInMove inputAtoms

omit [DecidableEq α] in
theorem windowsOpen_iff (link : UFGMoveLink graph μ) (timeInMove : Rat) :
    (bCanCancel link timeInMove || link.cancelWindows.isEmpty) = true ↔
      WindowsOpen link timeInMove := by
  simp [bCanCancel, WindowsOpen, clamp_fixed, or_comm]

theorem tryLink_accepted (link : UFGMoveLink graph μ) (timeInMove : Rat)
    (inputAtoms : List (Option α)) (complete : link.move ≠ none) :
    (tryLink link timeInMove inputAtoms 0 (-1)).completionType = .accepted ↔
      Opens link timeInMove inputAtoms := by
  obtain ⟨target, targeted⟩ := Option.ne_none_iff_exists'.mp complete
  rw [Opens, ← windowsOpen_iff, tryLink, targeted]
  cases link.inputStateMachine with
  | none => simp
  | some machine =>
      simp only [Option.some.injEq, exists_eq_left']
      split
      · rename_i usable
        simp only [usable, true_and]
      · rename_i closed
        simp [closed]

theorem tryLink_runs {link : UFGMoveLink graph μ} {timeInMove : Rat} {inputAtoms : List (Option α)}
    (complete : link.move ≠ none) (opens : Opens link timeInMove inputAtoms) :
    ∃ machine, link.inputStateMachine = some machine ∧
      tryLink link timeInMove inputAtoms 0 (-1) = runState graph inputAtoms machine.1 0 (-1) := by
  obtain ⟨target, targeted⟩ := Option.ne_none_iff_exists'.mp complete
  rcases opens with ⟨usable, machine, found, -⟩
  refine ⟨machine, found, ?_⟩
  rw [tryLink, targeted, found]
  exact if_pos ((windowsOpen_iff link timeInMove).mpr usable)

theorem tryLinks_cons (timeInMove : Rat) (inputAtoms : List (Option α)) (link : UFGMoveLink graph μ)
    (linkedMoves : List (Option (UFGMoveLink graph μ))) (start : FFGMoveLinkToFollow graph μ)
    (complete : link.move ≠ none) :
    (Opens link timeInMove inputAtoms →
      tryLinks timeInMove inputAtoms 0 (-1) (some link :: linkedMoves) start =
        .ok ⟨some link, tryLink link timeInMove inputAtoms 0 (-1)⟩) ∧
    (¬ Opens link timeInMove inputAtoms →
      tryLinks timeInMove inputAtoms 0 (-1) (some link :: linkedMoves) start =
        tryLinks timeInMove inputAtoms 0 (-1) linkedMoves
          { start with smResult := tryLink link timeInMove inputAtoms 0 (-1) }) := by
  obtain ⟨target, found⟩ := Option.ne_none_iff_exists'.mp complete
  have accepted := tryLink_accepted link timeInMove inputAtoms complete
  constructor
  · intro opens
    simp [tryLinks, deref, found, Bind.bind, Except.bind, Pure.pure, Except.pure,
      accepted.mpr opens]
  · intro shut
    have refused : (tryLink link timeInMove inputAtoms 0 (-1)).completionType ≠ .accepted :=
      fun h => shut (accepted.mp h)
    simp [tryLinks, deref, found, Bind.bind, Except.bind, refused]

theorem tryLinks_error {timeInMove : Rat} {inputAtoms : List (Option α)}
    {linkedMoves : List (Option (UFGMoveLink graph μ))} {start : FFGMoveLinkToFollow graph μ}
    {fault : Fault} (failed : tryLinks timeInMove inputAtoms 0 (-1) linkedMoves start = .error fault) :
    fault = .nullPointer := by
  induction linkedMoves generalizing start with
  | nil => cases failed
  | cons entry linkedMoves ih =>
      rcases bind_error.mp failed with null | ⟨link, -, failed⟩
      · exact (deref_error.mp null).2
      · rcases bind_error.mp failed with null | ⟨target, -, failed⟩
        · exact (deref_error.mp null).2
        · simp only at failed
          split at failed
          · cases failed
          · exact ih failed

theorem tryLinks_total (timeInMove : Rat) (inputAtoms : List (Option α))
    (linkedMoves : List (Option (UFGMoveLink graph μ))) (start : FFGMoveLinkToFollow graph μ)
    (complete : ∀ entry ∈ linkedMoves, ∃ link, entry = some link ∧ link.move ≠ none) :
    ∃ result, tryLinks timeInMove inputAtoms 0 (-1) linkedMoves start = .ok result := by
  induction linkedMoves generalizing start with
  | nil => exact ⟨start, rfl⟩
  | cons entry linkedMoves ih =>
      obtain ⟨link, rfl, target⟩ := complete entry List.mem_cons_self
      obtain ⟨onOpen, onShut⟩ := tryLinks_cons timeInMove inputAtoms link linkedMoves start target
      by_cases opens : Opens link timeInMove inputAtoms
      · exact ⟨_, onOpen opens⟩
      · rw [onShut opens]
        exact ih _ (fun e member => complete e (List.mem_cons_of_mem _ member))

theorem firstOpening_nil {timeInMove : Rat} {inputAtoms : List (Option α)}
    {link : UFGMoveLink graph μ} : ¬ FirstOpening [] timeInMove inputAtoms link := by
  intro first
  rcases first with ⟨earlier, later, split, -⟩
  cases earlier <;> cases split

theorem firstOpening_complete {timeInMove : Rat} {inputAtoms : List (Option α)}
    {entry : Option (UFGMoveLink graph μ)} {linkedMoves : List (Option (UFGMoveLink graph μ))}
    {link : UFGMoveLink graph μ}
    (first : FirstOpening (entry :: linkedMoves) timeInMove inputAtoms link) :
    ∃ head, entry = some head ∧ head.move ≠ none := by
  rcases first with ⟨earlier, later, split, before, target, -⟩
  cases earlier with
  | nil => exact ⟨link, (List.cons.inj split).1, target⟩
  | cons head earlier =>
      exact ⟨head, (List.cons.inj split).1, (before head List.mem_cons_self).1⟩

theorem firstOpening_cons {timeInMove : Rat} {inputAtoms : List (Option α)}
    {head link : UFGMoveLink graph μ} {linkedMoves : List (Option (UFGMoveLink graph μ))}
    (complete : head.move ≠ none) :
    FirstOpening (some head :: linkedMoves) timeInMove inputAtoms link ↔
      (Opens head timeInMove inputAtoms ∧ link = head) ∨
        (¬ Opens head timeInMove inputAtoms ∧
          FirstOpening linkedMoves timeInMove inputAtoms link) := by
  constructor
  · intro first
    rcases first with ⟨earlier, later, split, before, rest⟩
    cases earlier with
    | nil =>
        obtain ⟨same, -⟩ := List.cons.inj split
        obtain rfl := Option.some.inj same
        exact .inl ⟨rest.2, rfl⟩
    | cons other earlier =>
        obtain ⟨same, rfl⟩ := List.cons.inj split
        obtain rfl := Option.some.inj same
        exact .inr ⟨(before head List.mem_cons_self).2, earlier, later, rfl,
          fun l member => before l (List.mem_cons_of_mem head member), rest⟩
  · intro opening
    rcases opening with ⟨opens, rfl⟩ | ⟨shut, earlier, later, rfl, before, rest⟩
    · exact ⟨[], linkedMoves, rfl, by simp, complete, opens⟩
    · refine ⟨head :: earlier, later, rfl, ?_, rest⟩
      intro other member
      rcases List.mem_cons.mp member with rfl | member
      · exact ⟨complete, shut⟩
      · exact before other member

theorem firstOpening_index {timeInMove : Rat} {inputAtoms : List (Option α)}
    {linkedMoves : List (Option (UFGMoveLink graph μ))} {link : UFGMoveLink graph μ}
    (first : FirstOpening linkedMoves timeInMove inputAtoms link) :
    ∃ i : Nat, linkedMoves[i]? = some (some link) ∧ Opens link timeInMove inputAtoms ∧
      ∀ j < i, ∀ other, linkedMoves[j]? = some (some other) →
        ¬ Opens other timeInMove inputAtoms := by
  rcases first with ⟨earlier, later, rfl, before, -, opens⟩
  refine ⟨earlier.length, by simp, opens, ?_⟩
  intro j below other found
  rw [List.getElem?_append_left (by simpa using below), List.getElem?_map] at found
  obtain ⟨other', found', same⟩ := Option.map_eq_some_iff.mp found
  obtain rfl := Option.some.inj same
  exact (before other' (List.mem_of_getElem? found')).2

theorem firstOpening_exists {timeInMove : Rat} {inputAtoms : List (Option α)}
    {linkedMoves : List (Option (UFGMoveLink graph μ))}
    (complete : ∀ entry ∈ linkedMoves, ∃ link, entry = some link ∧ link.move ≠ none)
    {link : UFGMoveLink graph μ} (member : some link ∈ linkedMoves)
    (opens : Opens link timeInMove inputAtoms) :
    ∃ first, FirstOpening linkedMoves timeInMove inputAtoms first := by
  induction linkedMoves with
  | nil => cases member
  | cons entry linkedMoves ih =>
      obtain ⟨head, rfl, target⟩ := complete entry List.mem_cons_self
      simp only [firstOpening_cons target]
      by_cases headOpens : Opens head timeInMove inputAtoms
      · exact ⟨head, .inl ⟨headOpens, rfl⟩⟩
      · rcases List.mem_cons.mp member with same | behind
        · rw [Option.some.inj same] at opens
          exact absurd opens headOpens
        · obtain ⟨first, opening⟩ :=
            ih (fun e inside => complete e (List.mem_cons_of_mem _ inside)) behind
          exact ⟨first, .inr ⟨headOpens, opening⟩⟩

/-- TryLinks returns an accepted result exactly when some link opens first, and then it returns
that link with its own result, whatever the links before it left behind. -/
theorem tryLinks_accepted (timeInMove : Rat) (inputAtoms : List (Option α))
    (linkedMoves : List (Option (UFGMoveLink graph μ)))
    (start result : FFGMoveLinkToFollow graph μ) (unset : start.smResult.completionType ≠ .accepted) :
    (tryLinks timeInMove inputAtoms 0 (-1) linkedMoves start = .ok result ∧
        result.smResult.completionType = .accepted) ↔
      ∃ link, FirstOpening linkedMoves timeInMove inputAtoms link ∧
        result = ⟨some link, tryLink link timeInMove inputAtoms 0 (-1)⟩ := by
  induction linkedMoves generalizing start with
  | nil =>
      constructor
      · intro picked
        obtain rfl := Except.ok.inj picked.1
        exact absurd picked.2 unset
      · intro opening
        rcases opening with ⟨link, first, -⟩
        exact absurd first firstOpening_nil
  | cons entry linkedMoves ih =>
      by_cases complete : ∃ head, entry = some head ∧ head.move ≠ none
      · rcases complete with ⟨head, rfl, target⟩
        obtain ⟨onOpen, onShut⟩ := tryLinks_cons timeInMove inputAtoms head linkedMoves start target
        have accepts := tryLink_accepted head timeInMove inputAtoms target
        simp only [firstOpening_cons target]
        by_cases opens : Opens head timeInMove inputAtoms
        · rw [onOpen opens]
          constructor
          · intro picked
            obtain rfl := Except.ok.inj picked.1
            exact ⟨head, .inl ⟨opens, rfl⟩, rfl⟩
          · intro opening
            rcases opening with ⟨link, ⟨-, rfl⟩ | ⟨shut, -⟩, rfl⟩
            · exact ⟨rfl, accepts.mpr opens⟩
            · exact absurd opens shut
        · rw [onShut opens, ih _ (fun accepted => opens (accepts.mp accepted))]
          simp only [opens, false_and, not_false_eq_true, true_and, false_or]
      · -- the loop stops at the entry, and nothing opens first behind it
        constructor
        · intro picked
          obtain ⟨head, found, done⟩ := bind_ok.mp picked.1
          obtain ⟨target, found', -⟩ := bind_ok.mp done
          rw [deref_ok] at found found'
          exact absurd ⟨head, found, found' ▸ Option.some_ne_none target⟩ complete
        · intro opening
          rcases opening with ⟨link, first, -⟩
          exact absurd (firstOpening_complete first) complete

end

end SmFighting
