import SmFighting.MoveLinks

/-! Links that a designer has not finished: without a Move, or without an InputStateMachine. TryLink
guards against both, but TryLinks logs the name of the Move before it calls TryLink. -/

namespace SmFighting

variable {α σ μ : Type} [DecidableEq α] {graph : σ → USMState (Option α) σ}

def UFGMoveLink.isComplete (link : UFGMoveLink graph μ) : Bool :=
  link.move.isSome && link.inputStateMachine.isSome

/-- What Tick takes from TryLinks: the link to follow with its result, or nothing. -/
def FFGMoveLinkToFollow.toFollow (moveLinkToFollow : FFGMoveLinkToFollow graph μ) :
    Option (Option (UFGMoveLink graph μ) × FStateMachineResult σ) :=
  if moveLinkToFollow.smResult.completionType = .accepted then
    some (moveLinkToFollow.link, moveLinkToFollow.smResult)
  else none

/-- TryLinks reads through no null pointer, and Tick takes the same from it as from the complete links
alone. -/
def SkipsIncomplete (timeInMove : Rat) (inputAtoms : List (Option α))
    (links : List (UFGMoveLink graph μ)) (start start' : FFGMoveLinkToFollow graph μ) : Prop :=
  ∃ result result', tryLinks timeInMove inputAtoms 0 (-1) (links.map some) start = .ok result ∧
    tryLinks timeInMove inputAtoms 0 (-1) ((links.filter UFGMoveLink.isComplete).map some) start' =
      .ok result' ∧
    result.toFollow = result'.toFollow

def MoveOrOpener (timeInMove : Rat) (inputAtoms : List (Option α))
    (links : List (UFGMoveLink graph μ)) : Prop :=
  ∀ earlier link later, links = earlier ++ link :: later → link.move = none →
    ∃ opener ∈ earlier, opener.move ≠ none ∧ Opens opener timeInMove inputAtoms

theorem moveOrOpener_cons {timeInMove : Rat} {inputAtoms : List (Option α)}
    {head : UFGMoveLink graph μ} {links : List (UFGMoveLink graph μ)} :
    MoveOrOpener timeInMove inputAtoms (head :: links) ↔
      head.move ≠ none ∧
        (Opens head timeInMove inputAtoms ∨ MoveOrOpener timeInMove inputAtoms links) := by
  constructor
  · intro behind
    have target : head.move ≠ none := by
      intro null
      obtain ⟨opener, member, -⟩ := behind [] head links rfl null
      cases member
    refine ⟨target, or_iff_not_imp_left.mpr ?_⟩
    intro shut earlier link later split null
    obtain ⟨opener, member, complete, opens⟩ :=
      behind (head :: earlier) link later (congrArg (head :: ·) split) null
    rcases List.mem_cons.mp member with rfl | member
    · exact absurd opens shut
    · exact ⟨opener, member, complete, opens⟩
  · intro parts earlier link later split null
    rcases parts with ⟨target, rest⟩
    cases earlier with
    | nil =>
        obtain ⟨rfl, -⟩ := List.cons.inj split
        exact absurd null target
    | cons other earlier =>
        obtain ⟨rfl, rfl⟩ := List.cons.inj split
        rcases rest with opens | behind
        · exact ⟨head, List.mem_cons_self, target, opens⟩
        · obtain ⟨opener, member, opening⟩ := behind earlier link later rfl null
          exact ⟨opener, List.mem_cons_of_mem head member, opening⟩

theorem tryLinks_nullMove (timeInMove : Rat) (inputAtoms : List (Option α))
    {link : UFGMoveLink graph μ} (linkedMoves : List (Option (UFGMoveLink graph μ)))
    (start : FFGMoveLinkToFollow graph μ) (null : link.move = none) :
    tryLinks timeInMove inputAtoms 0 (-1) (some link :: linkedMoves) start =
      .error .nullPointer := by
  simp [tryLinks, deref, null, Bind.bind, Except.bind]

theorem skipsIncomplete_iff (timeInMove : Rat) (inputAtoms : List (Option α))
    (links : List (UFGMoveLink graph μ)) (start start' : FFGMoveLinkToFollow graph μ)
    (unset : start.smResult.completionType ≠ .accepted)
    (unset' : start'.smResult.completionType ≠ .accepted) :
    SkipsIncomplete timeInMove inputAtoms links start start' ↔
      MoveOrOpener timeInMove inputAtoms links := by
  induction links generalizing start start' with
  | nil =>
      constructor
      · intro _ earlier link later split
        cases earlier <;> cases split
      · intro _
        refine ⟨start, start', rfl, rfl, ?_⟩
        rw [FFGMoveLinkToFollow.toFollow, if_neg unset, FFGMoveLinkToFollow.toFollow, if_neg unset']
  | cons head links ih =>
      rw [moveOrOpener_cons]
      by_cases target : head.move = none
      · constructor
        · intro skips
          rcases skips with ⟨result, result', done, -⟩
          rw [List.map_cons, tryLinks_nullMove _ _ _ _ target] at done
          cases done
        · intro parts
          exact absurd target parts.1
      · have accepts := tryLink_accepted head timeInMove inputAtoms target
        obtain ⟨onOpen, onShut⟩ :=
          tryLinks_cons timeInMove inputAtoms head (links.map some) start target
        obtain ⟨onOpen', onShut'⟩ := tryLinks_cons timeInMove inputAtoms head
          ((links.filter UFGMoveLink.isComplete).map some) start' target
        by_cases opens : Opens head timeInMove inputAtoms
        · -- the loop stops here, with the link kept by the filter
          have complete : head.isComplete = true := by
            rcases opens with ⟨-, machine, found, -⟩
            simp [UFGMoveLink.isComplete, found, Option.isSome_iff_ne_none, target]
          refine ⟨fun _ => ⟨target, .inl opens⟩, fun _ => ⟨_, _, onOpen opens, ?_, rfl⟩⟩
          rw [List.filter_cons_of_pos complete]
          exact onOpen' opens
        · have refused : (tryLink head timeInMove inputAtoms 0 (-1)).completionType ≠ .accepted :=
            fun accepted => opens (accepts.mp accepted)
          simp only [ne_eq, target, not_false_eq_true, opens, true_and, false_or]
          rw [SkipsIncomplete, List.map_cons, onShut opens]
          by_cases complete : head.isComplete = true
          · rw [List.filter_cons_of_pos complete, List.map_cons, onShut' opens]
            exact ih _ _ refused refused
          · rw [List.filter_cons_of_neg complete]
            exact ih _ start' refused unset'

/-- TryLinks skips incomplete links exactly when every link without a Move stands behind a complete
one that opens. -/
theorem incomplete_skipped (timeInMove : Rat) (inputAtoms : List (Option α))
    (links : List (UFGMoveLink graph μ)) :
    SkipsIncomplete timeInMove inputAtoms links {} {} ↔
      MoveOrOpener timeInMove inputAtoms links :=
  skipsIncomplete_iff timeInMove inputAtoms links {} {} (fun impossible => by cases impossible)
    (fun impossible => by cases impossible)

def draftGraph (_ : Unit) : USMState (Option Unit) Unit := { stateClass := .ufgState }

def draftLink : UFGMoveLink draftGraph Unit := { move := none, inputStateMachine := some ⟨(), rfl⟩ }

theorem draft_read :
    tryLinks 0 [] 0 (-1) [some draftLink] {} = .error .nullPointer ∧
      ¬ SkipsIncomplete 0 [] [draftLink] {} {} := by
  have failed : tryLinks 0 [] 0 (-1) [some draftLink] {} = .error .nullPointer :=
    tryLinks_nullMove 0 [] [] {} rfl
  refine ⟨failed, ?_⟩
  intro skips
  rcases skips with ⟨result, result', done, -⟩
  cases failed.symm.trans done

end SmFighting
