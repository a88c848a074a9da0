import SmFighting.FighterRuns
import SmFighting.MachineAutomaton
import SmFighting.Motions
import SmFighting.PlayableFrames
import SmFighting.Library.Shortening
import Mathlib.Data.Fintype.Option
import Mathlib.Data.Fintype.Prod

namespace SmFighting

variable {α σ μ : Type} [DecidableEq α] {assets : Assets α σ μ}

def Showable (frames : List PlayerFrame) : Prop :=
  ∀ button, (frames.map (fun frame => frame.buttons button)).IsChain Succeeds

def Satisfies (graph : σ → USMState (Option α) σ) (machine : σ) (pawn : AFGDefaultPawn α μ)
    (frames : List PlayerFrame) : Prop :=
  (runState graph (frames.flatMap pawn.atomsFor) machine 0 (-1)).completionType = .accepted

def lastDown (button : EFGInputButtons) (frames : List PlayerFrame) : Bool :=
  frames.getLast?.any (fun frame => decide (frame.buttons button ≠ .up))

/-- What the frames so far mean for those to come. -/
def frameKey (graph : σ → USMState (Option α) σ) (machine : σ) (pawn : AFGDefaultPawn α μ)
    (frames : List PlayerFrame) : Bool × Bool × SkippingReader.Control σ 2 :=
  (lastDown .leftFace frames, lastDown .topFace frames,
    (machineAutomaton graph machine).eval (frames.flatMap pawn.atomsFor))

/-- What can follow a state depends on whether the button was down. -/
theorem succeeds_down {previous previous' next : EFGButtonState}
    (same : decide (previous ≠ .up) = decide (previous' ≠ .up)) (succeeds : Succeeds previous next) :
    Succeeds previous' next := by
  have alike := decide_eq_decide.mp same
  constructor
  · intro held
    exact alike.mp (succeeds.1 held)
  · intro pressed
    by_contra down
    exact alike.mpr down (succeeds.2 pressed)

theorem showable_cut {front stretch back : List PlayerFrame} (first : front ≠ [])
    (more : stretch ≠ [])
    (same : ∀ button, lastDown button front = lastDown button (front ++ stretch))
    (showable : Showable (front ++ stretch ++ back)) : Showable (front ++ back) := by
  intro button
  have chain := showable button
  rw [List.map_append, List.isChain_append] at chain ⊢
  obtain ⟨chainFront, chainBack, joined⟩ := chain
  rw [List.map_append, List.isChain_append] at chainFront
  refine ⟨chainFront.1, chainBack, ?_⟩
  intro last isLast next isNext
  rcases List.eq_nil_or_concat' front with rfl | ⟨front, before, rfl⟩
  · exact absurd rfl first
  rcases List.eq_nil_or_concat' stretch with rfl | ⟨stretch, cut, rfl⟩
  · exact absurd rfl more
  have down := same button
  rw [← List.append_assoc, lastDown, lastDown, List.getLast?_concat, List.getLast?_concat] at down
  rw [← List.append_assoc, List.map_append, List.map_singleton, List.getLast?_concat] at joined
  rw [List.map_append, List.map_singleton, List.getLast?_concat] at isLast
  obtain rfl := Option.some.inj isLast
  exact succeeds_down down.symm (joined _ rfl next isNext)

theorem satisfied_shortly [Fintype σ] {graph : σ → USMState (Option α) σ} {machine : σ}
    {pawn : AFGDefaultPawn α μ} {frames : List PlayerFrame} (showable : Showable frames)
    (satisfies : Satisfies graph machine pawn frames) :
    ∃ short, short.Sublist frames ∧ short.length ≤ 16 * Fintype.card σ ∧ Showable short ∧
      Satisfies graph machine pawn short := by
  have keys : Fintype.card (Bool × Bool × SkippingReader.Control σ 2) = 16 * Fintype.card σ := by
    simp only [Fintype.card_prod, Fintype.card_bool, Fintype.card_option, Fintype.card_fin]
    omega
  rw [← keys]
  apply Shortening.exists_short (fun frames => Showable frames ∧ Satisfies graph machine pawn frames)
    (frameKey graph machine pawn) _ ⟨showable, satisfies⟩
  intro front stretch back first more same both
  obtain ⟨left, rest⟩ := Prod.mk.inj same
  obtain ⟨top, control⟩ := Prod.mk.inj rest
  rcases both with ⟨showable, satisfies⟩
  constructor
  · apply showable_cut first more _ showable
    intro button
    cases button
    · exact left
    · exact top
  · rw [Satisfies, ← machine_accepts, DFA.mem_accepts, List.flatMap_append, DFA.eval,
      DFA.evalFrom_of_append] at satisfies ⊢
    change (machineAutomaton graph machine).evalFrom _ (front.flatMap pawn.atomsFor) =
      (machineAutomaton graph machine).evalFrom _ ((front ++ stretch).flatMap pawn.atomsFor) at control
    rwa [control]

theorem step_buffer {fighter next : Fighter α μ} {sample : Sample α}
    {followed : Option (UFGMoveLink assets.state μ)}
    (acts : Fighter.Step assets fighter sample followed next) :
    next.buffer <:+ fighter.buffer ++ [sample.frame] := by
  have held : fighter.held sample <:+ fighter.buffer ++ [sample.frame] := List.drop_suffix _ _
  cases acts with
  | clear => exact List.nil_suffix
  | consume => exact (List.drop_suffix _ _).trans held
  | stay => exact held

theorem followed_shown {first last : Fighter α μ} {samples : List (Sample α)}
    {followed : List (Option (UFGMoveLink assets.state μ))}
    (fought : Fights assets first samples followed last) {link : UFGMoveLink assets.state μ}
    (member : some link ∈ followed) :
    ∃ frames timeInMove, frames <:+: first.buffer ++ samples.map Sample.frame ∧
      Opens link timeInMove (frames.flatMap InputFrame.atoms) := by
  induction fought with
  | stay fighter => cases member
  | @act fighter next last sample link' samples followed acts rest ih =>
      rcases List.mem_cons.mp member with same | member
      · have opens : Opens link fighter.time (fighter.stream sample) := by
          cases acts with
          | clear first' =>
              rcases first' with ⟨-, -, -, -, -, opens⟩
              exact Option.some.inj same ▸ opens
          | consume first' =>
              rcases first' with ⟨-, -, -, -, -, opens⟩
              exact Option.some.inj same ▸ opens
          | stay => cases same
        have held : fighter.held sample <:+ fighter.buffer ++ [sample.frame] := List.drop_suffix _ _
        refine ⟨fighter.held sample, fighter.time, ?_, opens⟩
        rw [List.map_cons, List.append_cons]
        exact held.isInfix.trans (List.prefix_append _ _).isInfix
      · obtain ⟨frames, time, inside, opens⟩ := ih member
        refine ⟨frames, time, inside.trans ?_, opens⟩
        rw [List.map_cons, List.append_cons]
        obtain ⟨gone, whole⟩ := step_buffer acts
        rw [← whole, List.append_assoc]
        exact (List.suffix_append gone _).isInfix

omit [DecidableEq α] in
theorem infix_shown {start : AFGDefaultPawn α μ} {samples : List (Sample α)}
    {frames : List PlayerFrame} (shows : List.Forall₂ (Shows start) samples frames)
    {held : List (InputFrame α)} (inside : held <:+: samples.map Sample.frame) :
    ∃ part, part <:+: frames ∧ held.flatMap InputFrame.atoms = part.flatMap start.atomsFor := by
  rcases inside with ⟨before, after, whole⟩
  have atoms : (samples.map Sample.frame).map InputFrame.atoms = frames.map start.atomsFor := by
    rw [← List.forall₂_eq_eq_eq, List.map_map, List.forall₂_map_left_iff,
      List.forall₂_map_right_iff]
    exact shows.imp (fun _ _ shown => shown.atoms)
  refine ⟨(frames.drop before.length).take held.length,
    (List.take_prefix _ _).isInfix.trans (List.drop_suffix _ _).isInfix, ?_⟩
  have held' : held = ((samples.map Sample.frame).drop before.length).take held.length := by
    rw [← whole, List.append_assoc, List.drop_left, List.take_left]
  calc
    _ = (held.map InputFrame.atoms).flatten := List.flatMap_def
    _ = (((frames.map start.atomsFor).drop before.length).take held.length).flatten := by
      rw [held', List.map_take, List.map_drop, atoms, ← held']
    _ = _ := by rw [← List.map_drop, ← List.map_take, List.flatMap_def]

/-- To know that a link is never followed it is enough to try its machine on all sequences of up to 16
frames a state that can be shown one after the other. If it accepts none of them, no Tick of any run
follows the link. -/
theorem dead_link [Fintype σ] {start pawn : AFGDefaultPawn α μ} (spawned : Spawned start)
    {link : UFGMoveLink assets.state μ} {machine : UFGState assets.state}
    (found : link.inputStateMachine = some machine)
    (dead : ∀ frames, frames.length ≤ 16 * Fintype.card σ → Showable frames →
      ¬ Satisfies assets.state machine.1 start frames)
    {events : List Event} (clamped : ∀ event ∈ events, event.Clamped)
    {records : List (TickRecord assets)} (ran : runPawn assets start events = .ok (pawn, records)) :
    ∀ record ∈ records, record.followed ≠ some link := by
  intro record member followed
  obtain ⟨move, standing⟩ := spawned_stands spawned
  obtain ⟨samples, fighter, taken, fought, -⟩ := run_fights standing clamped ran
  obtain ⟨previous, inHand⟩ := inHand_controls start
  obtain ⟨frames, shows, chains⟩ := samples_shown (guarded_equipped (beginPlay_guards spawned.guards))
    inHand spawned.nonneg clamped taken
  have among : some link ∈ records.map TickRecord.followed :=
    followed ▸ List.mem_map_of_mem member
  obtain ⟨held, time, inside, -, machine', found', accepted⟩ := followed_shown fought among
  obtain rfl := Option.some.inj (found.symm.trans found')
  obtain ⟨part, shown, same⟩ := infix_shown shows inside
  rw [same] at accepted
  have showable : Showable part := fun button =>
    List.IsChain.infix (chains button).tail (shown.map _)
  obtain ⟨short, -, few, showable', satisfies⟩ := satisfied_shortly showable accepted
  exact dead short few showable' satisfies

/-- The jab with a stick direction in the place of a button. -/
def misplacedState : SampleState → USMState (Option SampleAtom) SampleState
  | .leftPressed => {
      stateClass := .ufgState
      instancedTransitions := [some (.usmTransition (some .struck) false [some (.inl .neutral)])] }
  | state => sampleState state

def misplacedLink : UFGMoveLink misplacedState SampleMove :=
  { move := some .jab, inputStateMachine := some ⟨.neutralStick, rfl⟩ }

def misplacedAssets : Assets SampleAtom SampleState SampleMove where
  state := misplacedState
  move
    | .standing => { linkedMoves := [some misplacedLink] }
    | _ => {}

instance : Fintype EFGInputDirections :=
  ⟨{.downBack, .down, .downForward, .back, .neutral, .forward, .upBack, .up, .upForward},
    fun direction => by cases direction <;> decide⟩

instance : Fintype EFGButtonState :=
  ⟨{.up, .justPressed, .heldDown}, fun state => by cases state <;> decide⟩

instance : Fintype SampleState :=
  ⟨{.neutralStick, .leftPressed, .topAny, .stickOnly, .struck},
    fun state => by cases state <;> decide⟩

theorem dead_link_sample :
    ∃ pawn records, runPawn misplacedAssets (samplePawn .standing) sampleEvents =
      .ok (pawn, records) ∧ ∀ record ∈ records, record.followed ≠ some misplacedLink := by
  have atoms : ∀ frame, (samplePawn .standing).atomsFor frame =
      [some (.inl frame.direction), some (.inr (frame.buttons .leftFace)),
        some (.inr (frame.buttons .topFace))] := by
    intro frame
    rw [AFGDefaultPawn.atomsFor]
    cases frame.direction <;> cases frame.buttons .leftFace <;> cases frame.buttons .topFace <;> rfl
  -- between frames the machine waits for the stick, or for the left button with one atom to skip
  let waits : List (SkippingReader.Control SampleState 2) :=
    [(.neutralStick, some 0), (.leftPressed, some 1)]
  have frame : ∀ (direction : EFGInputDirections) (left top : EFGButtonState), ∀ control ∈ waits,
      (machineAutomaton misplacedState .neutralStick).evalFrom control
        [some (.inl direction), some (.inr left), some (.inr top)] ∈ waits := by
    decide +kernel
  have waiting : ∀ frames : List PlayerFrame, (machineAutomaton misplacedState .neutralStick).eval
      (frames.flatMap (samplePawn .standing).atomsFor) ∈ waits := by
    intro frames
    induction frames using List.reverseRecOn with
    | nil => exact List.mem_cons_self
    | append_singleton frames shown ih =>
        rw [List.flatMap_append, List.flatMap_singleton, atoms, DFA.eval, DFA.evalFrom_of_append]
        exact frame _ _ _ _ ih
  have dead : ∀ frames : List PlayerFrame, frames.length ≤ 16 * Fintype.card SampleState →
      Showable frames → ¬ Satisfies misplacedState .neutralStick (samplePawn .standing) frames := by
    intro frames _ _ satisfies
    have accepted := (machine_accepts _ _ _).mpr satisfies
    rcases List.mem_cons.mp (waiting frames) with control | rest
    · rw [DFA.mem_accepts, control] at accepted
      cases accepted
    · rw [DFA.mem_accepts, List.mem_singleton.mp rest] at accepted
      cases accepted
  have ends : (runPawn misplacedAssets (samplePawn .standing) sampleEvents).toOption.isSome = true := by
    decide +kernel
  cases ran : runPawn misplacedAssets (samplePawn .standing) sampleEvents with
  | error fault =>
      rw [ran] at ends
      cases ends
  | ok result =>
      exact ⟨result.1, result.2, rfl, dead_link sample_spawned rfl dead sample_clamped ran⟩

end SmFighting
