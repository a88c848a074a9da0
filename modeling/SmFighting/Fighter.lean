import SmFighting.MoveSequence
import SmFighting.FrameBoundary
import SmFighting.Library.RelationalRun

/-! What a pawn is for, without its arrays and pointers. A fighter is in a move, for some time, with a
stock of frames; the player's side turns events into samples, one a Tick. -/

namespace SmFighting

variable {α σ μ : Type} [DecidableEq α]

/-- What a Tick takes in: a frame, stamped with the game time, and the two numbers it works with. -/
structure Sample (α : Type) where
  frame : InputFrame α
  deltaSeconds : Rat
  expiration : Rat

structure Fighter (α μ : Type) where
  move : μ
  time : Rat
  buffer : List (InputFrame α)

def Fighter.held (fighter : Fighter α μ) (sample : Sample α) : List (InputFrame α) :=
  prune sample.expiration sample.frame.stamp (fighter.buffer ++ [sample.frame])

def Fighter.stream (fighter : Fighter α μ) (sample : Sample α) : List (Option α) :=
  (fighter.held sample).flatMap InputFrame.atoms

variable (assets : Assets α σ μ)

/-- A fighter follows the link that opens first and gives up all its frames or the whole frames that
the link's machine has read, or it stays in its move. It cannot follow a link whose machine stops
within a frame that would have to be kept. -/
inductive Fighter.Step : Fighter α μ → Sample α → Option (UFGMoveLink assets.state μ) →
    Fighter α μ → Prop
  | clear {fighter : Fighter α μ} {sample : Sample α} {link : UFGMoveLink assets.state μ}
      {target : μ}
      (first : FirstOpening (assets.move fighter.move).linkedMoves fighter.time
        (fighter.stream sample) link)
      (targeted : link.move = some target)
      (clears : ¬ keepsInput link (assets.move target) (assets.move fighter.move)) :
      Fighter.Step fighter sample (some link) ⟨target, 0, []⟩
  | consume {fighter : Fighter α μ} {sample : Sample α} {link : UFGMoveLink assets.state μ}
      {target : μ} {machine : UFGState assets.state} {used : Nat}
      (first : FirstOpening (assets.move fighter.move).linkedMoves fighter.time
        (fighter.stream sample) link)
      (targeted : link.move = some target)
      (keeps : keepsInput link (assets.move target) (assets.move fighter.move))
      (found : link.inputStateMachine = some machine)
      (whole : (finish assets.state (fighter.stream sample) machine.1 0).2 = 3 * used) :
      Fighter.Step fighter sample (some link) ⟨target, 0, (fighter.held sample).drop used⟩
  | stay {fighter : Fighter α μ} {sample : Sample α}
      (shut : ∀ link, ¬ FirstOpening (assets.move fighter.move).linkedMoves fighter.time
        (fighter.stream sample) link) :
      Fighter.Step fighter sample none
        ⟨fighter.move, fighter.time + sample.deltaSeconds, fighter.held sample⟩

variable {assets}

theorem firstOpening_unique {graph : σ → USMState (Option α) σ} {timeInMove : Rat}
    {inputAtoms : List (Option α)} {linkedMoves : List (Option (UFGMoveLink graph μ))}
    {link link' : UFGMoveLink graph μ} (first : FirstOpening linkedMoves timeInMove inputAtoms link)
    (first' : FirstOpening linkedMoves timeInMove inputAtoms link') : link = link' := by
  have done : ∀ other, FirstOpening linkedMoves timeInMove inputAtoms other →
      tryLinks timeInMove inputAtoms 0 (-1) linkedMoves {} =
        .ok ⟨some other, tryLink other timeInMove inputAtoms 0 (-1)⟩ := by
    intro other opening
    exact ((tryLinks_accepted timeInMove inputAtoms linkedMoves {} _
      (fun impossible => by cases impossible)).mpr ⟨other, opening, rfl⟩).1
  have same := Except.ok.inj ((done link first).symm.trans (done link' first'))
  exact Option.some.inj (congrArg FFGMoveLinkToFollow.link same)

theorem fighter_determined (fighter : Fighter α μ) (sample : Sample α)
    (followed followed' : Option (UFGMoveLink assets.state μ)) (next next' : Fighter α μ)
    (one : Fighter.Step assets fighter sample followed next)
    (other : Fighter.Step assets fighter sample followed' next') :
    followed = followed' ∧ next = next' := by
  cases one with
  | clear first targeted clears =>
      cases other with
      | clear first' targeted' _ =>
          obtain rfl := firstOpening_unique first first'
          obtain rfl := Option.some.inj (targeted.symm.trans targeted')
          exact ⟨rfl, rfl⟩
      | consume first' targeted' keeps _ _ =>
          obtain rfl := firstOpening_unique first first'
          obtain rfl := Option.some.inj (targeted.symm.trans targeted')
          exact absurd keeps clears
      | stay shut => exact absurd first (shut _)
  | consume first targeted keeps found whole =>
      cases other with
      | clear first' targeted' clears =>
          obtain rfl := firstOpening_unique first first'
          obtain rfl := Option.some.inj (targeted.symm.trans targeted')
          exact absurd keeps clears
      | consume first' targeted' _ found' whole' =>
          obtain rfl := firstOpening_unique first first'
          obtain rfl := Option.some.inj (targeted.symm.trans targeted')
          obtain rfl := Option.some.inj (found.symm.trans found')
          have used := whole.symm.trans whole'
          rw [Nat.eq_of_mul_eq_mul_left (Nat.succ_pos 2) used]
          exact ⟨rfl, rfl⟩
      | stay shut => exact absurd first (shut _)
  | stay shut =>
      cases other with
      | clear first' => exact absurd first' (shut _)
      | consume first' => exact absurd first' (shut _)
      | stay _ => exact ⟨rfl, rfl⟩

namespace AFGDefaultPawn

/-- The part of a pawn that the player works with. -/
def controls (pawn : AFGDefaultPawn α μ) : AFGDefaultPawn α μ :=
  { pawn with
    currentMove := none, timeInCurrentMove := 0, inputTimeStamps := [], inputStream := [] }

/-- What an event does to the controls. A Tick caches the buttons. -/
def operate (pawn : AFGDefaultPawn α μ) : Event → AFGDefaultPawn α μ
  | .readXAxis value => pawn.readXAxis value
  | .readYAxis value => pawn.readYAxis value
  | .leftButtonPressed => pawn.leftButtonPressed
  | .leftButtonReleased => pawn.leftButtonReleased
  | .topButtonPressed => pawn.topButtonPressed
  | .topButtonReleased => pawn.topButtonReleased
  | .editInputExpirationTime value => { pawn with inputExpirationTime := value }
  | .tick _ _ => { pawn with buttonsDownOld := pawn.buttonsDown }

omit [DecidableEq α] in
theorem frameAtoms_whole {pawn : AFGDefaultPawn α μ} {atoms : List (Option α)}
    (recorded : pawn.frameAtoms = .ok atoms) : atoms.length = 1 + EFGInputButtons.count := by
  obtain ⟨directional, left, top, -, -, -, three⟩ := frameAtoms_ok.mp recorded
  rw [three]
  rfl

def sample (pawn : AFGDefaultPawn α μ) (deltaSeconds currentTime : Rat) : Except Fault (Sample α) :=
  match recorded : pawn.frameAtoms with
  | .error fault => .error fault
  | .ok atoms =>
      .ok ⟨⟨currentTime, atoms, frameAtoms_whole recorded⟩, deltaSeconds, pawn.inputExpirationTime⟩

end AFGDefaultPawn

def takeSample (controls : AFGDefaultPawn α μ) (event : Event) :
    Except Fault (AFGDefaultPawn α μ × List (Sample α)) :=
  match event with
  | .tick deltaSeconds currentTime =>
      match controls.sample deltaSeconds currentTime with
      | .error fault => .error fault
      | .ok sample => .ok (controls.operate event, [sample])
  | _ => .ok (controls.operate event, [])

def takeSamples (controls : AFGDefaultPawn α μ) (events : List Event) :
    Except Fault (AFGDefaultPawn α μ × List (Sample α)) :=
  EventRun.run takeSample controls events

section
omit [DecidableEq α]

theorem sample_ok {pawn : AFGDefaultPawn α μ} {deltaSeconds currentTime : Rat} {sample : Sample α} :
    pawn.sample deltaSeconds currentTime = .ok sample ↔
      pawn.frameAtoms = .ok sample.frame.atoms ∧ sample.frame.stamp = currentTime ∧
        sample.deltaSeconds = deltaSeconds ∧ sample.expiration = pawn.inputExpirationTime := by
  rcases sample with ⟨⟨stamp, atoms, whole⟩, delta, expiration⟩
  rw [AFGDefaultPawn.sample]
  split
  · rename_i fault failed
    simp [failed]
  · rename_i atoms' recorded
    simp only [recorded, Except.ok.injEq, Sample.mk.injEq, InputFrame.mk.injEq]
    constructor
    · intro same
      rcases same with ⟨⟨rfl, rfl⟩, rfl, rfl⟩
      exact ⟨rfl, rfl, rfl, rfl⟩
    · intro same
      rcases same with ⟨rfl, rfl, rfl, rfl⟩
      exact ⟨⟨rfl, rfl⟩, rfl, rfl⟩

theorem controls_sample (pawn : AFGDefaultPawn α μ) (deltaSeconds currentTime : Rat) :
    pawn.controls.sample deltaSeconds currentTime = pawn.sample deltaSeconds currentTime := rfl

theorem takeSample_tick {controls next : AFGDefaultPawn α μ} {deltaSeconds currentTime : Rat}
    {samples : List (Sample α)}
    (taken : takeSample controls (.tick deltaSeconds currentTime) = .ok (next, samples)) :
    ∃ sample, controls.sample deltaSeconds currentTime = .ok sample ∧
      next = controls.operate (.tick deltaSeconds currentTime) ∧ samples = [sample] := by
  rw [takeSample] at taken
  split at taken
  · cases taken
  · rename_i sample sampled
    obtain ⟨rfl, rfl⟩ := Prod.mk.inj (Except.ok.inj taken)
    exact ⟨sample, sampled, rfl, rfl⟩

end

end SmFighting
