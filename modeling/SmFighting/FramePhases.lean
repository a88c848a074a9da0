import SmFighting.Buttons
import SmFighting.FrameBoundary
import SmFighting.FramePlaces
import SmFighting.Motions

namespace SmFighting

variable {α σ μ : Type} [DecidableEq α]

/-- A numbering of the states in `region`, which transitions do not leave: transitions go one place
on, plain states do not loop, and accepting states stand on a frame boundary. -/
structure Phases (graph : σ → USMState α σ) (region : σ → Prop) (phase : σ → Nat) : Prop where
  transitions : ∀ state, region state →
    ∀ entry ∈ (graph state).instancedTransitions ++ (graph state).sharedTransitions,
      ∀ target ∈ entry.bind USMTransitionBase.destinationState,
        region target ∧ phase target % 3 = (phase state + 1) % 3
  loops : ∀ state, region state → (graph state).bLoopByDefault = true →
    (graph state).stateClass = .ufgState
  accepts : ∀ state, region state → (graph state).completionType = .accepted → phase state % 3 = 0

theorem phases_standsAt {graph : σ → USMState α σ} {region : σ → Prop} {phase : σ → Nat}
    (phases : Phases graph region phase) {shows : Nat → α → Prop} {start state : σ} {place : Nat}
    (inside : region start) (boundary : phase start % 3 = 0)
    (stands : StandsAt graph shows start state place) : region state ∧ phase state % 3 = place := by
  induction stands with
  | start => exact ⟨inside, boundary⟩
  | @reads state next place atom skip _ _ goes ih =>
      rcases ih with ⟨within, rfl⟩
      rcases reads_goes goes with ⟨taken, zero⟩ | ⟨rfl, loops, skips⟩
      · obtain ⟨transition, member, leads⟩ := takenTransition_destination taken
        obtain ⟨stays, aligned⟩ := phases.transitions state within _ member next leads
        exact ⟨stays, by omega⟩
      · rw [phases.loops next within loops] at skips
        have two : skip.val = 2 := congrArg Fin.val skips
        exact ⟨within, by omega⟩

theorem phases_keepsFrames {graph : σ → USMState α σ} {region : σ → Prop} {phase : σ → Nat}
    (phases : Phases graph region phase) (shows : Nat → α → Prop) {start : σ}
    (inside : region start) (boundary : phase start % 3 = 0) : KeepsFrames graph shows start := by
  intro state place atom stands off _ accepts
  obtain ⟨within, rfl⟩ := phases_standsAt phases inside boundary stands
  exact absurd (phases.accepts state within accepts) off

/-- The atoms that a pawn can record at each place of a frame. -/
def AFGDefaultPawn.showsAt (pawn : AFGDefaultPawn α μ) : Nat → Option α → Prop
  | 0, atom => ∃ direction, pawn.directionAtom direction = atom
  | _ + 1, atom => ∃ state : EFGButtonState, pawn.buttonAtoms[state.toNat]? = some atom

omit [DecidableEq α] in
theorem showsAt_fill {pawn : AFGDefaultPawn α μ} (guarded : Guarded pawn) (place : Nat) :
    ∃ atom, pawn.showsAt place atom := by
  cases place with
  | zero => exact ⟨_, .neutral, rfl⟩
  | succ place =>
      obtain ⟨atom, found⟩ := guarded.buttons EFGButtonState.up.toNat (by decide)
      exact ⟨some atom, .up, found⟩

/-- For a pawn that BeginPlay has let through, the machines that keep to whole frames are those that
accept no stream of its frames inside one. -/
theorem keepsFrames_recorded {graph : σ → USMState (Option α) σ} {pawn : AFGDefaultPawn α μ}
    (guarded : Guarded pawn) (start : σ) :
    KeepsFrames graph pawn.showsAt start ↔ ∀ stream, FrameStream pawn.showsAt stream →
      (runState graph stream start 0 (-1)).completionType = .accepted →
        (runState graph stream start 0 (-1)).dataIndex % 3 = 0 :=
  keepsFrames_iff graph pawn.showsAt start (showsAt_fill guarded)

omit [DecidableEq α] in
theorem frameAtoms_stream {pawn : AFGDefaultPawn α μ} {atoms : List (Option α)}
    (recorded : pawn.frameAtoms = .ok atoms) : FrameStream pawn.showsAt atoms := by
  have left := frameAtoms_button recorded .leftFace
  have top := frameAtoms_button recorded .topFace
  obtain ⟨directional, _, _, found, -, -, rfl⟩ := AFGDefaultPawn.frameAtoms_ok.mp recorded
  refine ⟨by simp, ?_⟩
  intro i atom located
  match i with
  | 0 => exact ⟨pawn.direction, found.trans (Option.some.inj located)⟩
  | 1 => exact ⟨_, left.symm.trans located⟩
  | 2 => exact ⟨_, top.symm.trans located⟩

variable {assets : Assets α σ μ}

omit [DecidableEq α] in
theorem pruneInput_stream {pawn seen : AFGDefaultPawn α μ} {atoms : List (Option α)}
    {currentTime : Rat} (stream : FrameStream pawn.showsAt pawn.inputStream)
    (recorded : pawn.frameAtoms = .ok atoms)
    (pruned : (pawn.recordFrame atoms currentTime).pruneInput currentTime = .ok seen) :
    FrameStream pawn.showsAt seen.inputStream ∧ seen.currentMove = pawn.currentMove ∧
      seen.timeInCurrentMove = pawn.timeInCurrentMove := by
  obtain ⟨i, -, rfl⟩ := AFGDefaultPawn.pruneInput_drops pruned
  refine ⟨?_, rfl, rfl⟩
  apply frameStream_drop (frameStream_append stream (frameAtoms_stream recorded))
  exact Nat.mul_mod_left i 3

theorem run_stream {start pawn : AFGDefaultPawn α μ} {events : List Event}
    {records : List (TickRecord assets)} (emptyStream : start.inputStream = [])
    (ran : runPawn assets start events = .ok (pawn, records)) :
    FrameStream pawn.showsAt pawn.inputStream := by
  apply EventRun.run_invariant (fun _ (pawn : AFGDefaultPawn α μ) _ =>
    FrameStream pawn.showsAt pawn.inputStream) (fun _ => True) _ (fun _ _ => trivial) _ ran
  · intro done s outputs event t output stream _ reaction
    rcases react_cases reaction with ⟨record, complete, rfl, rfl, -⟩ | ⟨stick, buttons, clock, -, rfl⟩
    · obtain ⟨seen, -, -⟩ := pruneInput_stream stream complete.recorded complete.pruned
      obtain ⟨stamps, left, move, time, after⟩ := after_frame complete
      have shows : record.after.showsAt = record.before.showsAt := by
        rw [after]
        rfl
      rw [shows]
      rcases complete.tried with ⟨current, -, -, ending⟩
      rcases ending with ⟨-, link, target, spent, -, -, spending, -, ends⟩ | ⟨-, -, ends⟩
      · rcases spendInput_cases spending with ⟨-, rfl⟩ | ⟨whole, -, -, rfl⟩
        · rw [ends]
          exact ⟨rfl, by simp [InFrames]⟩
        · rw [ends]
          exact frameStream_drop seen whole
      · rw [ends]
        exact seen
    · exact stream
  · rw [emptyStream]
    exact ⟨rfl, by simp [InFrames]⟩

/-- Every link that the next Tick may follow without clearing the input has a machine that keeps to
whole frames. -/
def FramedMove (assets : Assets α σ μ) (pawn : AFGDefaultPawn α μ) : Prop :=
  ∀ current link machine target, pawn.currentMove = some current →
    some link ∈ (assets.move current).linkedMoves → WindowsOpen link pawn.timeInCurrentMove →
    link.inputStateMachine = some machine → link.move = some target →
    keepsInput link (assets.move target) (assets.move current) →
    KeepsFrames assets.state pawn.showsAt machine.1

theorem framedMove_boundary {pawn : AFGDefaultPawn α μ} {records : List (TickRecord assets)}
    {history buffer : List (InputFrame α)} {gone : Nat}
    (inv : BufferInv pawn records history gone buffer)
    (stream : FrameStream pawn.showsAt pawn.inputStream) (framed : FramedMove assets pawn)
    (currentTime : Rat) : AtTick (FrameBoundary assets) pawn currentTime := by
  intro atoms seen recorded pruned current result link target found tried accepted linked targeted
    keeps
  obtain ⟨held, holds⟩ := bufferInv_seen inv recorded pruned
  obtain ⟨frames, move, time⟩ := pruneInput_stream stream recorded pruned
  obtain ⟨link', machine, first, linked', machineFound, stopped⟩ := tryLinks_result tried accepted
  obtain rfl : link = link' := Option.some.inj (linked.symm.trans linked')
  rcases first with ⟨earlier, later, split, -, -, usable, machine', machineFound', opens⟩
  obtain rfl : machine = machine' := Option.some.inj (machineFound.symm.trans machineFound')
  have member : some link ∈ (assets.move current).linkedMoves := by
    rw [split]
    exact List.mem_append_right _ List.mem_cons_self
  rw [time] at usable
  have keepsFrames := framed current link machine target (move ▸ found) member usable machineFound
    targeted keeps
  have aligned := keepsFrames_index keepsFrames frames opens
  rw [runState_unlimited _ _ _ _ _ (by omega), ← stopped] at aligned
  exact ⟨aligned, (holds_consumes holds tried accepted aligned).1⟩

/-- Assets whose link machines are numbered so, as far as their links keep the input. -/
structure PhasedAssets (assets : Assets α σ μ) (region : σ → Prop) (phase : σ → Nat) : Prop where
  phases : Phases assets.state region phase
  starts : ∀ move link machine target, some link ∈ (assets.move move).linkedMoves →
    link.inputStateMachine = some machine → link.move = some target →
      keepsInput link (assets.move target) (assets.move move) →
        region machine.1 ∧ phase machine.1 % 3 = 0

theorem phasedAssets_framed {region : σ → Prop} {phase : σ → Nat}
    (phased : PhasedAssets assets region phase) (pawn : AFGDefaultPawn α μ) :
    FramedMove assets pawn := by
  intro current link machine target _ member _ found targeted keeps
  obtain ⟨inside, boundary⟩ := phased.starts current link machine target member found targeted keeps
  exact phases_keepsFrames phased.phases pawn.showsAt inside boundary

theorem jab_phased : PhasedAssets jabAssets (fun _ => True) (fun state => state.val) := by
  refine ⟨⟨?_, ?_, ?_⟩, ?_⟩
  · decide
  · decide
  · decide
  · intro move link machine target member found _ _
    obtain rfl := Option.some.inj (List.mem_singleton.mp member)
    obtain rfl := Option.some.inj found
    exact ⟨trivial, rfl⟩

/-- In every state of a run in which the links of the current move keep to whole frames, what the next
Tick asserts is so, and a run whose Ticks all find such a state is never aborted by the check(). -/
theorem frame_boundary_kept {start : AFGDefaultPawn α μ} {events : List Event}
    (emptyStamps : start.inputTimeStamps = []) (emptyStream : start.inputStream = [])
    (nonneg : 0 ≤ start.inputExpirationTime) (clamped : ∀ event ∈ events, event.Clamped) :
    (∀ (pawn : AFGDefaultPawn α μ) records currentTime,
      runPawn assets start events = .ok (pawn, records) → FramedMove assets pawn →
        AtTick (FrameBoundary assets) pawn currentTime) ∧
    ((∀ earlier deltaSeconds currentTime later pawn records,
      events = earlier ++ .tick deltaSeconds currentTime :: later →
        runPawn assets start earlier = .ok (pawn, records) → FramedMove assets pawn) →
      runPawn assets start events ≠ .error .checkFailed) := by
  constructor
  · intro pawn records currentTime ran framed
    obtain ⟨history, gone, buffer, inv⟩ := run_bufferInv emptyStamps emptyStream nonneg clamped ran
    exact framedMove_boundary inv (run_stream emptyStream ran) framed currentTime
  · intro framed failed
    obtain ⟨earlier, event, later, pawn, records, rfl, reached, failing⟩ :=
      EventRun.run_error.mp failed
    obtain ⟨deltaSeconds, currentTime, rfl, ticked⟩ := react_error.mp failing
    obtain ⟨history, gone, buffer, inv⟩ := run_bufferInv emptyStamps emptyStream nonneg
      (fun event member => clamped event (List.mem_append_left _ member)) reached
    apply (tick_checkFailed inv deltaSeconds currentTime).mp ticked
    apply framedMove_boundary inv (run_stream emptyStream reached)
    exact framed earlier deltaSeconds currentTime later pawn records rfl reached

theorem frame_boundary_kept_sample :
    ∃ pawn records, runPawn jabAssets (samplePawn .standing) sampleEvents = .ok (pawn, records) ∧
      AtTick (FrameBoundary jabAssets) pawn 1 ∧
      runPawn jabAssets (samplePawn .standing) sampleEvents ≠ .error .checkFailed := by
  have runs : ∃ result, runPawn jabAssets (samplePawn .standing) sampleEvents = .ok result :=
    faultOf_none.mp (by decide +kernel)
  rcases runs with ⟨⟨pawn, records⟩, ran⟩
  obtain ⟨states, unaborted⟩ := @frame_boundary_kept _ _ _ _ jabAssets (samplePawn .standing)
    sampleEvents rfl rfl (by decide +kernel) sample_clamped
  exact ⟨pawn, records, ran, states pawn records 1 ran (phasedAssets_framed jab_phased pawn),
    unaborted fun _ _ _ _ pawn _ _ _ => phasedAssets_framed jab_phased pawn⟩

theorem phased_runs {region : σ → Prop} {phase : σ → Nat}
    (phased : PhasedAssets assets region phase) (linked : Linked assets)
    {start : AFGDefaultPawn α μ} (spawned : Spawned start) (events : List Event)
    (clamped : ∀ event ∈ events, event.Clamped) :
    ∃ pawn records, runPawn assets start events = .ok (pawn, records) ∧ Guarded pawn := by
  cases ran : runPawn assets start events with
  | ok result =>
      exact ⟨result.1, result.2, rfl, (run_moveInv linked spawned.guards spawned.still ran).guarded⟩
  | error fault =>
      exfalso
      obtain ⟨earlier, event, later, pawn, records, rfl, reached, failing⟩ :=
        EventRun.run_error.mp ran
      obtain ⟨deltaSeconds, currentTime, rfl, failed⟩ := react_error.mp failing
      obtain ⟨history, gone, buffer, inv⟩ := run_bufferInv spawned.emptyStamps spawned.emptyStream
        spawned.nonneg (fun event member => clamped event (List.mem_append_left _ member)) reached
      have guarded := (run_moveInv linked spawned.guards spawned.still reached).guarded
      obtain rfl := tick_onlyChecks linked guarded inv failed
      apply (tick_checkFailed inv deltaSeconds currentTime).mp failed
      exact framedMove_boundary inv (run_stream spawned.emptyStream reached)
        (phasedAssets_framed phased pawn) currentTime

end SmFighting
