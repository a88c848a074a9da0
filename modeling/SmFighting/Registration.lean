import SmFighting.CameraPlayers
import Mathlib.Data.List.Nodup

namespace SmFighting

variable {π α σ μ : Type} [DecidableEq π] [DecidableEq α] {assets : Assets α σ μ} {engine : Engine}

structure Unplayed (start : UWorld π α μ) : Prop where
  cameras : start.cameras = []
  timers : start.timers = []
  status : ∀ pawn, start.status pawn = .spawned
  main : ∀ gameMode, start.gameMode = some gameMode → gameMode.mainGameCamera = none

/-- Behind `earlier` comes a frame that finds the pawn begun, with a player's controller, and the
camera there. -/
def Meets (assets : Assets α σ μ) (engine : Engine) (start : UWorld π α μ) (pawn : π)
    (earlier : List (GameEvent π)) (event : GameEvent π) : Prop :=
  (∃ order, event = .fireTimers order) ∧ ∃ world outputs,
    runGame assets engine start earlier = .ok (world, outputs) ∧
      world.status pawn = .begunPlay ∧ world.cameraFor pawn ≠ none

def CameraAt (assets : Assets α σ μ) (engine : Engine) (start : UWorld π α μ) (pawn : π)
    (earlier : List (GameEvent π)) (camera : Nat) : Prop :=
  ∃ world outputs, runGame assets engine start earlier = .ok (world, outputs) ∧
    world.cameraFor pawn = some camera

/-- Who waits and who is registered after a run, in terms of its frames. -/
structure Registry (assets : Assets α σ μ) (engine : Engine) (start : UWorld π α μ)
    (events : List (GameEvent π)) (world : UWorld π α μ) (outputs : List (GameOutput π assets)) :
    Prop where
  there : world.CameraThere
  begun : ∀ pawn, History.Happened (Meets assets engine start pawn) events →
    world.status pawn = .begunPlay
  waiting : ∀ pawn, pawn ∈ world.timers ↔ world.status pawn = .begunPlay ∧
    ¬ History.Happened (Meets assets engine start pawn) events
  players : ∀ pawn camera, pawn ∈ world.playersOf camera ↔ ∃ earlier,
    History.First (Meets assets engine start pawn) events earlier ∧
      CameraAt assets engine start pawn earlier camera
  once : world.timers.Nodup ∧ ∀ camera, (world.playersOf camera).Nodup
  shown : ∀ camera, outputs.countP (GameOutput.isView camera) = (world.playersOf camera).length

theorem gameStep_cameraThere {world next : UWorld π α μ} {event : GameEvent π}
    {output : List (GameOutput π assets)} (there : world.CameraThere)
    (done : gameStep assets engine world event = .ok (next, output)) : next.CameraThere := by
  cases gameStep_cases done with
  | startPlay spawned another =>
      rcases startPlay_cases engine world spawned another with same | ⟨gameMode, _, _, same⟩
      · rw [same]
        exact there
      · rw [same]
        intro found camera mode main
        obtain rfl := Option.some.inj mode
        cases spawned with
        | false => cases main
        | true =>
            obtain rfl := Option.some.inj main
            simp
  | fireTimers turns =>
      rename_i order
      obtain ⟨fired, -⟩ := @fireTimers_fired _ _ _ _ assets order { world with timers := [] }
      intro gameMode camera mode main
      rw [fired.frame] at mode
      rw [fired_length fired]
      exact there gameMode camera mode main
  | cameraTick camera =>
      intro gameMode main mode found
      rw [List.length_modify]
      exact there gameMode main mode found
  | _ => exact there

omit [DecidableEq π] [DecidableEq α] in
theorem playersOf_unplayed {start : UWorld π α μ} (unplayed : Unplayed start) (camera : Nat) :
    start.playersOf camera = [] := by
  rw [UWorld.playersOf, unplayed.cameras]
  rfl

theorem registry_start {start : UWorld π α μ} (unplayed : Unplayed start) :
    Registry assets engine start [] start [] where
  there := by
    intro gameMode camera mode main
    rw [unplayed.main gameMode mode] at main
    cases main
  begun := fun pawn happened => absurd happened History.not_happened_nil
  waiting := by
    intro pawn
    rw [unplayed.timers, unplayed.status]
    simp
  players := by
    intro pawn camera
    rw [playersOf_unplayed unplayed]
    constructor
    · intro impossible
      cases impossible
    · intro first
      rcases first with ⟨earlier, first, -⟩
      exact absurd (History.first_happened first) History.not_happened_nil
  once := by
    rw [unplayed.timers]
    exact ⟨List.nodup_nil, fun camera => by rw [playersOf_unplayed unplayed]; exact List.nodup_nil⟩
  shown := fun camera => by rw [playersOf_unplayed unplayed]; rfl

theorem meets_reached {start world : UWorld π α μ} {done : List (GameEvent π)}
    {outputs : List (GameOutput π assets)}
    (ran : runGame assets engine start done = .ok (world, outputs)) (pawn : π) (event : GameEvent π) :
    Meets assets engine start pawn done event ↔ (∃ order, event = .fireTimers order) ∧
      world.status pawn = .begunPlay ∧ world.cameraFor pawn ≠ none := by
  constructor
  · intro meets
    rcases meets with ⟨frame, other, _, ran', begun, found⟩
    obtain ⟨rfl, -⟩ := Prod.mk.inj (Except.ok.inj (ran.symm.trans ran'))
    exact ⟨frame, begun, found⟩
  · intro parts
    rcases parts with ⟨frame, begun, found⟩
    exact ⟨frame, world, outputs, ran, begun, found⟩

theorem cameraAt_reached {start world : UWorld π α μ} {done : List (GameEvent π)}
    {outputs : List (GameOutput π assets)}
    (ran : runGame assets engine start done = .ok (world, outputs)) (pawn : π) (camera : Nat) :
    CameraAt assets engine start pawn done camera ↔ world.cameraFor pawn = some camera := by
  constructor
  · intro found
    rcases found with ⟨other, _, ran', found⟩
    obtain ⟨rfl, -⟩ := Prod.mk.inj (Except.ok.inj (ran.symm.trans ran'))
    exact found
  · intro found
    exact ⟨world, outputs, ran, found⟩

theorem registry_quiet {start world next : UWorld π α μ} {done : List (GameEvent π)}
    {outputs output : List (GameOutput π assets)} {event : GameEvent π}
    (inv : Registry assets engine start done world outputs) (there : next.CameraThere)
    (quiet : ∀ order, event ≠ .fireTimers order)
    (players : ∀ camera, next.playersOf camera = world.playersOf camera)
    (still : ∀ camera, output.countP (GameOutput.isView camera) = 0)
    (begun : ∀ pawn, world.status pawn = .begunPlay → next.status pawn = .begunPlay)
    (distinct : next.timers.Nodup)
    (waiting : ∀ pawn, pawn ∈ next.timers ↔ next.status pawn = .begunPlay ∧
      ¬ History.Happened (Meets assets engine start pawn) done) :
    Registry assets engine start (done ++ [event]) next (outputs ++ output) := by
  have never : ∀ pawn, ¬ Meets assets engine start pawn done event := by
    intro pawn meets
    rcases meets.1 with ⟨order, frame⟩
    exact quiet order frame
  have happened : ∀ pawn, History.Happened (Meets assets engine start pawn) (done ++ [event]) ↔
      History.Happened (Meets assets engine start pawn) done := by
    intro pawn
    rw [History.happened_concat, or_iff_left (never pawn)]
  constructor
  · exact there
  · intro pawn before
    exact begun pawn (inv.begun pawn ((happened pawn).mp before))
  · intro pawn
    rw [waiting, happened]
  · intro pawn camera
    rw [players, inv.players]
    apply exists_congr
    intro earlier
    rw [History.first_concat, or_iff_left (fun now => never pawn now.2.1)]
  · exact ⟨distinct, fun camera => by rw [players]; exact inv.once.2 camera⟩
  · intro camera
    rw [List.countP_append, still, Nat.add_zero, players]
    exact inv.shown camera

theorem registry_frame {start world next : UWorld π α μ} {done : List (GameEvent π)}
    {outputs output : List (GameOutput π assets)} {order : List π}
    (ran : runGame assets engine start done = .ok (world, outputs))
    (inv : Registry assets engine start done world outputs) (there : next.CameraThere)
    (turns : order.Perm world.timers) (status : next.status = world.status)
    (timers : next.timers = order.filter (fun pawn => (world.cameraFor pawn).isNone))
    (players : ∀ camera, next.playersOf camera = world.playersOf camera ++
      order.filter (fun pawn => decide (world.cameraFor pawn = some camera)))
    (shown : ∀ camera, output.countP (GameOutput.isView camera) =
      (order.filter (fun pawn => decide (world.cameraFor pawn = some camera))).length) :
    Registry assets engine start (done ++ [.fireTimers order]) next (outputs ++ output) := by
  have meets : ∀ pawn, Meets assets engine start pawn done (.fireTimers order) ↔
      world.status pawn = .begunPlay ∧ world.cameraFor pawn ≠ none := by
    intro pawn
    rw [meets_reached ran]
    exact and_iff_right ⟨order, rfl⟩
  have joins : ∀ pawn camera, pawn ∈ order.filter (fun pawn =>
      decide (world.cameraFor pawn = some camera)) ↔ world.status pawn = .begunPlay ∧
        ¬ History.Happened (Meets assets engine start pawn) done ∧
          world.cameraFor pawn = some camera := by
    intro pawn camera
    rw [List.mem_filter, turns.mem_iff, inv.waiting, decide_eq_true_eq, and_assoc]
  constructor
  · exact there
  · intro pawn happened
    rw [status]
    rcases History.happened_concat.mp happened with before | now
    · exact inv.begun pawn before
    · exact ((meets pawn).mp now).1
  · intro pawn
    rw [timers, List.mem_filter, turns.mem_iff, inv.waiting, status, History.happened_concat, meets,
      Option.isNone_iff_eq_none]
    tauto
  · intro pawn camera
    rw [players, List.mem_append, joins, inv.players]
    constructor
    · intro registered
      rcases registered with ⟨earlier, first, found⟩ | ⟨begun, never, found⟩
      · exact ⟨earlier, History.first_concat.mpr (.inl first), found⟩
      · have now := (meets pawn).mpr ⟨begun, by rw [found]; exact Option.some_ne_none camera⟩
        exact ⟨done, History.first_concat.mpr (.inr ⟨rfl, now, never⟩),
          (cameraAt_reached ran pawn camera).mpr found⟩
    · intro registered
      rcases registered with ⟨earlier, first, found⟩
      rcases History.first_concat.mp first with first | ⟨rfl, now, never⟩
      · exact .inl ⟨earlier, first, found⟩
      · exact .inr ⟨((meets pawn).mp now).1, never, (cameraAt_reached ran pawn camera).mp found⟩
  · have distinct : order.Nodup := turns.nodup_iff.mpr inv.once.1
    refine ⟨by rw [timers]; exact distinct.filter _, fun camera => ?_⟩
    rw [players]
    apply List.Nodup.append (inv.once.2 camera) (distinct.filter _)
    intro pawn old new
    obtain ⟨earlier, first, -⟩ := (inv.players pawn camera).mp old
    exact ((joins pawn camera).mp new).2.1 (History.first_happened first)
  · intro camera
    rw [List.countP_append, inv.shown, shown, players, List.length_append]

theorem registry_step {start world next : UWorld π α μ} {done : List (GameEvent π)}
    {outputs output : List (GameOutput π assets)} {event : GameEvent π}
    (ran : runGame assets engine start done = .ok (world, outputs))
    (inv : Registry assets engine start done world outputs)
    (reaction : gameStep assets engine world event = .ok (next, output)) :
    Registry assets engine start (done ++ [event]) next (outputs ++ output) := by
  have there := gameStep_cameraThere inv.there reaction
  cases gameStep_registers inv.there reaction with
  | @begins pawn spawned status timers players still =>
      have new : ¬ History.Happened (Meets assets engine start pawn) done := by
        intro happened
        rw [inv.begun pawn happened] at spawned
        cases spawned
      apply registry_quiet inv there (by simp) players still
      · intro other begun
        rw [status, Function.update_apply]
        split
        · rfl
        · exact begun
      · rw [timers]
        apply List.Nodup.append inv.once.1 (List.nodup_singleton pawn)
        intro other old same
        rw [List.mem_singleton.mp same, inv.waiting, spawned] at old
        cases old.1
      · intro other
        rw [timers, List.mem_append, List.mem_singleton, inv.waiting, status, Function.update_apply]
        by_cases same : other = pawn
        · subst same
          simp [new]
        · simp [same]
  | @destroys pawn spawned status timers players still =>
      apply registry_quiet inv there (by simp) players still
      · intro other begun
        rw [status, Function.update_apply]
        split
        · rename_i same
          rw [same, spawned] at begun
          cases begun
        · exact begun
      · rw [timers]
        exact inv.once.1
      · intro other
        rw [timers, inv.waiting, status, Function.update_apply]
        by_cases same : other = pawn
        · subst same
          simp [spawned]
        · simp [same]
  | fires turns status timers players shown =>
      exact registry_frame ran inv there turns status timers players shown
  | other quiet status timers players still =>
      apply registry_quiet inv there quiet players still
      · intro pawn begun
        rw [status]
        exact begun
      · rw [timers]
        exact inv.once.1
      · intro pawn
        rw [timers, status]
        exact inv.waiting pawn

theorem run_registry {start world : UWorld π α μ} {events : List (GameEvent π)}
    {outputs : List (GameOutput π assets)} (unplayed : Unplayed start)
    (ran : runGame assets engine start events = .ok (world, outputs)) :
    Registry assets engine start events world outputs :=
  EventRun.run_history (fun events world outputs => Registry assets engine start events world outputs)
    (fun _ _ _ _ _ _ ran inv reaction => registry_step ran inv reaction) (registry_start unplayed) ran

/-- A waiting pawn is registered in the first frame that finds it begun, with a player's controller, and
the camera there, with the camera of that frame; until then it waits, and it is never given up. -/
theorem registered_first_frame {start world : UWorld π α μ} {events : List (GameEvent π)}
    {outputs : List (GameOutput π assets)} (unplayed : Unplayed start)
    (ran : runGame assets engine start events = .ok (world, outputs)) (pawn : π) :
    (pawn ∈ world.timers ↔ world.status pawn = .begunPlay ∧
      ¬ History.Happened (Meets assets engine start pawn) events) ∧
    ∀ camera, pawn ∈ world.playersOf camera ↔ ∃ earlier,
      History.First (Meets assets engine start pawn) events earlier ∧
        CameraAt assets engine start pawn earlier camera := by
  have registry := run_registry unplayed ran
  exact ⟨registry.waiting pawn, registry.players pawn⟩

omit [DecidableEq π] [DecidableEq α] in
theorem sampleWorld_unplayed : Unplayed (sampleWorld : UWorld π SampleAtom SampleMove) where
  cameras := rfl
  timers := rfl
  status := fun _ => rfl
  main := by
    intro gameMode mode
    obtain rfl := Option.some.inj mode
    rfl

theorem registered_first_frame_sample :
    ∃ world outputs, runGame sampleAssets sampleEngine sampleWorld sampleGame = .ok (world, outputs) ∧
      ∃ earlier, History.First (Meets sampleAssets sampleEngine sampleWorld true) sampleGame earlier ∧
        CameraAt sampleAssets sampleEngine sampleWorld true earlier 0 := by
  obtain ⟨world, outputs, ran, -, -, players⟩ := sampleGame_runs
  obtain ⟨-, registered⟩ := registered_first_frame sampleWorld_unplayed ran true
  have member : true ∈ world.playersOf 0 := by
    have first := congrArg (fun players => players[0]?) players
    simp only [List.getElem?_map] at first
    rw [UWorld.playersOf, first]
    decide
  exact ⟨world, outputs, ran, (registered 0).mp member⟩

theorem first_camera {start : UWorld π α μ} {pawn : π} {events earlier : List (GameEvent π)}
    (first : History.First (Meets assets engine start pawn) events earlier) :
    ∃ camera, CameraAt assets engine start pawn earlier camera := by
  rcases first with ⟨⟨event, later, -, -, world, outputs, ran, -, found⟩, -⟩
  obtain ⟨camera, main⟩ := Option.ne_none_iff_exists'.mp found
  exact ⟨camera, world, outputs, ran, main⟩

theorem cameraAt_unique {start : UWorld π α μ} {pawn : π} {earlier : List (GameEvent π)}
    {one two : Nat} (first : CameraAt assets engine start pawn earlier one)
    (second : CameraAt assets engine start pawn earlier two) : one = two := by
  rcases first with ⟨world, outputs, ran, found⟩
  exact Option.some.inj (found.symm.trans ((cameraAt_reached ran pawn two).mp second))

theorem registry_player {start world : UWorld π α μ} {events : List (GameEvent π)}
    {outputs : List (GameOutput π assets)}
    (registry : Registry assets engine start events world outputs) {pawn : π} {camera : Nat}
    (member : pawn ∈ world.playersOf camera) :
    History.Happened (Meets assets engine start pawn) events := by
  obtain ⟨earlier, first, -⟩ := (registry.players pawn camera).mp member
  exact History.first_happened first

theorem registry_place {start world : UWorld π α μ} {events : List (GameEvent π)}
    {outputs : List (GameOutput π assets)}
    (registry : Registry assets engine start events world outputs) {pawn : π}
    (begun : world.status pawn = .begunPlay) :
    (pawn ∈ world.timers ∧ ∀ camera, pawn ∉ world.playersOf camera) ∨
      (pawn ∉ world.timers ∧ ∃! camera, pawn ∈ world.playersOf camera) := by
  by_cases happened : History.Happened (Meets assets engine start pawn) events
  · right
    obtain ⟨earlier, first⟩ := History.happened_first happened
    obtain ⟨camera, found⟩ := first_camera first
    refine ⟨fun waits => ((registry.waiting pawn).mp waits).2 happened, camera, ?_, ?_⟩
    · exact (registry.players pawn camera).mpr ⟨earlier, first, found⟩
    · intro other member
      obtain ⟨earlier', first', found'⟩ := (registry.players pawn other).mp member
      obtain rfl := History.first_unique first first'
      exact cameraAt_unique found' found
  · left
    exact ⟨(registry.waiting pawn).mpr ⟨begun, happened⟩,
      fun camera member => happened (registry_player registry member)⟩

theorem registered_once {start world : UWorld π α μ} {events : List (GameEvent π)}
    {outputs : List (GameOutput π assets)} (unplayed : Unplayed start)
    (ran : runGame assets engine start events = .ok (world, outputs)) :
    world.timers.Nodup ∧
    (∀ camera, (world.playersOf camera).Nodup ∧
      outputs.countP (GameOutput.isView camera) = (world.playersOf camera).length) ∧
    (∀ pawn, world.status pawn = .begunPlay ↔
      (pawn ∈ world.timers ∧ ∀ camera, pawn ∉ world.playersOf camera) ∨
        (pawn ∉ world.timers ∧ ∃! camera, pawn ∈ world.playersOf camera)) ∧
    ∀ pawn, world.status pawn ≠ .begunPlay →
      pawn ∉ world.timers ∧ ∀ camera, pawn ∉ world.playersOf camera := by
  have registry := run_registry unplayed ran
  have waits : ∀ pawn, pawn ∈ world.timers → world.status pawn = .begunPlay :=
    fun pawn waits => ((registry.waiting pawn).mp waits).1
  have plays : ∀ pawn camera, pawn ∈ world.playersOf camera → world.status pawn = .begunPlay :=
    fun pawn camera member => registry.begun pawn (registry_player registry member)
  refine ⟨registry.once.1, fun camera => ⟨registry.once.2 camera, registry.shown camera⟩, ?_, ?_⟩
  · intro pawn
    constructor
    · exact registry_place registry
    · intro place
      rcases place with ⟨member, -⟩ | ⟨-, camera, member, -⟩
      · exact waits pawn member
      · exact plays pawn camera member
  · intro pawn other
    exact ⟨fun member => other (waits pawn member), fun camera member => other (plays pawn camera member)⟩

theorem registered_once_sample :
    ∃ world outputs, runGame sampleAssets sampleEngine sampleWorld sampleGame = .ok (world, outputs) ∧
      ∃! camera, true ∈ world.playersOf camera := by
  obtain ⟨world, outputs, ran, timers, status, -⟩ := sampleGame_runs
  obtain ⟨-, -, place, -⟩ := registered_once sampleWorld_unplayed ran
  rcases (place true).mp status with ⟨waits, -⟩ | ⟨-, camera⟩
  · rw [timers] at waits
    cases waits
  · exact ⟨world, outputs, ran, camera⟩

end SmFighting
