import SmFighting.Registration

namespace SmFighting

variable {π α σ μ : Type} [DecidableEq π] [DecidableEq α] {assets : Assets α σ μ} {engine : Engine}

def framing (engine : Engine) (verticalOffset : Rat) (p1L p2L : FVector) : FVector × FRotator :=
  (⟨(p1L.x + p2L.x) * (1 / 2), (p1L.y + p2L.y) * (1 / 2),
      (p1L.z + p2L.z) * (1 / 2) + verticalOffset⟩,
    ⟨engine.radiansToDegrees (engine.atan2 (-verticalOffset * (1 / 2)) engine.targetArmLength),
      engine.radiansToDegrees (engine.atan2 (p1L.y - p2L.y) (p1L.x - p2L.x)) + 90, 0⟩)

def AFGCameraActor.pose (camera : AFGCameraActor π) : FVector × FRotator :=
  (camera.location, camera.rotation)

section
omit [DecidableEq π]

theorem cameraTick_frames {locations : π → FVector} {camera : AFGCameraActor π} {one two : π}
    (players : camera.players = [one, two]) :
    (camera.tick engine locations).pose =
      framing engine camera.verticalOffset (locations one) (locations two) := by
  rw [AFGCameraActor.tick, players]
  rfl

theorem cameraTick_still {locations : π → FVector} {camera : AFGCameraActor π}
    (players : camera.players.length ≠ 2) : camera.tick engine locations = camera := by
  rw [AFGCameraActor.tick]
  split
  · rename_i found
    rw [found] at players
    exact absurd rfl players
  · rfl

@[simp] theorem cameraTick_verticalOffset (locations : π → FVector) (camera : AFGCameraActor π) :
    (camera.tick engine locations).verticalOffset = camera.verticalOffset := by
  rw [AFGCameraActor.tick]
  split <;> rfl

end

omit [DecidableEq π] [DecidableEq α] in
theorem playersOf_some {world : UWorld π α μ} {camera : Nat} {actor : AFGCameraActor π}
    (found : world.cameras[camera]? = some actor) : world.playersOf camera = actor.players := by
  rw [UWorld.playersOf, found]
  rfl

/-- What an event can do to the camera with a number. -/
inductive ActorStep (engine : Engine) (locations : π → FVector) (camera : Nat) (event : GameEvent π) :
    Option (AFGCameraActor π) → Option (AFGCameraActor π) → Prop
  | absent : ActorStep engine locations camera event none none
  | opened : ActorStep engine locations camera event none (some {})
  | ticked (own : event = .cameraTick camera) (actor : AFGCameraActor π) :
      ActorStep engine locations camera event (some actor) (some (actor.tick engine locations))
  | joined (other : event ≠ .cameraTick camera) (actor : AFGCameraActor π) (pawns : List π) :
      ActorStep engine locations camera event (some actor) (some (actor.joinedBy pawns))

omit [DecidableEq π] in
theorem actorStep_same {locations : π → FVector} {camera : Nat} {event : GameEvent π}
    (other : event ≠ .cameraTick camera) (entry : Option (AFGCameraActor π)) :
    ActorStep engine locations camera event entry entry := by
  cases entry with
  | none => exact .absent
  | some actor =>
      have step : ActorStep engine locations camera event (some actor) (some (actor.joinedBy [])) :=
        .joined other actor []
      rw [actor.joinedBy_nil] at step
      exact step

theorem gameStep_actor {world next : UWorld π α μ} {event : GameEvent π}
    {output : List (GameOutput π assets)}
    (done : gameStep assets engine world event = .ok (next, output)) (camera : Nat) :
    ActorStep engine world.locations camera event world.cameras[camera]? next.cameras[camera]? := by
  cases gameStep_cases done with
  | startPlay spawned another =>
      rcases startPlay_cases engine world spawned another with same | ⟨gameMode, _, _, same⟩
      · rw [same]
        exact actorStep_same (by simp) _
      · rw [same]
        cases spawned with
        | false => exact actorStep_same (by simp) _
        | true =>
            change ActorStep engine world.locations camera _ world.cameras[camera]?
              (world.cameras ++ [({} : AFGCameraActor π)])[camera]?
            rcases opened_getElem world.cameras camera with same | ⟨absent, opened⟩
            · rw [same]
              exact actorStep_same (by simp) _
            · rw [absent, opened]
              exact .opened
  | fireTimers turns =>
      rename_i order
      obtain ⟨fired, -⟩ := @fireTimers_fired _ _ _ _ assets order { world with timers := [] }
      rw [fired.cameras camera]
      cases found : world.cameras[camera]? with
      | none => exact .absent
      | some actor => exact .joined (by simp) actor _
  | cameraTick other =>
      rw [List.getElem?_modify]
      by_cases same : other = camera
      · subst same
        simp only [if_true]
        cases world.cameras[other]? with
        | none => exact .absent
        | some actor => exact .ticked rfl actor
      · simp only [if_neg same]
        cases world.cameras[camera]? with
        | none => exact .absent
        | some actor => exact actorStep_same (by simp [same]) (some actor)
  | _ => exact actorStep_same (by simp) _

def FramesAt (assets : Assets α σ μ) (engine : Engine) (start : UWorld π α μ) (camera : Nat)
    (earlier : List (GameEvent π)) (event : GameEvent π) : Prop :=
  event = .cameraTick camera ∧ ∃ world outputs,
    runGame assets engine start earlier = .ok (world, outputs) ∧ (world.playersOf camera).length = 2

/-- The camera stands where it was spawned, or where the last Tick that found two players put it; those
two are its first players. -/
def Framed (assets : Assets α σ μ) (engine : Engine) (start : UWorld π α μ)
    (events : List (GameEvent π)) (camera : Nat) (actor : AFGCameraActor π) : Prop :=
  (¬ History.Happened (FramesAt assets engine start camera) events ∧
      actor.pose = ({} : AFGCameraActor π).pose) ∨
    ∃ earlier world outputs one two others,
      History.Last (FramesAt assets engine start camera) events earlier ∧
        runGame assets engine start earlier = .ok (world, outputs) ∧
        world.playersOf camera = [one, two] ∧ actor.players = one :: two :: others ∧
        actor.pose = framing engine actor.verticalOffset (world.locations one) (world.locations two)

theorem framesAt_reached {start world : UWorld π α μ} {done : List (GameEvent π)}
    {outputs : List (GameOutput π assets)}
    (ran : runGame assets engine start done = .ok (world, outputs)) (camera : Nat)
    (event : GameEvent π) :
    FramesAt assets engine start camera done event ↔
      event = .cameraTick camera ∧ (world.playersOf camera).length = 2 := by
  constructor
  · intro frames
    rcases frames with ⟨own, other, _, ran', two⟩
    obtain ⟨rfl, -⟩ := Prod.mk.inj (Except.ok.inj (ran.symm.trans ran'))
    exact ⟨own, two⟩
  · intro parts
    rcases parts with ⟨own, two⟩
    exact ⟨own, world, outputs, ran, two⟩

theorem framed_still {start : UWorld π α μ} {done : List (GameEvent π)} {event : GameEvent π}
    {camera : Nat} {actor : AFGCameraActor π}
    (framed : Framed assets engine start done camera actor)
    (still : ¬ FramesAt assets engine start camera done event) (pawns : List π) :
    Framed assets engine start (done ++ [event]) camera (actor.joinedBy pawns) := by
  rcases framed with ⟨never, pose⟩ | ⟨earlier, world, outputs, one, two, others, last, rest⟩
  · left
    rw [History.happened_concat, not_or]
    exact ⟨⟨never, still⟩, pose⟩
  · right
    rcases rest with ⟨ran, players, first, pose⟩
    refine ⟨earlier, world, outputs, one, two, others ++ pawns, History.last_concat last still, ran,
      players, ?_, pose⟩
    rw [AFGCameraActor.joinedBy, first]
    rfl

structure Framing (assets : Assets α σ μ) (engine : Engine) (start : UWorld π α μ)
    (events : List (GameEvent π)) (world : UWorld π α μ) : Prop where
  opened : ∀ camera, History.Happened (FramesAt assets engine start camera) events →
    world.cameras[camera]? ≠ none
  framed : ∀ (camera : Nat) (actor : AFGCameraActor π), world.cameras[camera]? = some actor →
    Framed assets engine start events camera actor

theorem framing_step {start world next : UWorld π α μ} {done : List (GameEvent π)}
    {outputs output : List (GameOutput π assets)} {event : GameEvent π}
    (ran : runGame assets engine start done = .ok (world, outputs))
    (inv : Framing assets engine start done world)
    (reaction : gameStep assets engine world event = .ok (next, output)) :
    Framing assets engine start (done ++ [event]) next := by
  constructor
  · intro camera happened
    have step := gameStep_actor reaction camera
    have there : world.cameras[camera]? ≠ none := by
      rcases History.happened_concat.mp happened with before | now
      · exact inv.opened camera before
      · intro absent
        have two := ((framesAt_reached ran camera event).mp now).2
        rw [UWorld.playersOf, absent] at two
        cases two
    generalize world.cameras[camera]? = before at there step
    generalize next.cameras[camera]? = after at step
    cases step with
    | absent => exact absurd rfl there
    | opened => exact absurd rfl there
    | ticked own actor => exact Option.some_ne_none _
    | joined other actor pawns => exact Option.some_ne_none _
  · intro camera actor' found
    have step := gameStep_actor reaction camera
    rw [found] at step
    generalize before : world.cameras[camera]? = entry at step
    cases step with
    | opened =>
        left
        rw [History.happened_concat, framesAt_reached ran]
        refine ⟨fun happened => ?_, rfl⟩
        rcases happened with past | ⟨-, two⟩
        · exact inv.opened camera past before
        · rw [UWorld.playersOf, before] at two
          cases two
    | ticked own actor =>
        by_cases two : actor.players.length = 2
        · obtain ⟨one, other, players⟩ := List.length_eq_two.mp two
          have now : FramesAt assets engine start camera done event :=
            (framesAt_reached ran camera event).mpr ⟨own, by rw [playersOf_some before, two]⟩
          refine .inr ⟨done, world, outputs, one, other, [], History.last_now now, ran, ?_, ?_, ?_⟩
          · rw [playersOf_some before, players]
          · rw [cameraTick_players, players]
          · rw [cameraTick_verticalOffset]
            exact cameraTick_frames players
        · rw [cameraTick_still two, ← actor.joinedBy_nil]
          apply framed_still (inv.framed camera actor before)
          rw [framesAt_reached ran, playersOf_some before]
          exact fun frames => two frames.2
    | joined other actor pawns =>
        apply framed_still (inv.framed camera actor before)
        rw [framesAt_reached ran]
        exact fun frames => other frames.1

/-- After every run of the game each camera stands where it was spawned, as long as no Tick of it has
found two players, and after that where the last such Tick framed the two pawns that registered first,
as they stood then. -/
theorem camera_framing {start world : UWorld π α μ} {events : List (GameEvent π)}
    {outputs : List (GameOutput π assets)} (unplayed : Unplayed start)
    (ran : runGame assets engine start events = .ok (world, outputs)) {camera : Nat}
    {actor : AFGCameraActor π} (found : world.cameras[camera]? = some actor) :
    Framed assets engine start events camera actor := by
  have initial : Framing assets engine start [] start := by
    constructor
    · intro camera happened
      exact absurd happened History.not_happened_nil
    · intro camera actor found
      rw [unplayed.cameras] at found
      cases found
  exact (EventRun.run_history (fun events world _ => Framing assets engine start events world)
    (fun _ _ _ _ _ _ ran inv reaction => framing_step ran inv reaction) initial ran).framed
    camera actor found

theorem camera_framing_sample :
    ∃ world outputs actor, runGame sampleAssets sampleEngine sampleWorld sampleGame =
        .ok (world, outputs) ∧ world.cameras[0]? = some actor ∧
      Framed sampleAssets sampleEngine sampleWorld sampleGame 0 actor := by
  obtain ⟨world, outputs, ran, -, -, players⟩ := sampleGame_runs
  obtain ⟨actor, others, cameras, -, -⟩ := List.map_eq_cons_iff.mp players
  have found : world.cameras[0]? = some actor := by
    rw [cameras]
    rfl
  exact ⟨world, outputs, actor, ran, found, camera_framing sampleWorld_unplayed ran found⟩

theorem crowded_camera_still {world final : UWorld π α μ} {later : List (GameEvent π)}
    {outputs : List (GameOutput π assets)}
    (ran : runGame assets engine world later = .ok (final, outputs)) {camera : Nat}
    {actor : AFGCameraActor π} (found : world.cameras[camera]? = some actor)
    (crowded : 2 < actor.players.length) :
    ∃ joined, final.cameras[camera]? = some (actor.joinedBy joined) := by
  apply EventRun.run_invariant (fun _ (world : UWorld π α μ) _ =>
    ∃ joined, world.cameras[camera]? = some (actor.joinedBy joined)) (fun _ => True) _
    (fun _ _ => trivial) ⟨[], by rw [found, actor.joinedBy_nil]⟩ ran
  intro done s outputs event t output inv _ reaction
  rcases inv with ⟨joined, located⟩
  have step := gameStep_actor reaction camera
  rw [located] at step
  generalize t.cameras[camera]? = after at step
  cases step with
  | ticked own =>
      have many : (actor.joinedBy joined).players.length ≠ 2 := by
        rw [AFGCameraActor.joinedBy, List.length_append]
        omega
      exact ⟨joined, by rw [cameraTick_still many]⟩
  | joined other _ pawns =>
      exact ⟨joined ++ pawns, by simp only [AFGCameraActor.joinedBy, List.append_assoc]⟩

def crowdedGame : List (GameEvent Nat) :=
  [.startPlay true none, .beginPlay 0, .beginPlay 1, .beginPlay 2,
    .possess 0 (some (.playerController 0)), .possess 1 (some (.playerController 1)),
    .possess 2 (some (.playerController 2)), .fireTimers [0, 1, 2]]

theorem crowded_camera_still_sample :
    ∃ world outputs actor final outputs' joined,
      runGame sampleAssets sampleEngine sampleWorld crowdedGame = .ok (world, outputs) ∧
      world.cameras[0]? = some actor ∧
      runGame sampleAssets sampleEngine world [.moveActor 1 ⟨200, 0, 0⟩ ⟨0, 0, 0⟩, .cameraTick 0] =
        .ok (final, outputs') ∧ final.cameras[0]? = some (actor.joinedBy joined) := by
  have ends : (runGame sampleAssets sampleEngine sampleWorld crowdedGame).toOption.map
      (fun final => final.1.cameras.map AFGCameraActor.players) = some [[0, 1, 2]] := by
    decide +kernel
  cases ran : runGame sampleAssets sampleEngine sampleWorld crowdedGame with
  | error fault =>
      rw [ran] at ends
      cases ends
  | ok reached =>
      rcases reached with ⟨world, outputs⟩
      rw [ran] at ends
      have players : world.cameras.map AFGCameraActor.players = [[0, 1, 2]] := Option.some.inj ends
      obtain ⟨actor, others, cameras, three, -⟩ := List.map_eq_cons_iff.mp players
      have found : world.cameras[0]? = some actor := by
        rw [cameras]
        rfl
      have crowded : 2 < actor.players.length := by
        rw [three]
        decide
      have ended : ∃ final outputs', runGame sampleAssets sampleEngine world
          [.moveActor 1 ⟨200, 0, 0⟩ ⟨0, 0, 0⟩, .cameraTick 0] = .ok (final, outputs') := ⟨_, _, rfl⟩
      obtain ⟨final, outputs', finished⟩ := ended
      obtain ⟨joined, still⟩ := crowded_camera_still finished found crowded
      exact ⟨world, outputs, actor, final, outputs', joined, rfl, found, finished, still⟩

end SmFighting
