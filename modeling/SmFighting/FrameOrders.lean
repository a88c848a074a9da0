import SmFighting.CameraFraming

namespace SmFighting

variable {π α σ μ : Type} {assets : Assets α σ μ} {engine : Engine}

inductive SameTurns : GameEvent π → GameEvent π → Prop
  | frame {order order' : List π} (turns : order.Perm order') :
      SameTurns (.fireTimers order) (.fireTimers order')
  | same (event : GameEvent π) : SameTurns event event

/-- The same view, or the one from the other side of the players. -/
def SameAxis (engine : Engine) (rotation rotation' : FRotator) : Prop :=
  rotation' = rotation ∨ ∃ pitch dy dx,
    rotation = ⟨pitch, engine.radiansToDegrees (engine.atan2 dy dx) + 90, 0⟩ ∧
    rotation' = ⟨pitch, engine.radiansToDegrees (engine.atan2 (-dy) (-dx)) + 90, 0⟩

structure MirrorsActor (engine : Engine) (actor actor' : AFGCameraActor π) : Prop where
  players : actor.players.Perm actor'.players
  verticalOffset : actor'.verticalOffset = actor.verticalOffset
  location : actor'.location = actor.location
  rotation : SameAxis engine actor.rotation actor'.rotation

/-- A world that differs only in the order of its timers and players and in the side of its cameras. -/
inductive Mirrors (engine : Engine) (world : UWorld π α μ) : UWorld π α μ → Prop
  | mk {cameras : List (AFGCameraActor π)} {timers : List π} (turns : world.timers.Perm timers)
      (opened : cameras.length = world.cameras.length)
      (actors : ∀ camera : Nat,
        Option.Rel (MirrorsActor engine) world.cameras[camera]? cameras[camera]?) :
      Mirrors engine world { world with cameras := cameras, timers := timers }

theorem mirrorsActor_refl (actor : AFGCameraActor π) : MirrorsActor engine actor actor :=
  ⟨.refl _, rfl, rfl, .inl rfl⟩

theorem mirrors_refl (world : UWorld π α μ) : Mirrors engine world world := by
  have actors : ∀ camera : Nat,
      Option.Rel (MirrorsActor engine) world.cameras[camera]? world.cameras[camera]? := by
    intro camera
    cases world.cameras[camera]? with
    | none => exact .none
    | some actor => exact .some (mirrorsActor_refl actor)
  exact .mk (.refl _) rfl actors

theorem perm_pair {one two : π} {players : List π} (same : [one, two].Perm players) :
    players = [one, two] ∨ players = [two, one] := by
  obtain ⟨a, b, rfl⟩ := List.length_eq_two.mp same.length_eq.symm
  have first : a ∈ [one, two] := same.mem_iff.mpr List.mem_cons_self
  rcases List.mem_cons.mp first with rfl | first
  · obtain rfl := List.singleton_perm_singleton.mp ((List.perm_cons a).mp same)
    exact .inl rfl
  · obtain rfl := List.mem_singleton.mp first
    have swapped := (List.Perm.swap one a []).trans same
    obtain rfl := List.singleton_perm_singleton.mp ((List.perm_cons a).mp swapped)
    exact .inr rfl

theorem mirrorsActor_tick {locations : π → FVector} {actor actor' : AFGCameraActor π}
    (mirrors : MirrorsActor engine actor actor') :
    MirrorsActor engine (actor.tick engine locations) (actor'.tick engine locations) := by
  rcases mirrors with ⟨players, verticalOffset, location, rotation⟩
  by_cases two : actor.players.length = 2
  · obtain ⟨one, other, found⟩ := List.length_eq_two.mp two
    rw [found] at players
    have frames : (actor.tick engine locations).pose = framing engine actor.verticalOffset
        (locations one) (locations other) := cameraTick_frames found
    have place : (actor.tick engine locations).location = _ := congrArg Prod.fst frames
    have view : (actor.tick engine locations).rotation = _ := congrArg Prod.snd frames
    rcases perm_pair players with found' | found'
    · have frames' : (actor'.tick engine locations).pose = framing engine actor'.verticalOffset
          (locations one) (locations other) := cameraTick_frames found'
      rw [verticalOffset] at frames'
      constructor
      · rw [cameraTick_players, cameraTick_players, found, found']
      · rw [cameraTick_verticalOffset, cameraTick_verticalOffset, verticalOffset]
      · rw [place]
        exact congrArg Prod.fst frames'
      · rw [view]
        exact .inl (congrArg Prod.snd frames')
    · have frames' : (actor'.tick engine locations).pose = framing engine actor'.verticalOffset
          (locations other) (locations one) := cameraTick_frames found'
      rw [verticalOffset] at frames'
      have place' : (actor'.tick engine locations).location = _ := congrArg Prod.fst frames'
      have view' : (actor'.tick engine locations).rotation = _ := congrArg Prod.snd frames'
      constructor
      · rw [cameraTick_players, cameraTick_players, found, found']
        exact .swap _ _ []
      · rw [cameraTick_verticalOffset, cameraTick_verticalOffset, verticalOffset]
      · rw [place, place']
        simp only [framing, add_comm (locations other).x, add_comm (locations other).y,
          add_comm (locations other).z]
      · right
        refine ⟨_, (locations one).y - (locations other).y, (locations one).x - (locations other).x,
          view, ?_⟩
        rw [view', neg_sub, neg_sub]
        rfl
  · have two' : actor'.players.length ≠ 2 := by
      rw [← players.length_eq]
      exact two
    rw [cameraTick_still two, cameraTick_still two']
    exact ⟨players, verticalOffset, location, rotation⟩

theorem mirrorsActor_joined {actor actor' : AFGCameraActor π} {pawns pawns' : List π}
    (mirrors : MirrorsActor engine actor actor') (joined : pawns.Perm pawns') :
    MirrorsActor engine (actor.joinedBy pawns) (actor'.joinedBy pawns') :=
  ⟨mirrors.players.append joined, mirrors.verticalOffset, mirrors.location, mirrors.rotation⟩

theorem rel_map {entry entry' : Option (AFGCameraActor π)}
    (mirrors : Option.Rel (MirrorsActor engine) entry entry')
    {act act' : AFGCameraActor π → AFGCameraActor π}
    (keeps : ∀ {actor actor'}, MirrorsActor engine actor actor' →
      MirrorsActor engine (act actor) (act' actor')) :
    Option.Rel (MirrorsActor engine) (entry.map act) (entry'.map act') := by
  cases mirrors with
  | none => exact .none
  | some mirrors => exact .some (keeps mirrors)

theorem mirrors_intro {next next' : UWorld π α μ}
    (frame : next' = { next with cameras := next'.cameras, timers := next'.timers })
    (turns : next.timers.Perm next'.timers) (opened : next'.cameras.length = next.cameras.length)
    (actors : ∀ camera : Nat,
      Option.Rel (MirrorsActor engine) next.cameras[camera]? next'.cameras[camera]?) :
    Mirrors engine next next' := by
  rw [frame]
  exact .mk turns opened actors

theorem placeAnother_mirrors [DecidableEq π] {world world' : UWorld π α μ}
    (mirrors : Mirrors engine world world') (gameMode : AFGGameMode) (pawn : π) :
    Mirrors engine (world.placeAnother engine gameMode pawn)
      (world'.placeAnother engine gameMode pawn) := by
  rcases mirrors with ⟨turns, opened, actors⟩
  exact .mk turns opened actors

theorem openCamera_mirrors {world world' : UWorld π α μ} (mirrors : Mirrors engine world world')
    (gameMode : AFGGameMode) (spawned : Bool) :
    Mirrors engine (world.openCamera gameMode spawned) (world'.openCamera gameMode spawned) := by
  rcases mirrors with @⟨cameras, timers, turns, opened, actors⟩
  cases spawned with
  | false => exact .mk turns opened actors
  | true =>
      apply mirrors_intro
      · simp only [UWorld.openCamera, opened]
      · exact turns
      · simp only [UWorld.openCamera, if_true, List.length_append, opened]
      · intro camera
        simp only [UWorld.openCamera, if_true]
        rcases Nat.lt_trichotomy camera world.cameras.length with inside | rfl | beyond
        · rw [List.getElem?_append_left inside, List.getElem?_append_left (opened ▸ inside)]
          exact actors camera
        · rw [List.getElem?_concat_length, ← opened, List.getElem?_concat_length]
          exact .some (mirrorsActor_refl _)
        · rw [List.getElem?_eq_none_iff.mpr, List.getElem?_eq_none_iff.mpr]
          · exact .none
          · rw [List.length_append, opened]
            exact beyond
          · rw [List.length_append]
            exact beyond

variable [DecidableEq π]

theorem startPlay_mirrors {world world' : UWorld π α μ} (mirrors : Mirrors engine world world')
    (spawned : Bool) (another : Option π) :
    Mirrors engine (world.startPlay engine spawned another)
      (world'.startPlay engine spawned another) := by
  have mode : world'.gameMode = world.gameMode := by
    rcases mirrors with ⟨-, -, -⟩
    rfl
  unfold UWorld.startPlay
  rw [mode]
  split
  · exact mirrors
  · rename_i gameMode _
    have opened := openCamera_mirrors mirrors gameMode spawned
    split
    · exact placeAnother_mirrors opened gameMode _
    · exact opened

variable [DecidableEq α]

theorem fireTimers_mirrors {world world' next : UWorld π α μ} {order order' : List π}
    {output : List (GameOutput π assets)} (mirrors : Mirrors engine world world')
    (turns : order.Perm order')
    (done : gameStep assets engine world (.fireTimers order) = .ok (next, output)) :
    ∃ next' output', gameStep assets engine world' (.fireTimers order') = .ok (next', output') ∧
      Mirrors engine next next' ∧ output.Perm output' := by
  cases gameStep_cases done with
  | fireTimers due =>
      rcases mirrors with @⟨cameras, timers, same, opened, actors⟩
      obtain ⟨fired, -⟩ := @fireTimers_fired _ _ _ _ assets order { world with timers := [] }
      obtain ⟨fired', -⟩ := @fireTimers_fired _ _ _ _ assets order'
        { world with cameras := cameras, timers := [] }
      refine ⟨_, _, gameStep_of (.fireTimers (turns.symm.trans (due.trans same))), ?_, ?_⟩
      · apply mirrors_intro
        · rw [fired.frame, fired'.frame]
        · rw [fired.timers, fired'.timers]
          exact turns.filter _
        · rw [fired_length fired, fired_length fired']
          exact opened
        · intro camera
          rw [fired.cameras, fired'.cameras]
          exact rel_map (actors camera)
            (fun mirrors => mirrorsActor_joined mirrors (turns.filter _))
      · rw [fireTimers_output, fireTimers_output]
        simp only [useGameCamera_output]
        exact turns.flatMap_right _

theorem gameStep_mirrors {world world' next : UWorld π α μ} {event event' : GameEvent π}
    {output : List (GameOutput π assets)} (mirrors : Mirrors engine world world')
    (turns : SameTurns event event')
    (done : gameStep assets engine world event = .ok (next, output)) :
    ∃ next' output', gameStep assets engine world' event' = .ok (next', output') ∧
      Mirrors engine next next' ∧ output.Perm output' := by
  cases turns with
  | frame turns => exact fireTimers_mirrors mirrors turns done
  | same event =>
      cases gameStep_cases done with
      | startPlay spawned another =>
          exact ⟨_, _, gameStep_of (.startPlay spawned another),
            startPlay_mirrors mirrors spawned another, .refl _⟩
      | destroys spawned failed =>
          rcases mirrors with ⟨same, opened, actors⟩
          exact ⟨_, _, gameStep_of (.destroys spawned failed), .mk same opened actors, .refl _⟩
      | begins spawned passed =>
          rcases mirrors with ⟨same, opened, actors⟩
          exact ⟨_, _, gameStep_of (.begins spawned passed),
            mirrors_intro rfl (same.append_right _) opened actors, .refl _⟩
      | possess pawn controller =>
          rcases mirrors with ⟨same, opened, actors⟩
          exact ⟨_, _, gameStep_of (.possess pawn controller), .mk same opened actors, .refl _⟩
      | moveActor pawn location rotation =>
          rcases mirrors with ⟨same, opened, actors⟩
          exact ⟨_, _, gameStep_of (.moveActor pawn location rotation), .mk same opened actors,
            .refl _⟩
      | play begun reaction =>
          rcases mirrors with ⟨same, opened, actors⟩
          exact ⟨_, _, gameStep_of (.play begun reaction), .mk same opened actors, .refl _⟩
      | fireTimers due => exact fireTimers_mirrors mirrors (.refl _) done
      | cameraTick camera =>
          rcases mirrors with @⟨cameras, timers, same, opened, actors⟩
          refine ⟨_, _, gameStep_of (.cameraTick camera), ?_, .refl _⟩
          apply mirrors_intro rfl same
          · simp only [List.length_modify, opened]
          · intro other
            rw [List.getElem?_modify, List.getElem?_modify]
            exact rel_map (actors other) (fun mirrors => by
              split
              · exact mirrorsActor_tick mirrors
              · exact mirrors)

/-- Whatever order the timers of each frame get their turns in, the game comes to the same end: the same
pawns in the same moves, the same pawns waiting and registered with each camera, the cameras at the same
places. Only the side that a camera looks from depends on it. -/
theorem frame_orders {start world : UWorld π α μ} {events events' : List (GameEvent π)}
    {outputs : List (GameOutput π assets)} (turns : List.Forall₂ SameTurns events events')
    (ran : runGame assets engine start events = .ok (world, outputs)) :
    ∃ world' outputs', runGame assets engine start events' = .ok (world', outputs') ∧
      Mirrors engine world world' ∧ outputs.Perm outputs' :=
  EventRun.run_simulates (Mirrors engine) SameTurns List.Perm (.refl _)
    (fun _ _ _ _ first second => first.append second)
    (fun _ _ _ _ _ _ mirrors turns done => gameStep_mirrors mirrors turns done) (mirrors_refl start)
    turns ran

theorem frame_orders_sample :
    ∃ world outputs world' outputs',
      runGame sampleAssets sampleEngine sampleWorld sampleGame = .ok (world, outputs) ∧
      runGame sampleAssets sampleEngine sampleWorld
        [.possess true (some (.playerController 0)), .beginPlay true, .fireTimers [true],
          .possess false (some (.playerController 1)), .beginPlay false, .startPlay true (some false),
          .fireTimers [true, false], .cameraTick 0] = .ok (world', outputs') ∧
      Mirrors sampleEngine world world' ∧ outputs.Perm outputs' := by
  obtain ⟨world, outputs, ran, -⟩ := sampleGame_runs
  have turns : List.Forall₂ SameTurns sampleGame
      [.possess true (some (.playerController 0)), .beginPlay true, .fireTimers [true],
        .possess false (some (.playerController 1)), .beginPlay false, .startPlay true (some false),
        .fireTimers [true, false], .cameraTick 0] :=
    .cons (.same _) (.cons (.same _) (.cons (.same _) (.cons (.same _) (.cons (.same _)
      (.cons (.same _) (.cons (.frame (.swap _ _ [])) (.cons (.same _) .nil)))))))
  obtain ⟨world', outputs', ran', mirrors, same⟩ := frame_orders turns ran
  exact ⟨world, outputs, world', outputs', ran, ran', mirrors, same⟩

end SmFighting
