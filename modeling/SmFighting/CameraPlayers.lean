import SmFighting.GameWorld
import SmFighting.Library.History

namespace SmFighting

variable {π α σ μ : Type}

namespace UWorld

def cameraFor (world : UWorld π α μ) (pawn : π) : Option Nat :=
  match world.gameMode, world.controllers pawn with
  | some gameMode, some (.playerController _) => gameMode.mainGameCamera
  | _, _ => none

def playersOf (world : UWorld π α μ) (camera : Nat) : List π :=
  (world.cameras[camera]?.map AFGCameraActor.players).getD []

def CameraThere (world : UWorld π α μ) : Prop :=
  ∀ gameMode camera, world.gameMode = some gameMode → gameMode.mainGameCamera = some camera →
    camera < world.cameras.length

end UWorld

variable {assets : Assets α σ μ}

theorem cameraFor_there {world : UWorld π α μ} {pawn : π} {camera : Nat}
    (there : world.CameraThere) (found : world.cameraFor pawn = some camera) :
    camera < world.cameras.length := by
  rw [UWorld.cameraFor] at found
  split at found
  · rename_i mode _
    exact there _ camera mode found
  · cases found

@[simp] theorem cameraTick_players (engine : Engine) (locations : π → FVector)
    (camera : AFGCameraActor π) : (camera.tick engine locations).players = camera.players := by
  rw [AFGCameraActor.tick]
  split <;> rfl

def GameOutput.isView (camera : Nat) : GameOutput π assets → Bool
  | .setViewTarget _ target => target == camera
  | _ => false

def AFGCameraActor.joinedBy (actor : AFGCameraActor π) (pawns : List π) : AFGCameraActor π :=
  { actor with players := actor.players ++ pawns }

@[simp] theorem AFGCameraActor.joinedBy_nil (actor : AFGCameraActor π) : actor.joinedBy [] = actor := by
  rw [AFGCameraActor.joinedBy, List.append_nil]

/-- What the turns of `order` do: those whose camera is there join its players, the others wait on. -/
structure Fired (order : List π) (world next : UWorld π α μ) : Prop where
  frame : next = { world with cameras := next.cameras, timers := next.timers }
  timers : next.timers = world.timers ++ order.filter (fun pawn => (world.cameraFor pawn).isNone)
  cameras : ∀ (camera : Nat), next.cameras[camera]? = world.cameras[camera]?.map (fun actor =>
    actor.joinedBy (order.filter (fun pawn => decide (world.cameraFor pawn = some camera))))

theorem fired_cameraFor {order : List π} {world next : UWorld π α μ} (fired : Fired order world next)
    (pawn : π) : next.cameraFor pawn = world.cameraFor pawn := by
  rw [fired.frame]
  rfl

theorem fired_length {order : List π} {world next : UWorld π α μ} (fired : Fired order world next) :
    next.cameras.length = world.cameras.length := by
  apply Nat.le_antisymm
  · have last := fired.cameras world.cameras.length
    rwa [List.getElem?_eq_none_iff.mpr (Nat.le_refl _), Option.map_none,
      List.getElem?_eq_none_iff] at last
  · have last := fired.cameras next.cameras.length
    rw [List.getElem?_eq_none_iff.mpr (Nat.le_refl _)] at last
    exact List.getElem?_eq_none_iff.mp (Option.map_eq_none_iff.mp last.symm)

theorem useGameCamera_world (world : UWorld π α μ) (pawn : π) :
    (world.useGameCamera assets pawn).1 = match world.cameraFor pawn with
      | some camera => world.addPlayer camera pawn
      | none => world.setTimerForNextTick pawn := by
  rw [UWorld.useGameCamera, UWorld.cameraFor]
  rcases world.gameMode with _ | gameMode
  · rfl
  · rcases world.controllers pawn with _ | id | _
    · rfl
    · rcases main : gameMode.mainGameCamera with _ | camera
      · simp only [main]
      · simp only [main]
        split <;> rfl
    · rfl

theorem useGameCamera_views (world : UWorld π α μ) (pawn : π) (camera : Nat) :
    (world.useGameCamera assets pawn).2.countP (GameOutput.isView camera) =
      if world.cameraFor pawn = some camera then 1 else 0 := by
  rw [UWorld.useGameCamera, UWorld.cameraFor]
  rcases world.gameMode with _ | gameMode
  · rfl
  · rcases world.controllers pawn with _ | id | _
    · rfl
    · rcases main : gameMode.mainGameCamera with _ | target
      · simp only [main]
        rfl
      · simp only [main]
        split <;> simp [List.countP_cons, GameOutput.isView]
    · rfl

theorem useGameCamera_output (world : UWorld π α μ) (cameras : List (AFGCameraActor π))
    (timers : List π) (pawn : π) :
    ({ world with cameras := cameras, timers := timers }.useGameCamera assets pawn).2 =
      (world.useGameCamera assets pawn).2 := by
  rw [UWorld.useGameCamera, UWorld.useGameCamera]
  rcases world.gameMode with _ | gameMode
  · rfl
  · rcases world.controllers pawn with _ | id | _
    · rfl
    · rcases main : gameMode.mainGameCamera with _ | target
      · simp only [main]
      · simp only [main]
        by_cases one : id = 0
        · rw [if_pos one, if_pos one]
        · rw [if_neg one, if_neg one]
    · rfl

theorem useGameCamera_fired (world : UWorld π α μ) (pawn : π) :
    Fired [pawn] world (world.useGameCamera assets pawn).1 := by
  rw [useGameCamera_world]
  cases found : world.cameraFor pawn with
  | none =>
      refine ⟨rfl, by simp [UWorld.setTimerForNextTick, found], fun camera => ?_⟩
      simp [UWorld.setTimerForNextTick, found]
  | some main =>
      refine ⟨rfl, by simp [UWorld.addPlayer, found], fun camera => ?_⟩
      simp only [UWorld.addPlayer, List.getElem?_modify, List.filter_cons, found, List.filter_nil,
        Option.some.injEq, decide_eq_true_eq]
      cases world.cameras[camera]? with
      | none => rfl
      | some actor =>
          by_cases same : main = camera
          · simp [same, AFGCameraActor.joinedBy]
          · simp [same]

theorem fired_trans {first second : List π} {world middle next : UWorld π α μ}
    (one : Fired first world middle) (two : Fired second middle next) :
    Fired (first ++ second) world next := by
  constructor
  · rw [two.frame, one.frame]
  · simp only [two.timers, one.timers, fired_cameraFor one, List.filter_append, List.append_assoc]
  · intro camera
    simp only [two.cameras, one.cameras, fired_cameraFor one, Option.map_map, List.filter_append]
    congr 1
    funext actor
    simp only [Function.comp_apply, AFGCameraActor.joinedBy, List.append_assoc]

/-- A whole frame. No turn changes what the others find, so their order decides only the order in
which they join. -/
theorem fireTimers_fired (order : List π) (world : UWorld π α μ) :
    Fired order world (world.fireTimers assets order).1 ∧
      ∀ camera, (world.fireTimers assets order).2.countP (GameOutput.isView camera) =
        (order.filter (fun pawn => decide (world.cameraFor pawn = some camera))).length := by
  induction order generalizing world with
  | nil => exact ⟨⟨rfl, by simp [UWorld.fireTimers], by simp [UWorld.fireTimers]⟩, fun _ => rfl⟩
  | cons pawn order ih =>
      obtain ⟨later, views⟩ := ih (world.useGameCamera assets pawn).1
      have turn : Fired [pawn] world (world.useGameCamera assets pawn).1 :=
        useGameCamera_fired world pawn
      refine ⟨fired_trans turn later, fun camera => ?_⟩
      rw [UWorld.fireTimers, List.countP_append, views, useGameCamera_views, List.filter_cons]
      simp only [fired_cameraFor turn, decide_eq_true_eq]
      split
      · rw [List.length_cons, Nat.add_comm]
      · rw [Nat.zero_add]

theorem fireTimers_output (order : List π) (world : UWorld π α μ) :
    (world.fireTimers assets order).2 =
      order.flatMap (fun pawn => (world.useGameCamera assets pawn).2) := by
  induction order generalizing world with
  | nil => rfl
  | cons pawn order ih =>
      have turn : Fired [pawn] world (world.useGameCamera assets pawn).1 :=
        useGameCamera_fired world pawn
      have rest := ih (world.useGameCamera assets pawn).1
      rw [turn.frame] at rest
      simp only [useGameCamera_output] at rest
      rw [UWorld.fireTimers, List.flatMap_cons, ← rest, ← turn.frame]

theorem fired_players {order : List π} {world next : UWorld π α μ} (there : world.CameraThere)
    (fired : Fired order world next) (camera : Nat) :
    next.playersOf camera = world.playersOf camera ++
      order.filter (fun pawn => decide (world.cameraFor pawn = some camera)) := by
  rw [UWorld.playersOf, UWorld.playersOf, fired.cameras]
  cases found : world.cameras[camera]? with
  | some actor => rfl
  | none =>
      symm
      apply List.filter_eq_nil_iff.mpr
      intro pawn _ ready
      have inside := cameraFor_there there (of_decide_eq_true ready)
      rw [List.getElem?_eq_none_iff] at found
      omega

/-- StartPlay opens a camera, which it may fail to do, and places a pawn. -/
theorem startPlay_cases [DecidableEq π] (engine : Engine) (world : UWorld π α μ) (spawned : Bool)
    (another : Option π) :
    world.startPlay engine spawned another = world ∨
      ∃ (gameMode : AFGGameMode) (locations : π → FVector) (rotations : π → FRotator),
        world.startPlay engine spawned another = { world with
          gameMode := some { gameMode with
            mainGameCamera := if spawned then some world.cameras.length else none }
          cameras := if spawned then world.cameras ++ [{}] else world.cameras
          locations := locations
          rotations := rotations } := by
  unfold UWorld.startPlay
  split
  · exact .inl rfl
  · rename_i gameMode _
    right
    refine ⟨gameMode, ?_⟩
    split
    · exact ⟨_, _, rfl⟩
    · exact ⟨_, _, rfl⟩

theorem opened_getElem (cameras : List (AFGCameraActor π)) (camera : Nat) :
    (cameras ++ [({} : AFGCameraActor π)])[camera]? = cameras[camera]? ∨
      (cameras[camera]? = none ∧ (cameras ++ [({} : AFGCameraActor π)])[camera]? = some {}) := by
  rcases Nat.lt_trichotomy camera cameras.length with inside | rfl | beyond
  · exact .inl (List.getElem?_append_left inside)
  · exact .inr ⟨List.getElem?_eq_none_iff.mpr (Nat.le_refl _), List.getElem?_concat_length⟩
  · left
    rw [List.getElem?_eq_none_iff.mpr beyond.le, List.getElem?_eq_none_iff, List.length_append]
    exact beyond

theorem players_opened (cameras : List (AFGCameraActor π)) (spawned : Bool) (camera : Nat) :
    ((if spawned then cameras ++ [({} : AFGCameraActor π)] else cameras)[camera]?.map
      AFGCameraActor.players).getD [] = (cameras[camera]?.map AFGCameraActor.players).getD [] := by
  cases spawned with
  | false => rfl
  | true =>
      rw [if_pos rfl]
      rcases opened_getElem cameras camera with same | ⟨absent, opened⟩
      · rw [same]
      · rw [absent, opened]
        rfl

theorem startPlay_frame [DecidableEq π] (engine : Engine) (world : UWorld π α μ) (spawned : Bool)
    (another : Option π) :
    (world.startPlay engine spawned another).status = world.status ∧
      (world.startPlay engine spawned another).timers = world.timers ∧
      ∀ camera, (world.startPlay engine spawned another).playersOf camera = world.playersOf camera := by
  rcases startPlay_cases engine world spawned another with same | ⟨gameMode, _, _, same⟩
  · rw [same]
    exact ⟨rfl, rfl, fun _ => rfl⟩
  · rw [same]
    exact ⟨rfl, rfl, players_opened world.cameras spawned⟩

inductive Registers [DecidableEq π] (world next : UWorld π α μ) (views : Nat → Nat) :
    GameEvent π → Prop
  | begins {pawn : π} (spawned : world.status pawn = .spawned)
      (status : next.status = Function.update world.status pawn .begunPlay)
      (timers : next.timers = world.timers ++ [pawn])
      (players : ∀ camera, next.playersOf camera = world.playersOf camera)
      (still : ∀ camera, views camera = 0) : Registers world next views (.beginPlay pawn)
  | destroys {pawn : π} (spawned : world.status pawn = .spawned)
      (status : next.status = Function.update world.status pawn .destroyed)
      (timers : next.timers = world.timers)
      (players : ∀ camera, next.playersOf camera = world.playersOf camera)
      (still : ∀ camera, views camera = 0) : Registers world next views (.beginPlay pawn)
  | fires {order : List π} (turns : order.Perm world.timers) (status : next.status = world.status)
      (timers : next.timers = order.filter (fun pawn => (world.cameraFor pawn).isNone))
      (players : ∀ camera, next.playersOf camera = world.playersOf camera ++
        order.filter (fun pawn => decide (world.cameraFor pawn = some camera)))
      (shown : ∀ camera, views camera =
        (order.filter (fun pawn => decide (world.cameraFor pawn = some camera))).length) :
      Registers world next views (.fireTimers order)
  | other {event : GameEvent π} (quiet : ∀ order, event ≠ .fireTimers order)
      (status : next.status = world.status) (timers : next.timers = world.timers)
      (players : ∀ camera, next.playersOf camera = world.playersOf camera)
      (still : ∀ camera, views camera = 0) : Registers world next views event

variable [DecidableEq π] [DecidableEq α]

theorem gameStep_registers {engine : Engine} {world next : UWorld π α μ} {event : GameEvent π}
    {output : List (GameOutput π assets)} (there : world.CameraThere)
    (done : gameStep assets engine world event = .ok (next, output)) :
    Registers world next (fun camera => output.countP (GameOutput.isView camera)) event := by
  cases gameStep_cases done with
  | startPlay spawned another =>
      obtain ⟨status, timers, players⟩ := startPlay_frame engine world spawned another
      exact .other (by simp) status timers players (fun _ => rfl)
  | destroys spawned failed => exact .destroys spawned rfl rfl (fun _ => rfl) (fun _ => rfl)
  | begins spawned passed => exact .begins spawned rfl rfl (fun _ => rfl) (fun _ => rfl)
  | play begun reaction =>
      refine .other (by simp) rfl rfl (fun _ => rfl) (fun camera => ?_)
      rw [List.countP_map]
      exact List.countP_eq_zero.mpr (by simp [GameOutput.isView])
  | @fireTimers order turns =>
      have there : ({ world with timers := [] } : UWorld π α μ).CameraThere := there
      obtain ⟨fired, views⟩ := fireTimers_fired order { world with timers := [] }
      have players := fired_players there fired
      exact .fires turns (by rw [fired.frame]) fired.timers players views
  | cameraTick camera =>
      refine .other (by simp) rfl rfl (fun other => ?_) (fun _ => rfl)
      simp only [UWorld.playersOf, List.getElem?_modify]
      cases world.cameras[other]? with
      | none => rfl
      | some actor =>
          by_cases same : camera = other
          · simp [same]
          · simp [same]
  | _ => exact .other (by simp) rfl rfl (fun _ => rfl) (fun _ => rfl)

end SmFighting
