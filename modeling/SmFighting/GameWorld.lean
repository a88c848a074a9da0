import SmFighting.Tick
import Mathlib.Data.List.Perm.Basic

/-! The game around the pawns: AFGGameMode::StartPlay, the pawns' BeginPlay with the next-tick timer on
which they wait for the game's camera, UseGameCamera, and AFGCameraActor::Tick. What the engine does on
its own (possession, movement, the order of timers) comes as events, in any order. -/

namespace SmFighting

structure FVector where
  x : Rat
  y : Rat
  z : Rat
  deriving DecidableEq

structure FRotator where
  pitch : Rat
  yaw : Rat
  roll : Rat
  deriving DecidableEq

instance : Add FVector := ⟨fun a b => ⟨a.x + b.x, a.y + b.y, a.z + b.z⟩⟩
instance : HMul FVector Rat FVector := ⟨fun a factor => ⟨a.x * factor, a.y * factor, a.z * factor⟩⟩

/-- What the game takes from the engine: its mathematics and the arm of a spring arm component. -/
structure Engine where
  atan2 : Rat → Rat → Rat
  radiansToDegrees : Rat → Rat
  forwardVector : FRotator → FVector
  addLocalRotation : FRotator → FRotator → FRotator
  targetArmLength : Rat

/-- `π` are the pawns of the world. -/
structure AFGCameraActor (π : Type) where
  players : List π := []
  verticalOffset : Rat := 150
  location : FVector := ⟨0, 0, 0⟩
  rotation : FRotator := ⟨0, 0, 0⟩
  deriving DecidableEq

/-- MainGameCamera is given by its place among the cameras that the world has spawned. -/
structure AFGGameMode where
  mainGameCamera : Option Nat := none
  anotherCharacter : Bool := true
  actorForwardScalar : Rat := 150
  pitch : Rat := 0
  yawn : Rat := 180
  roll : Rat := 0
  deriving DecidableEq

/-- A player's controller, with the number that GetPlayerControllerID gives it, or one of another
class. -/
inductive AController
  | playerController (id : Int)
  | otherController
  deriving DecidableEq

inductive ActorStatus
  | spawned | begunPlay | destroyed
  deriving DecidableEq

/-- `timers` are the pawns with a timer for the next tick. The game mode may be of another class. -/
structure UWorld (π α μ : Type) where
  gameMode : Option AFGGameMode := some {}
  pawns : π → AFGDefaultPawn α μ
  status : π → ActorStatus := fun _ => .spawned
  controllers : π → Option AController := fun _ => none
  locations : π → FVector
  rotations : π → FRotator
  cameras : List (AFGCameraActor π) := []
  timers : List π := []

/-- A frame gives its due timers a turn in some order. StartPlay is told whether the camera could be
spawned and which pawn, if any, the created player controls. -/
inductive GameEvent (π : Type)
  | startPlay (spawned : Bool) (another : Option π)
  | beginPlay (pawn : π)
  | possess (pawn : π) (controller : Option AController)
  | moveActor (pawn : π) (location : FVector) (rotation : FRotator)
  | play (pawn : π) (event : Event)
  | fireTimers (order : List π)
  | cameraTick (camera : Nat)
  deriving DecidableEq

inductive GameFault (π : Type)
  | notRaised
  | pawnFault (pawn : π) (fault : Fault)
  deriving DecidableEq

inductive GameOutput (π : Type) {α σ μ : Type} (assets : Assets α σ μ)
  | log (text : String)
  | enableInput (pawn : π) (id : Int)
  | setViewTarget (id : Int) (camera : Nat)
  | ticked (pawn : π) (record : TickRecord assets)

variable {π α σ μ : Type} [DecidableEq π] [DecidableEq α] {assets : Assets α σ μ}

def AFGCameraActor.tick (engine : Engine) (locations : π → FVector) (camera : AFGCameraActor π) :
    AFGCameraActor π :=
  match camera.players with
  | [one, two] =>
      let p1L := locations one
      let p2L := locations two
      let midPoint := (p1L + p2L) * (1 / 2 : Rat)
      { camera with
        location := { midPoint with z := midPoint.z + camera.verticalOffset }
        rotation := ⟨
          engine.radiansToDegrees
            (engine.atan2 (-camera.verticalOffset * (1 / 2)) engine.targetArmLength),
          engine.radiansToDegrees (engine.atan2 (p1L.y - p2L.y) (p1L.x - p2L.x)) + 90, 0⟩ }
  | _ => camera

namespace UWorld

def openCamera (world : UWorld π α μ) (gameMode : AFGGameMode) (spawned : Bool) : UWorld π α μ :=
  { world with
    gameMode := some { gameMode with
      mainGameCamera := if spawned then some world.cameras.length else none }
    cameras := if spawned then world.cameras ++ [{}] else world.cameras }

def placeAnother (engine : Engine) (world : UWorld π α μ) (gameMode : AFGGameMode) (pawn : π) :
    UWorld π α μ :=
  { world with
    locations := Function.update world.locations pawn (world.locations pawn +
      engine.forwardVector (world.rotations pawn) * gameMode.actorForwardScalar)
    rotations := Function.update world.rotations pawn (engine.addLocalRotation (world.rotations pawn)
      ⟨gameMode.pitch, gameMode.yawn, gameMode.roll⟩) }

def startPlay (engine : Engine) (world : UWorld π α μ) (spawned : Bool) (another : Option π) :
    UWorld π α μ :=
  match world.gameMode with
  | none => world
  | some gameMode =>
      match gameMode.anotherCharacter, another with
      | true, some pawn => (world.openCamera gameMode spawned).placeAnother engine gameMode pawn
      | _, _ => world.openCamera gameMode spawned

/-- FGCameraActor->Players.Add(this). -/
def addPlayer (world : UWorld π α μ) (camera : Nat) (pawn : π) : UWorld π α μ :=
  { world with
    cameras := world.cameras.modify camera
      (fun actor => { actor with players := actor.players ++ [pawn] }) }

def setTimerForNextTick (world : UWorld π α μ) (pawn : π) : UWorld π α μ :=
  { world with timers := world.timers ++ [pawn] }

variable (assets)

def beginPlay (world : UWorld π α μ) (pawn : π) : UWorld π α μ × List (GameOutput π assets) :=
  match (world.pawns pawn).beginPlay with
  | .error text =>
      ({ world with status := Function.update world.status pawn .destroyed }, [.log text])
  | .ok _ =>
      ({ world with status := Function.update world.status pawn .begunPlay }.setTimerForNextTick pawn,
        [])

def useGameCamera (world : UWorld π α μ) (pawn : π) : UWorld π α μ × List (GameOutput π assets) :=
  match world.gameMode with
  | some gameMode =>
      match world.controllers pawn with
      | some (.playerController id) =>
          match gameMode.mainGameCamera with
          | some camera =>
              if id = 0 then
                (world.addPlayer camera pawn, [.enableInput pawn id,
                  .log s!"Player {id} registering with game camera (one).",
                  .setViewTarget id camera])
              else
                (world.addPlayer camera pawn, [.enableInput pawn id,
                  .log s!"Player {id} registering with game camera (two).",
                  .setViewTarget id camera])
          | none => (world.setTimerForNextTick pawn, [.enableInput pawn id])
      | _ => (world.setTimerForNextTick pawn, [])
  | none => (world.setTimerForNextTick pawn, [])

/-- The turns of a frame's timers, each of which may set its timer for the next frame. -/
def fireTimers : List π → UWorld π α μ → UWorld π α μ × List (GameOutput π assets)
  | [], world => (world, [])
  | pawn :: order, world =>
      let (next, first) := useGameCamera assets world pawn
      let (last, rest) := fireTimers order next
      (last, first ++ rest)

end UWorld

variable (assets)

/-- BeginPlay is called once for a pawn, which is played from then on unless it destroyed itself. -/
def gameStep (engine : Engine) (world : UWorld π α μ) :
    GameEvent π → Except (GameFault π) (UWorld π α μ × List (GameOutput π assets))
  | .startPlay spawned another => .ok (world.startPlay engine spawned another, [])
  | .beginPlay pawn =>
      if world.status pawn = .spawned then .ok (world.beginPlay assets pawn) else .error .notRaised
  | .possess pawn controller =>
      .ok ({ world with controllers := Function.update world.controllers pawn controller }, [])
  | .moveActor pawn location rotation =>
      .ok ({ world with
        locations := Function.update world.locations pawn location
        rotations := Function.update world.rotations pawn rotation }, [])
  | .play pawn event =>
      if world.status pawn = .begunPlay then
        match react assets (world.pawns pawn) event with
        | .error fault => .error (.pawnFault pawn fault)
        | .ok (after, records) =>
            .ok ({ world with pawns := Function.update world.pawns pawn after },
              records.map (GameOutput.ticked pawn))
      else .error .notRaised
  | .fireTimers order =>
      if order.Perm world.timers then .ok ({ world with timers := [] }.fireTimers assets order)
      else .error .notRaised
  | .cameraTick camera =>
      .ok ({ world with
        cameras := world.cameras.modify camera (AFGCameraActor.tick engine world.locations) }, [])

def runGame (engine : Engine) (world : UWorld π α μ) (events : List (GameEvent π)) :
    Except (GameFault π) (UWorld π α μ × List (GameOutput π assets)) :=
  EventRun.run (gameStep assets engine) world events

variable {assets}

inductive GameStep (assets : Assets α σ μ) (engine : Engine) (world : UWorld π α μ) :
    GameEvent π → UWorld π α μ → List (GameOutput π assets) → Prop
  | startPlay (spawned : Bool) (another : Option π) :
      GameStep assets engine world (.startPlay spawned another)
        (world.startPlay engine spawned another) []
  | destroys {pawn : π} {text : String} (spawned : world.status pawn = .spawned)
      (failed : (world.pawns pawn).beginPlay = .error text) :
      GameStep assets engine world (.beginPlay pawn)
        { world with status := Function.update world.status pawn .destroyed } [.log text]
  | begins {pawn : π} (spawned : world.status pawn = .spawned)
      (passed : (world.pawns pawn).beginPlay = .ok ()) :
      GameStep assets engine world (.beginPlay pawn)
        ({ world with status := Function.update world.status pawn .begunPlay }.setTimerForNextTick pawn)
        []
  | possess (pawn : π) (controller : Option AController) :
      GameStep assets engine world (.possess pawn controller)
        { world with controllers := Function.update world.controllers pawn controller } []
  | moveActor (pawn : π) (location : FVector) (rotation : FRotator) :
      GameStep assets engine world (.moveActor pawn location rotation)
        { world with
          locations := Function.update world.locations pawn location
          rotations := Function.update world.rotations pawn rotation } []
  | play {pawn : π} {event : Event} {after : AFGDefaultPawn α μ}
      {records : List (TickRecord assets)} (begun : world.status pawn = .begunPlay)
      (reaction : react assets (world.pawns pawn) event = .ok (after, records)) :
      GameStep assets engine world (.play pawn event)
        { world with pawns := Function.update world.pawns pawn after }
        (records.map (GameOutput.ticked pawn))
  | fireTimers {order : List π} (turns : order.Perm world.timers) :
      GameStep assets engine world (.fireTimers order)
        ({ world with timers := [] }.fireTimers assets order).1
        ({ world with timers := [] }.fireTimers assets order).2
  | cameraTick (camera : Nat) :
      GameStep assets engine world (.cameraTick camera)
        { world with
          cameras := world.cameras.modify camera (AFGCameraActor.tick engine world.locations) } []

theorem gameStep_cases {engine : Engine} {world next : UWorld π α μ} {event : GameEvent π}
    {output : List (GameOutput π assets)}
    (done : gameStep assets engine world event = .ok (next, output)) :
    GameStep assets engine world event next output := by
  cases event with
  | beginPlay pawn =>
      rw [gameStep] at done
      split at done
      · rename_i spawned
        rw [UWorld.beginPlay] at done
        split at done
        · rename_i text failed
          obtain ⟨rfl, rfl⟩ := Prod.mk.inj (Except.ok.inj done)
          exact .destroys spawned failed
        · rename_i passed
          obtain ⟨rfl, rfl⟩ := Prod.mk.inj (Except.ok.inj done)
          exact .begins spawned passed
      · cases done
  | play pawn event =>
      rw [gameStep] at done
      split at done
      · rename_i begun
        split at done
        · cases done
        · rename_i after records reaction
          obtain ⟨rfl, rfl⟩ := Prod.mk.inj (Except.ok.inj done)
          exact .play begun reaction
      · cases done
  | fireTimers order =>
      rw [gameStep] at done
      split at done
      · rename_i turns
        obtain ⟨rfl, rfl⟩ := Prod.mk.inj (Except.ok.inj done)
        exact .fireTimers turns
      · cases done
  | startPlay spawned another =>
      obtain ⟨rfl, rfl⟩ := Prod.mk.inj (Except.ok.inj done)
      exact .startPlay spawned another
  | possess pawn controller =>
      obtain ⟨rfl, rfl⟩ := Prod.mk.inj (Except.ok.inj done)
      exact .possess pawn controller
  | moveActor pawn location rotation =>
      obtain ⟨rfl, rfl⟩ := Prod.mk.inj (Except.ok.inj done)
      exact .moveActor pawn location rotation
  | cameraTick camera =>
      obtain ⟨rfl, rfl⟩ := Prod.mk.inj (Except.ok.inj done)
      exact .cameraTick camera

theorem gameStep_of {engine : Engine} {world next : UWorld π α μ} {event : GameEvent π}
    {output : List (GameOutput π assets)} (step : GameStep assets engine world event next output) :
    gameStep assets engine world event = .ok (next, output) := by
  cases step with
  | destroys spawned failed => rw [gameStep, if_pos spawned, UWorld.beginPlay, failed]
  | begins spawned passed => rw [gameStep, if_pos spawned, UWorld.beginPlay, passed]
  | play begun reaction => rw [gameStep, if_pos begun, reaction]
  | fireTimers turns => rw [gameStep, if_pos turns]
  | _ => rfl

/-! A game to run: the first player's pawn waits for a frame before the camera is there. -/

/-- Angles as this game meets them, in floats. -/
def sampleEngine : Engine where
  atan2 y x := if y = 0 ∧ x < 0 then 13176795 / 4194304 else 0
  radiansToDegrees radians := radians * (180 * 4194304 / 13176795)
  forwardVector rotation := if rotation.yaw = 0 then ⟨1, 0, 0⟩ else ⟨-1, 0, 0⟩
  addLocalRotation rotation turn :=
    ⟨rotation.pitch + turn.pitch, rotation.yaw + turn.yaw, rotation.roll + turn.roll⟩
  targetArmLength := 300

def sampleWorld {π : Type} : UWorld π SampleAtom SampleMove where
  pawns _ := samplePawn .standing
  locations _ := ⟨0, 0, 0⟩
  rotations _ := ⟨0, 0, 0⟩

def sampleGame : List (GameEvent Bool) :=
  [.possess true (some (.playerController 0)), .beginPlay true, .fireTimers [true],
    .possess false (some (.playerController 1)), .beginPlay false, .startPlay true (some false),
    .fireTimers [false, true], .cameraTick 0]

theorem sampleGame_runs :
    ∃ world outputs, runGame sampleAssets sampleEngine sampleWorld sampleGame = .ok (world, outputs) ∧
      world.timers = [] ∧ world.status true = .begunPlay ∧
        world.cameras.map AFGCameraActor.players = [[false, true]] := by
  have ends : (runGame sampleAssets sampleEngine sampleWorld sampleGame).toOption.map (fun final =>
      (final.1.timers, final.1.status true, final.1.cameras.map AFGCameraActor.players)) =
      some ([], .begunPlay, [[false, true]]) := by
    decide +kernel
  cases ran : runGame sampleAssets sampleEngine sampleWorld sampleGame with
  | error fault =>
      rw [ran] at ends
      cases ends
  | ok final =>
      rw [ran] at ends
      obtain ⟨timers, rest⟩ := Prod.mk.inj (Option.some.inj ends)
      obtain ⟨status, players⟩ := Prod.mk.inj rest
      exact ⟨final.1, final.2, rfl, timers, status, players⟩

end SmFighting
