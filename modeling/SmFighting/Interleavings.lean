import SmFighting.GameRuns
import SmFighting.Library.Interleaving

namespace SmFighting

variable {π α σ μ : Type} [DecidableEq π] [DecidableEq α] {assets : Assets α σ μ} {engine : Engine}

/-- Which of the pawns, and of the world (`none`), an event is about. A pawn's play is its own. -/
def GameEvent.involves : Option π → GameEvent π → Bool
  | none, .play _ _ => false
  | none, _ => true
  | some pawn, .play other _ => decide (other = pawn)
  | some pawn, .beginPlay other => decide (other = pawn)
  | some _, _ => false

theorem involves_some (event : GameEvent π) : ∃ agent, event.involves agent = true := by
  cases event with
  | play pawn event => exact ⟨some pawn, decide_eq_true rfl⟩
  | _ => exact ⟨none, rfl⟩

def UWorld.withPawn (world : UWorld π α μ) (pawn : π) (fields : AFGDefaultPawn α μ) : UWorld π α μ :=
  { world with pawns := Function.update world.pawns pawn fields }

section
omit [DecidableEq α]

theorem withPawn_own (world : UWorld π α μ) (pawn : π) :
    world.withPawn pawn (world.pawns pawn) = world := by
  rw [UWorld.withPawn, Function.update_eq_self]

theorem withPawn_self (world : UWorld π α μ) (pawn : π) (fields : AFGDefaultPawn α μ) :
    (world.withPawn pawn fields).pawns pawn = fields :=
  Function.update_self _ _ _

theorem withPawn_other (world : UWorld π α μ) {pawn other : π} (different : other ≠ pawn)
    (fields : AFGDefaultPawn α μ) : (world.withPawn pawn fields).pawns other = world.pawns other :=
  Function.update_of_ne different _ _

theorem withPawn_again (world : UWorld π α μ) (pawn : π) (first second : AFGDefaultPawn α μ) :
    (world.withPawn pawn first).withPawn pawn second = world.withPawn pawn second := by
  simp only [UWorld.withPawn, Function.update_idem]

theorem withPawn_comm (world : UWorld π α μ) {pawn other : π} (different : other ≠ pawn)
    (first second : AFGDefaultPawn α μ) :
    (world.withPawn pawn first).withPawn other second =
      (world.withPawn other second).withPawn pawn first := by
  simp only [UWorld.withPawn, Function.update_comm different]

theorem startPlay_withPawn (world : UWorld π α μ) (spawned : Bool) (another : Option π) (pawn : π)
    (fields : AFGDefaultPawn α μ) : (world.withPawn pawn fields).startPlay engine spawned another =
      (world.startPlay engine spawned another).withPawn pawn fields := by
  rw [UWorld.startPlay, UWorld.startPlay]
  rcases mode : world.gameMode with _ | gameMode
  · simp only [UWorld.withPawn, mode]
  · simp only [UWorld.withPawn, mode]
    rcases gameMode.anotherCharacter with _ | _
    · rfl
    · rcases another with _ | other <;> rfl

theorem useGameCamera_withPawn (world : UWorld π α μ) (turn pawn : π) (fields : AFGDefaultPawn α μ) :
    (world.withPawn pawn fields).useGameCamera assets turn =
      ((world.useGameCamera assets turn).1.withPawn pawn fields,
        (world.useGameCamera assets turn).2) := by
  apply Prod.ext
  · have same : (world.withPawn pawn fields).cameraFor turn = world.cameraFor turn := rfl
    simp only [useGameCamera_world, same]
    split <;> rfl
  · rw [UWorld.useGameCamera, UWorld.useGameCamera, UWorld.withPawn]
    rcases world.gameMode with _ | gameMode
    · rfl
    · rcases world.controllers turn with _ | id | _
      · rfl
      · rcases main : gameMode.mainGameCamera with _ | camera
        · simp only [main]
        · simp only [main]
          split <;> rfl
      · rfl

theorem fireTimers_withPawn (order : List π) (world : UWorld π α μ) (pawn : π)
    (fields : AFGDefaultPawn α μ) : (world.withPawn pawn fields).fireTimers assets order =
      ((world.fireTimers assets order).1.withPawn pawn fields, (world.fireTimers assets order).2) := by
  induction order generalizing world with
  | nil => rfl
  | cons turn order ih => simp only [UWorld.fireTimers, useGameCamera_withPawn, ih]

end

theorem gameStep_elsewhere {world next : UWorld π α μ} {event : GameEvent π}
    {output : List (GameOutput π assets)} {pawn : π}
    (elsewhere : event.involves (some pawn) = false)
    (done : gameStep assets engine world event = .ok (next, output)) :
    next.pawns pawn = world.pawns pawn ∧ next.status pawn = world.status pawn ∧
      ∀ fields, gameStep assets engine (world.withPawn pawn fields) event =
        .ok (next.withPawn pawn fields, output) := by
  cases gameStep_cases done with
  | startPlay spawned another =>
      refine ⟨?_, ?_, fun fields => ?_⟩
      · rcases startPlay_cases engine world spawned another with same | ⟨gameMode, _, _, same⟩ <;>
          rw [same]
      · rcases startPlay_cases engine world spawned another with same | ⟨gameMode, _, _, same⟩ <;>
          rw [same]
      · rw [← startPlay_withPawn]
        rfl
  | @destroys other text spawned failed =>
      have different : other ≠ pawn := of_decide_eq_false elsewhere
      refine ⟨rfl, Function.update_of_ne (Ne.symm different) _ _, fun fields => ?_⟩
      have step : GameStep assets engine (world.withPawn pawn fields) (.beginPlay other) _ _ :=
        .destroys spawned (by rw [withPawn_other world different]; exact failed)
      exact gameStep_of step
  | @begins other spawned passed =>
      have different : other ≠ pawn := of_decide_eq_false elsewhere
      refine ⟨rfl, Function.update_of_ne (Ne.symm different) _ _, fun fields => ?_⟩
      have step : GameStep assets engine (world.withPawn pawn fields) (.beginPlay other) _ _ :=
        .begins spawned (by rw [withPawn_other world different]; exact passed)
      exact gameStep_of step
  | @play other event after records begun reaction =>
      have different : other ≠ pawn := of_decide_eq_false elsewhere
      refine ⟨Function.update_of_ne (Ne.symm different) _ _, rfl, fun fields => ?_⟩
      have step : GameStep assets engine (world.withPawn pawn fields) (.play other event)
          ((world.withPawn pawn fields).withPawn other after) _ :=
        .play begun (by rw [withPawn_other world different]; exact reaction)
      rw [withPawn_comm world different] at step
      exact gameStep_of step
  | @fireTimers order turns =>
      obtain ⟨fired, -⟩ := @fireTimers_fired _ _ _ _ assets order { world with timers := [] }
      refine ⟨by rw [fired.frame], by rw [fired.frame], fun fields => ?_⟩
      have step : GameStep assets engine (world.withPawn pawn fields) (.fireTimers order)
          (({ world with timers := [] }.withPawn pawn fields).fireTimers assets order).1
          (({ world with timers := [] }.withPawn pawn fields).fireTimers assets order).2 :=
        .fireTimers turns
      rw [fireTimers_withPawn] at step
      exact gameStep_of step
  | _ => exact ⟨rfl, rfl, fun fields => rfl⟩

theorem gameStep_play {world next : UWorld π α μ} {pawn : π} {event : Event}
    {output : List (GameOutput π assets)} :
    gameStep assets engine world (.play pawn event) = .ok (next, output) ↔
      world.status pawn = .begunPlay ∧ ∃ after records,
        react assets (world.pawns pawn) event = .ok (after, records) ∧
          next = world.withPawn pawn after ∧ output = records.map (GameOutput.ticked pawn) := by
  constructor
  · intro done
    cases gameStep_cases done with
    | @play _ _ after records begun reaction => exact ⟨begun, after, records, reaction, rfl, rfl⟩
  · intro parts
    rcases parts with ⟨begun, after, records, reaction, rfl, rfl⟩
    exact gameStep_of (.play begun reaction)

theorem play_sooner {s t u : UWorld π α μ} {pawn : π} {event : Event} {other : GameEvent π}
    {first second : List (GameOutput π assets)} (elsewhere : other.involves (some pawn) = false)
    (before : gameStep assets engine s other = .ok (t, first))
    (after : gameStep assets engine t (.play pawn event) = .ok (u, second)) :
    ∃ v, gameStep assets engine s (.play pawn event) = .ok (v, second) ∧
      gameStep assets engine v other = .ok (u, first) := by
  obtain ⟨begun, fields, records, reaction, rfl, rfl⟩ := gameStep_play.mp after
  obtain ⟨pawns, status, moved⟩ := gameStep_elsewhere elsewhere before
  rw [pawns] at reaction
  rw [status] at begun
  exact ⟨s.withPawn pawn fields, gameStep_play.mpr ⟨begun, fields, records, reaction, rfl, rfl⟩,
    moved fields⟩

theorem play_later {s t u : UWorld π α μ} {pawn : π} {event : Event} {other : GameEvent π}
    {first second : List (GameOutput π assets)} (elsewhere : other.involves (some pawn) = false)
    (before : gameStep assets engine s (.play pawn event) = .ok (t, first))
    (after : gameStep assets engine t other = .ok (u, second)) :
    ∃ v, gameStep assets engine s other = .ok (v, second) ∧
      gameStep assets engine v (.play pawn event) = .ok (u, first) := by
  obtain ⟨begun, fields, records, reaction, rfl, rfl⟩ := gameStep_play.mp before
  obtain ⟨pawns, status, moved⟩ := gameStep_elsewhere elsewhere after
  have back := moved (s.pawns pawn)
  rw [withPawn_again, withPawn_own] at back
  refine ⟨_, back, gameStep_play.mpr ⟨status.trans begun, fields, records, ?_, ?_, rfl⟩⟩
  · rw [withPawn_self]
    exact reaction
  · rw [withPawn_self] at pawns
    rw [withPawn_again, ← pawns, withPawn_own]

theorem gameStep_commutes (s t u : UWorld π α μ) (a b : GameEvent π)
    (first second : List (GameOutput π assets)) (apart : Interleaving.Apart GameEvent.involves a b)
    (before : gameStep assets engine s a = .ok (t, first))
    (after : gameStep assets engine t b = .ok (u, second)) :
    ∃ v, gameStep assets engine s b = .ok (v, second) ∧
      gameStep assets engine v a = .ok (u, first) := by
  by_cases world : a.involves none = true
  · have other := apart none world
    cases b with
    | play pawn event =>
        have elsewhere : a.involves (some pawn) = false := by
          apply Bool.eq_false_iff.mpr
          intro own
          exact absurd rfl (of_decide_eq_false (apart (some pawn) own))
        exact play_sooner elsewhere before after
    | _ => cases other
  · cases a with
    | play pawn event => exact play_later (apart (some pawn) (decide_eq_true rfl)) before after
    | _ => exact absurd rfl world

/-- However the events of the pawns and of the world fall between each other, the game comes to the
same end, with the same outputs in some order and the same Ticks of each pawn in theirs. -/
theorem interleavings_agree {start world : UWorld π α μ} {events events' : List (GameEvent π)}
    {outputs : List (GameOutput π assets)}
    (same : Interleaving.SameEvents GameEvent.involves events events')
    (ran : runGame assets engine start events = .ok (world, outputs)) :
    ∃ outputs', runGame assets engine start events' = .ok (world, outputs') ∧ outputs.Perm outputs' ∧
      ∀ pawn, outputs'.filterMap (GameOutput.recordOf pawn) =
        outputs.filterMap (GameOutput.recordOf pawn) := by
  obtain ⟨outputs', ran', order⟩ := Interleaving.run_interleaved gameStep_commutes involves_some same ran
  refine ⟨outputs', ran', order, fun pawn => ?_⟩
  have own : ∀ events : List (GameEvent π), events.filterMap (GameEvent.playOf pawn) =
      (events.filter (GameEvent.involves (some pawn))).filterMap (GameEvent.playOf pawn) := by
    intro events
    rw [List.filterMap_filter]
    congr 1
    funext event
    cases event with
    | play other event =>
        by_cases self : other = pawn
        · rw [GameEvent.involves, decide_eq_true self, if_pos rfl]
        · rw [GameEvent.involves, decide_eq_false self, GameEvent.playOf, if_neg self]
          rfl
    | beginPlay other => exact (ite_self _).symm
    | _ => rfl
  have alone := game_plays ran pawn
  have alone' := game_plays ran' pawn
  rw [own, same, ← own, alone] at alone'
  exact (Prod.mk.inj (Except.ok.inj alone')).2.symm

def sharedGame : List (GameEvent Bool) :=
  [.beginPlay true, .beginPlay false, .play true .leftButtonPressed, .play true (.tick (1 / 60) 0),
    .fireTimers [true, false], .play false (.readXAxis 1), .play false (.tick (1 / 60) 0)]

theorem interleavings_agree_sample :
    ∃ world outputs outputs',
      runGame sampleAssets sampleEngine sampleWorld sharedGame = .ok (world, outputs) ∧
        runGame sampleAssets sampleEngine sampleWorld
          [.beginPlay true, .play true .leftButtonPressed, .beginPlay false, .play false (.readXAxis 1),
            .play false (.tick (1 / 60) 0), .fireTimers [true, false],
            .play true (.tick (1 / 60) 0)] = .ok (world, outputs') ∧ outputs.Perm outputs' := by
  have ends : (runGame sampleAssets sampleEngine sampleWorld sharedGame).toOption.isSome = true := by
    decide +kernel
  cases ran : runGame sampleAssets sampleEngine sampleWorld sharedGame with
  | error fault =>
      rw [ran] at ends
      cases ends
  | ok final =>
      have same : Interleaving.SameEvents GameEvent.involves sharedGame
          [.beginPlay true, .play true .leftButtonPressed, .beginPlay false, .play false (.readXAxis 1),
            .play false (.tick (1 / 60) 0), .fireTimers [true, false],
            .play true (.tick (1 / 60) 0)] := by
        intro agent
        rcases agent with _ | _ | _ <;> rfl
      obtain ⟨outputs', ran', order, -⟩ := interleavings_agree same ran
      exact ⟨final.1, final.2, outputs', rfl, ran', order⟩

end SmFighting
