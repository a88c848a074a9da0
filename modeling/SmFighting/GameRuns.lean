import SmFighting.FramePhases
import SmFighting.CameraPlayers

namespace SmFighting

variable {π α σ μ : Type} [DecidableEq π] [DecidableEq α] {assets : Assets α σ μ} {engine : Engine}

structure Fresh (pawn : AFGDefaultPawn α μ) : Prop where
  still : pawn.timeInCurrentMove = 0
  emptyStamps : pawn.inputTimeStamps = []
  emptyStream : pawn.inputStream = []
  nonneg : 0 ≤ pawn.inputExpirationTime

def GameEvent.playOf (pawn : π) : GameEvent π → Option Event
  | .play other event => if other = pawn then some event else none
  | _ => none

omit [DecidableEq α] in
def GameOutput.recordOf (pawn : π) : GameOutput π assets → Option (TickRecord assets)
  | .ticked other record => if other = pawn then some record else none
  | _ => none

theorem playOf_some {pawn : π} {event : GameEvent π} {played : Event}
    (own : event.playOf pawn = some played) : event = .play pawn played := by
  cases event with
  | play other event =>
      rw [GameEvent.playOf] at own
      split at own
      · rename_i same
        rw [same, Option.some.inj own]
      · cases own
  | _ => cases own

theorem gameStep_fault {world : UWorld π α μ} {event : GameEvent π} {pawn : π} {fault : Fault}
    (failed : gameStep assets engine world event = .error (.pawnFault pawn fault)) :
    ∃ played, event = .play pawn played ∧ world.status pawn = .begunPlay ∧
      react assets (world.pawns pawn) played = .error fault := by
  cases event with
  | play other played =>
      rw [gameStep] at failed
      split at failed
      · rename_i begun
        split at failed
        · rename_i reaction
          obtain ⟨rfl, rfl⟩ := GameFault.pawnFault.inj (Except.error.inj failed)
          exact ⟨played, rfl, begun, reaction⟩
        · cases failed
      · cases failed
  | beginPlay other =>
      rw [gameStep] at failed
      split at failed <;> cases failed
  | fireTimers order =>
      rw [gameStep] at failed
      split at failed <;> cases failed
  | _ => cases failed

omit [DecidableEq α] in
theorem useGameCamera_records (world : UWorld π α μ) (other pawn : π) :
    (world.useGameCamera assets other).2.filterMap (GameOutput.recordOf pawn) = [] := by
  rw [UWorld.useGameCamera]
  split
  · split
    · split
      · split <;> rfl
      · rfl
    · rfl
  · rfl

omit [DecidableEq α] in
theorem fireTimers_records (order : List π) (world : UWorld π α μ) (pawn : π) :
    (world.fireTimers assets order).2.filterMap (GameOutput.recordOf pawn) = [] := by
  rw [fireTimers_output, List.filterMap_flatMap]
  exact List.flatMap_eq_nil_iff.mpr (fun other _ => useGameCamera_records world other pawn)

theorem gameStep_pawn {world next : UWorld π α μ} {event : GameEvent π}
    {output : List (GameOutput π assets)}
    (done : gameStep assets engine world event = .ok (next, output)) (pawn : π) :
    (event.playOf pawn = none ∧ next.pawns pawn = world.pawns pawn ∧
        output.filterMap (GameOutput.recordOf pawn) = []) ∨
      ∃ played, event.playOf pawn = some played ∧ world.status pawn = .begunPlay ∧
        react assets (world.pawns pawn) played =
          .ok (next.pawns pawn, output.filterMap (GameOutput.recordOf pawn)) := by
  cases gameStep_cases done with
  | startPlay spawned another =>
      left
      refine ⟨rfl, ?_, rfl⟩
      rcases startPlay_cases engine world spawned another with same | ⟨gameMode, _, _, same⟩ <;>
        rw [same]
  | @fireTimers order turns =>
      left
      obtain ⟨fired, -⟩ := @fireTimers_fired _ _ _ _ assets order { world with timers := [] }
      refine ⟨rfl, ?_, fireTimers_records order _ pawn⟩
      rw [fired.frame]
  | @play other played after records begun reaction =>
      by_cases same : other = pawn
      · subst same
        right
        have kept : (records.map (GameOutput.ticked other)).filterMap
            (GameOutput.recordOf other) = records := by
          rw [List.filterMap_map]
          exact (List.filterMap_congr (fun record _ => if_pos rfl)).trans List.filterMap_some
        refine ⟨played, if_pos rfl, begun, ?_⟩
        simp only [kept, Function.update_self]
        exact reaction
      · left
        refine ⟨if_neg same, Function.update_of_ne (Ne.symm same) _ _, ?_⟩
        rw [List.filterMap_map]
        exact List.filterMap_eq_nil_iff.mpr (fun record _ => if_neg same)
  | _ => exact .inl ⟨rfl, rfl, rfl⟩

/-- Each pawn of a game runs as it would alone, on its own events, with its own records. -/
theorem game_plays {start world : UWorld π α μ} {events : List (GameEvent π)}
    {outputs : List (GameOutput π assets)}
    (ran : runGame assets engine start events = .ok (world, outputs)) (pawn : π) :
    runPawn assets (start.pawns pawn) (events.filterMap (GameEvent.playOf pawn)) =
      .ok (world.pawns pawn, outputs.filterMap (GameOutput.recordOf pawn)) := by
  apply EventRun.run_invariant (fun events (world : UWorld π α μ) outputs =>
    runPawn assets (start.pawns pawn) (events.filterMap (GameEvent.playOf pawn)) =
      .ok (world.pawns pawn, outputs.filterMap (GameOutput.recordOf pawn))) (fun _ => True) _
    (fun _ _ => trivial) rfl ran
  intro done s outputs event t output inv _ reaction
  rw [List.filterMap_append, List.filterMap_append]
  rcases gameStep_pawn reaction pawn with ⟨elsewhere, same, still⟩ | ⟨played, own, -, plays⟩
  · rw [List.filterMap_cons_none elsewhere, List.filterMap_nil, same, still, List.append_nil,
      List.append_nil]
    exact inv
  · rw [List.filterMap_cons_some own, List.filterMap_nil]
    exact EventRun.run_concat inv plays

structure Begun (start world : UWorld π α μ) : Prop where
  untouched : ∀ pawn, world.status pawn = .spawned → world.pawns pawn = start.pawns pawn
  passed : ∀ pawn, world.status pawn = .begunPlay → (start.pawns pawn).beginPlay = .ok ()

theorem begun_step {start world next : UWorld π α μ} {event : GameEvent π}
    {output : List (GameOutput π assets)} (inv : Begun start world)
    (done : gameStep assets engine world event = .ok (next, output)) : Begun start next := by
  cases gameStep_cases done with
  | startPlay spawned another =>
      rcases startPlay_cases engine world spawned another with same | ⟨gameMode, _, _, same⟩
      · rw [same]
        exact inv
      · rw [same]
        exact ⟨inv.untouched, inv.passed⟩
  | @destroys pawn text spawned failed =>
      constructor
      · intro other before
        by_cases same : other = pawn
        · rw [same]
          exact inv.untouched pawn spawned
        · exact inv.untouched other (by simpa [Function.update_of_ne same] using before)
      · intro other begun
        by_cases same : other = pawn
        · simp [same] at begun
        · exact inv.passed other (by simpa [Function.update_of_ne same] using begun)
  | @begins pawn spawned passed =>
      constructor
      · intro other before
        by_cases same : other = pawn
        · rw [same]
          exact inv.untouched pawn spawned
        · exact inv.untouched other
            (by simpa [UWorld.setTimerForNextTick, Function.update_of_ne same] using before)
      · intro other begun
        by_cases same : other = pawn
        · rw [same, ← inv.untouched pawn spawned]
          exact passed
        · exact inv.passed other
            (by simpa [UWorld.setTimerForNextTick, Function.update_of_ne same] using begun)
  | @play pawn played after records begun reaction =>
      refine ⟨fun other before => ?_, inv.passed⟩
      have same : other ≠ pawn := by
        intro same
        change world.status other = .spawned at before
        rw [same, begun] at before
        cases before
      exact (Function.update_of_ne same _ _).trans (inv.untouched other before)
  | @fireTimers order turns =>
      obtain ⟨fired, -⟩ := @fireTimers_fired _ _ _ _ assets order { world with timers := [] }
      rw [fired.frame]
      exact ⟨inv.untouched, inv.passed⟩
  | _ => exact ⟨inv.untouched, inv.passed⟩

/-- With phased assets and complete links no game ever fails, with any number of pawns and whatever
happens in whatever order: no check() aborts it, no null pointer is read and no array is left. -/
theorem game_never_fails {region : σ → Prop} {phase : σ → Nat}
    (phased : PhasedAssets assets region phase) (linked : Linked assets) {start : UWorld π α μ}
    (spawned : ∀ pawn, start.status pawn = .spawned) (fresh : ∀ pawn, Fresh (start.pawns pawn))
    {events : List (GameEvent π)}
    (clamped : ∀ pawn event, .play pawn event ∈ events → event.Clamped) (pawn : π) (fault : Fault) :
    runGame assets engine start events ≠ .error (.pawnFault pawn fault) := by
  intro failed
  obtain ⟨earlier, event, later, world, outputs, rfl, reached, failing⟩ :=
    EventRun.run_error.mp failed
  obtain ⟨played, rfl, begun, failing⟩ := gameStep_fault failing
  have inv : Begun start world := EventRun.run_invariant (fun _ world _ => Begun start world)
    (fun _ => True) (fun _ _ _ _ _ _ inv _ reaction => begun_step inv reaction) (fun _ _ => trivial)
    ⟨fun _ _ => rfl, fun pawn begun => by rw [spawned] at begun; cases begun⟩ reached
  have alone := game_plays reached pawn
  have own : ∀ event ∈ earlier.filterMap (GameEvent.playOf pawn) ++ [played], event.Clamped := by
    intro event member
    rcases List.mem_append.mp member with before | now
    · obtain ⟨raised, inside, own⟩ := List.mem_filterMap.mp before
      obtain rfl := playOf_some own
      exact clamped pawn event (List.mem_append_left _ inside)
    · rw [List.mem_singleton.mp now]
      exact clamped pawn played (by simp)
  obtain ⟨after, records, ran, -⟩ := phased_runs phased linked
    ⟨inv.passed pawn begun, (fresh pawn).still, (fresh pawn).emptyStamps, (fresh pawn).emptyStream,
      (fresh pawn).nonneg⟩ _ own
  obtain ⟨middle, first, rest, before, last, -⟩ := EventRun.run_append.mp ran
  obtain ⟨rfl, rfl⟩ := Prod.mk.inj (Except.ok.inj (before.symm.trans alone))
  obtain ⟨next, output, _, reaction, -, -⟩ := EventRun.run_cons.mp last
  cases reaction.symm.trans failing

theorem game_never_fails_sample :
    runGame jabAssets sampleEngine (sampleWorld : UWorld Bool SampleAtom SampleMove)
      [.beginPlay true, .beginPlay false, .play true .leftButtonPressed, .play false .topButtonPressed,
        .play false .leftButtonPressed, .play true (.tick (1 / 60) 0), .play false (.tick (1 / 60) 0)] ≠
      .error (.pawnFault true .checkFailed) := by
  have fresh : ∀ pawn : Bool, Fresh ((sampleWorld : UWorld Bool SampleAtom SampleMove).pawns pawn) :=
    fun _ => ⟨rfl, rfl, rfl, sample_spawned.nonneg⟩
  exact game_never_fails jab_phased jab_linked (fun _ => rfl) fresh (by simp [Event.Clamped]) true
    .checkFailed

end SmFighting
