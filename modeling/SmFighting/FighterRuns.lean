import SmFighting.Fighter

namespace SmFighting

variable {α σ μ : Type} [DecidableEq α] {assets : Assets α σ μ}

/-- The pawn is the fighter: it is in its move for its time, and its arrays spell out its frames. -/
structure Stands (pawn : AFGDefaultPawn α μ) (fighter : Fighter α μ) : Prop where
  move : pawn.currentMove = some fighter.move
  time : pawn.timeInCurrentMove = fighter.time
  holds : Holds pawn fighter.buffer
  nonneg : 0 ≤ pawn.inputExpirationTime

omit [DecidableEq α] in
theorem spawned_stands {start : AFGDefaultPawn α μ} (spawned : Spawned start) :
    ∃ move, Stands start ⟨move, 0, []⟩ := by
  obtain ⟨move, initial⟩ := Option.ne_none_iff_exists'.mp (beginPlay_guards spawned.guards).move
  exact ⟨move, initial, spawned.still, ⟨spawned.emptyStamps, spawned.emptyStream⟩, spawned.nonneg⟩

theorem react_operate {pawn after : AFGDefaultPawn α μ} {event : Event}
    {records : List (TickRecord assets)} (reaction : react assets pawn event = .ok (after, records)) :
    after.controls = pawn.controls.operate event := by
  cases event with
  | tick deltaSeconds currentTime =>
      obtain ⟨record, ticked, rfl, -⟩ := react_tick reaction
      obtain ⟨complete, rfl, -, -⟩ := tick_complete ticked
      obtain ⟨stamps, stream, move, time, after⟩ := after_frame complete
      rw [after]
      rfl
  | _ =>
      obtain ⟨rfl, -⟩ := Prod.mk.inj (Except.ok.inj reaction)
      rfl

omit [DecidableEq α] in
theorem stands_seen {pawn : AFGDefaultPawn α μ} {fighter : Fighter α μ} (stands : Stands pawn fighter)
    {deltaSeconds currentTime : Rat} {sample : Sample α}
    (sampled : pawn.sample deltaSeconds currentTime = .ok sample) :
    ∃ seen, (pawn.recordFrame sample.frame.atoms currentTime).pruneInput currentTime = .ok seen ∧
      Holds seen (fighter.held sample) := by
  obtain ⟨-, stamp, -, expiration⟩ := sample_ok.mp sampled
  obtain ⟨seen, pruned, holds⟩ := pruneInput_holds (holds_record stands.holds sample.frame)
    (by exact stands.nonneg)
  rw [stamp] at pruned holds
  refine ⟨seen, pruned, ?_⟩
  rw [Fighter.held, stamp, expiration]
  exact holds

omit [DecidableEq α] in
theorem spendInput_clears {pawn : AFGDefaultPawn α μ} {link : UFGMoveLink assets.state μ}
    {target current : UFGMove assets.state μ} {dataIndex : Nat}
    (clears : ¬ keepsInput link target current) :
    spendInput pawn link target current dataIndex =
      .ok { pawn with inputStream := [], inputTimeStamps := [] } := by
  rw [keepsInput, Bool.not_eq_false] at clears
  rw [spendInput, if_pos clears]
  rfl

omit [DecidableEq α] in
theorem spendInput_consumes {pawn spent : AFGDefaultPawn α μ} {link : UFGMoveLink assets.state μ}
    {target current : UFGMove assets.state μ} {dataIndex : Nat}
    (keeps : keepsInput link target current)
    (done : spendInput pawn link target current dataIndex = .ok spent) :
    dataIndex % 3 = 0 ∧ spent = { pawn with
      inputTimeStamps := pawn.inputTimeStamps.drop (dataIndex / 3)
      inputStream := pawn.inputStream.drop dataIndex } := by
  rcases spendInput_cases done with ⟨clears, -⟩ | ⟨whole, -, -, spent⟩
  · rw [keepsInput, clears] at keeps
    cases keeps
  · exact ⟨whole, spent⟩

theorem tick_step {pawn : AFGDefaultPawn α μ} {fighter : Fighter α μ} (stands : Stands pawn fighter)
    {deltaSeconds currentTime : Rat} {sample : Sample α} {record : TickRecord assets}
    (sampled : pawn.sample deltaSeconds currentTime = .ok sample)
    (ticked : tick assets pawn deltaSeconds currentTime = .ok record) :
    ∃ next, Fighter.Step assets fighter sample record.followed next ∧ Stands record.after next := by
  obtain ⟨complete, rfl, rfl, rfl⟩ := tick_complete ticked
  obtain ⟨recorded, -, delta, -⟩ := sample_ok.mp sampled
  obtain ⟨seen, pruned, holds⟩ := stands_seen stands sampled
  rw [Except.ok.inj (recorded.symm.trans complete.recorded)] at pruned
  rw [Except.ok.inj (pruned.symm.trans complete.pruned)] at holds
  have stream : record.seen.inputStream = fighter.stream sample := holds.stream
  obtain ⟨stamps, cells, move, time, after⟩ := after_frame complete
  have nonneg : 0 ≤ record.after.inputExpirationTime := by
    rw [after]
    exact stands.nonneg
  cases followed : record.followed with
  | none =>
      obtain ⟨current, found, shut, stayed, counted⟩ := complete_stayed complete followed
      obtain rfl := Option.some.inj (found.symm.trans stands.move)
      rw [stands.time, stream] at shut
      refine ⟨_, .stay shut, stayed, ?_, ?_, nonneg⟩
      · rw [counted, stands.time, delta]
      · rcases complete.tried with ⟨current', -, -, ending⟩
        rcases ending with ⟨-, link, -, -, -, -, -, chosen, -⟩ | ⟨-, -, kept⟩
        · rw [followed] at chosen
          cases chosen
        · rw [kept]
          exact ⟨holds.stamps, holds.stream⟩
  | some link =>
      obtain ⟨current, machine, found, first, machineFound, stopped, switched, reset⟩ :=
        complete_followed complete followed
      obtain rfl := Option.some.inj (found.symm.trans stands.move)
      rw [stands.time, stream] at first
      rcases complete.tried with ⟨current', there, -, ending⟩
      rcases ending with ⟨-, link', target, spent, -, targeted, spending, chosen, left⟩ |
        ⟨-, stayed, -⟩
      · obtain rfl : link = link' := Option.some.inj (followed.symm.trans chosen)
        obtain ⟨stamps', stream', seen'⟩ := seen_frame complete
        obtain rfl : current' = fighter.move := by
          rw [seen'] at there
          exact Option.some.inj (there.symm.trans stands.move)
        rw [targeted] at switched
        by_cases keeps : keepsInput link (assets.move target) (assets.move fighter.move)
        · obtain ⟨whole, rfl⟩ := spendInput_consumes keeps spending
          have used : record.moveLinkToFollow.smResult.dataIndex =
              3 * (record.moveLinkToFollow.smResult.dataIndex / 3) :=
            (Nat.mul_div_cancel' (Nat.dvd_of_mod_eq_zero whole)).symm
          have stops : record.moveLinkToFollow.smResult.dataIndex =
              (finish assets.state (fighter.stream sample) machine.1 0).2 := by
            rw [stopped, stream]
            rfl
          refine ⟨_, .consume first targeted keeps machineFound (stops.symm.trans used), switched,
            reset, ?_, nonneg⟩
          rw [left]
          apply holds_drop holds rfl
          rw [← used]
        · rw [spendInput_clears keeps] at spending
          obtain rfl := Except.ok.inj spending
          refine ⟨_, .clear first targeted keeps, switched, reset, ?_, nonneg⟩
          rw [left]
          exact ⟨rfl, rfl⟩
      · rw [followed] at stayed
        cases stayed

theorem tick_possible {pawn : AFGDefaultPawn α μ} {fighter next : Fighter α μ} (linked : Linked assets)
    (stands : Stands pawn fighter) {deltaSeconds currentTime : Rat} {sample : Sample α}
    (sampled : pawn.sample deltaSeconds currentTime = .ok sample)
    {followed : Option (UFGMoveLink assets.state μ)}
    (acts : Fighter.Step assets fighter sample followed next) :
    ∃ record, tick assets pawn deltaSeconds currentTime = .ok record := by
  cases ticked : tick assets pawn deltaSeconds currentTime with
  | ok record => exact ⟨record, rfl⟩
  | error fault =>
      exfalso
      obtain ⟨recorded, -, -, -⟩ := sample_ok.mp sampled
      obtain ⟨held, prunedHeld, holds⟩ := stands_seen stands sampled
      have seenHeld : ∀ atoms seen, pawn.frameAtoms = .ok atoms →
          (pawn.recordFrame atoms currentTime).pruneInput currentTime = .ok seen → seen = held := by
        intro atoms seen recorded' pruned
        rw [← Except.ok.inj (recorded.symm.trans recorded')] at pruned
        exact Except.ok.inj (pruned.symm.trans prunedHeld)
      cases tick_error ticked with
      | frameAtoms failed => cases failed.symm.trans recorded
      | pruneInput recorded' failed =>
          rw [← Except.ok.inj (recorded.symm.trans recorded')] at failed
          cases failed.symm.trans prunedHeld
      | currentMove recorded' pruned null =>
          obtain ⟨stamps, stream, rfl⟩ := AFGDefaultPawn.pruneInput_frame pruned
          cases null.symm.trans stands.move
      | tryLinks recorded' pruned found failed =>
          obtain ⟨result, done⟩ := tryLinks_total _ _ _ {} (linked _)
          cases failed.symm.trans done
      | @spendInput _ _ seen current target result link recorded' pruned found tried accepted targeted
          there spending =>
          rw [← seenHeld _ seen recorded' pruned] at holds
          obtain ⟨stamps, stream, frame⟩ := AFGDefaultPawn.pruneInput_frame pruned
          obtain ⟨link', machine, first, linked', machineFound, stopped⟩ :=
            tryLinks_result tried accepted
          obtain rfl : link = link' := Option.some.inj (targeted.symm.trans linked')
          have current' : current = fighter.move := by
            rw [frame] at found
            exact Option.some.inj (found.symm.trans stands.move)
          subst current'
          have time : seen.timeInCurrentMove = fighter.time := by
            rw [frame]
            exact stands.time
          obtain ⟨flags, broken⟩ := spendInput_error spending
          have uneven : result.smResult.dataIndex % 3 ≠ 0 := by
            rcases broken with ⟨-, uneven⟩ | ⟨-, whole, short⟩
            · exact uneven
            · have inside := holds_consumes holds tried accepted whole
              omega
          rw [time] at first
          have streams : seen.inputStream = fighter.stream sample := holds.stream
          rw [streams] at first
          cases acts with
          | clear first' targeted' clears =>
              obtain rfl := firstOpening_unique first first'
              obtain rfl := Option.some.inj (there.symm.trans targeted')
              exact clears flags
          | consume first' targeted' keeps found' whole =>
              obtain rfl := firstOpening_unique first first'
              obtain rfl := Option.some.inj (machineFound.symm.trans found')
              rw [stopped, streams] at uneven
              apply uneven
              change (finish assets.state (fighter.stream sample) machine.1 0).2 % 3 = 0
              rw [whole, Nat.mul_mod_right]
          | stay shut => exact shut _ first

variable (assets) in
def Fights : Fighter α μ → List (Sample α) → List (Option (UFGMoveLink assets.state μ)) →
    Fighter α μ → Prop :=
  RelationalRun.Runs (Fighter.Step assets)

theorem react_fights {pawn after : AFGDefaultPawn α μ} {fighter : Fighter α μ}
    (stands : Stands pawn fighter) {event : Event} (clamped : event.Clamped)
    {records : List (TickRecord assets)} (reaction : react assets pawn event = .ok (after, records)) :
    ∃ samples next, takeSample pawn.controls event = .ok (after.controls, samples) ∧
      Fights assets fighter samples (records.map TickRecord.followed) next ∧ Stands after next := by
  have operated := react_operate reaction
  cases event with
  | tick deltaSeconds currentTime =>
      obtain ⟨record, ticked, rfl, rfl⟩ := react_tick reaction
      obtain ⟨complete, same, -, -⟩ := tick_complete ticked
      have recorded := complete.recorded
      rw [same] at recorded
      have sampled : pawn.sample deltaSeconds currentTime = .ok
          ⟨⟨currentTime, record.atoms, AFGDefaultPawn.frameAtoms_whole recorded⟩, deltaSeconds,
            pawn.inputExpirationTime⟩ :=
        sample_ok.mpr ⟨recorded, rfl, rfl, rfl⟩
      obtain ⟨next, acts, stands'⟩ := tick_step stands sampled ticked
      refine ⟨_, next, ?_, RelationalRun.runs_one acts, stands'⟩
      rw [takeSample, controls_sample, sampled, operated]
  | editInputExpirationTime value =>
      obtain ⟨rfl, rfl⟩ := Prod.mk.inj (Except.ok.inj reaction)
      exact ⟨[], fighter, rfl, .stay fighter, stands.move, stands.time,
        ⟨stands.holds.stamps, stands.holds.stream⟩, clamped⟩
  | _ =>
      obtain ⟨rfl, rfl⟩ := Prod.mk.inj (Except.ok.inj reaction)
      exact ⟨[], fighter, rfl, .stay fighter, stands.move, stands.time,
        ⟨stands.holds.stamps, stands.holds.stream⟩, stands.nonneg⟩

theorem run_fights {start pawn : AFGDefaultPawn α μ} {first : Fighter α μ}
    (stands : Stands start first) {events : List Event} (clamped : ∀ event ∈ events, event.Clamped)
    {records : List (TickRecord assets)} (ran : runPawn assets start events = .ok (pawn, records)) :
    ∃ samples fighter, takeSamples start.controls events = .ok (pawn.controls, samples) ∧
      Fights assets first samples (records.map TickRecord.followed) fighter ∧
      Stands pawn fighter := by
  apply EventRun.run_invariant (fun done pawn (records : List (TickRecord assets)) =>
    ∃ samples fighter, takeSamples start.controls done = .ok (pawn.controls, samples) ∧
      Fights assets first samples (records.map TickRecord.followed) fighter ∧ Stands pawn fighter)
    Event.Clamped _ clamped ⟨[], first, rfl, .stay first, stands⟩ ran
  intro done pawn records event after more inv good reaction
  rcases inv with ⟨samples, fighter, sampled, fought, stands⟩
  obtain ⟨taken, next, sampled', fought', stands'⟩ := react_fights stands good reaction
  refine ⟨samples ++ taken, next, ?_, ?_, stands'⟩
  · exact EventRun.run_append.mpr ⟨_, samples, taken, sampled,
      EventRun.run_cons.mpr ⟨_, taken, [], sampled', rfl, (List.append_nil taken).symm⟩, rfl⟩
  · rw [List.map_append]
    exact RelationalRun.runs_append fought fought'

theorem fights_determined {first last last' : Fighter α μ} {samples : List (Sample α)}
    {followed followed' : List (Option (UFGMoveLink assets.state μ))}
    (one : Fights assets first samples followed last)
    (other : Fights assets first samples followed' last') : followed = followed' ∧ last = last' :=
  RelationalRun.runs_deterministic fighter_determined one other

/-- As long as the fighter can fight on, no Tick of the pawn fails. -/
theorem fights_run {start : AFGDefaultPawn α μ} {first last : Fighter α μ} (linked : Linked assets)
    (stands : Stands start first) {events : List Event} (clamped : ∀ event ∈ events, event.Clamped)
    {controls : AFGDefaultPawn α μ} {samples : List (Sample α)}
    {followed : List (Option (UFGMoveLink assets.state μ))}
    (sampled : takeSamples start.controls events = .ok (controls, samples))
    (fought : Fights assets first samples followed last) :
    ∃ pawn records, runPawn assets start events = .ok (pawn, records) := by
  cases ran : runPawn assets start events with
  | ok result => exact ⟨result.1, result.2, rfl⟩
  | error fault =>
      exfalso
      obtain ⟨earlier, event, later, pawn, records, rfl, reached, failing⟩ :=
        EventRun.run_error.mp ran
      obtain ⟨deltaSeconds, currentTime, rfl, failed⟩ := react_error.mp failing
      obtain ⟨before, fighter, sampledBefore, foughtBefore, stands'⟩ :=
        run_fights stands (fun event member => clamped event (List.mem_append_left _ member)) reached
      obtain ⟨middle, before', rest, sampledBefore', sampledRest, rfl⟩ :=
        EventRun.run_append.mp sampled
      obtain ⟨rfl, rfl⟩ := Prod.mk.inj (Except.ok.inj (sampledBefore.symm.trans sampledBefore'))
      obtain ⟨next, now, others, taken, -, rfl⟩ := EventRun.run_cons.mp sampledRest
      obtain ⟨sample, sampledNow, -, rfl⟩ := takeSample_tick taken
      rw [controls_sample] at sampledNow
      obtain ⟨fighter', front, back, foughtFront, foughtBack, -⟩ := RelationalRun.runs_split fought
      obtain ⟨-, rfl⟩ := fights_determined foughtBefore foughtFront
      cases foughtBack with
      | act acts _ =>
          obtain ⟨record, ticked⟩ := tick_possible linked stands' sampledNow acts
          cases failed.symm.trans ticked

/-- The pawn is the fighter behind the player's controls. Every run of it that is not aborted is a
fight over the samples that its controls make of the events, with the links that the fighter
follows; and every fight over these samples is such a run. -/
theorem fighter_refined {start : AFGDefaultPawn α μ} {first : Fighter α μ} (linked : Linked assets)
    (stands : Stands start first) {events : List Event}
    (clamped : ∀ event ∈ events, event.Clamped) :
    (∀ pawn (records : List (TickRecord assets)),
      runPawn assets start events = .ok (pawn, records) →
        ∃ samples last, takeSamples start.controls events = .ok (pawn.controls, samples) ∧
          Fights assets first samples (records.map TickRecord.followed) last ∧ Stands pawn last) ∧
    (∀ controls samples followed last,
      takeSamples start.controls events = .ok (controls, samples) →
        Fights assets first samples followed last →
          ∃ pawn records, runPawn assets start events = .ok (pawn, records) ∧
            pawn.controls = controls ∧ records.map TickRecord.followed = followed ∧
            Stands pawn last) := by
  constructor
  · intro pawn records ran
    exact run_fights stands clamped ran
  · intro controls samples followed last sampled fought
    obtain ⟨pawn, records, ran⟩ := fights_run linked stands clamped sampled fought
    obtain ⟨samples', last', sampled', fought', stands'⟩ := run_fights stands clamped ran
    obtain ⟨rfl, rfl⟩ := Prod.mk.inj (Except.ok.inj (sampled'.symm.trans sampled))
    obtain ⟨rfl, rfl⟩ := fights_determined fought' fought
    exact ⟨pawn, records, ran, rfl, rfl, stands'⟩

/-- What the player does counts only as far as it is sampled: pawns that start in the same state of
play and whose events make the same samples run alike, and if one of them is not aborted, neither is
the other. -/
theorem same_samples {start start' pawn : AFGDefaultPawn α μ} {first : Fighter α μ}
    (linked : Linked assets) (stands : Stands start first) (stands' : Stands start' first)
    {events events' : List Event} (clamped : ∀ event ∈ events, event.Clamped)
    (clamped' : ∀ event ∈ events', event.Clamped) {records : List (TickRecord assets)}
    (ran : runPawn assets start events = .ok (pawn, records))
    {controls controls' : AFGDefaultPawn α μ} {samples : List (Sample α)}
    (sampled : takeSamples start.controls events = .ok (controls, samples))
    (sampled' : takeSamples start'.controls events' = .ok (controls', samples)) :
    ∃ pawn' records', runPawn assets start' events' = .ok (pawn', records') ∧
      records'.map TickRecord.followed = records.map TickRecord.followed ∧
      pawn'.currentMove = pawn.currentMove ∧ pawn'.timeInCurrentMove = pawn.timeInCurrentMove ∧
      pawn'.inputTimeStamps = pawn.inputTimeStamps ∧ pawn'.inputStream = pawn.inputStream := by
  obtain ⟨made, last, sampledHere, fought, standing⟩ := run_fights stands clamped ran
  obtain ⟨-, rfl⟩ := Prod.mk.inj (Except.ok.inj (sampledHere.symm.trans sampled))
  obtain ⟨pawn', records', ran'⟩ := fights_run linked stands' clamped' sampled' fought
  obtain ⟨made', last', sampledThere, fought', standing'⟩ := run_fights stands' clamped' ran'
  obtain ⟨-, rfl⟩ := Prod.mk.inj (Except.ok.inj (sampledThere.symm.trans sampled'))
  obtain ⟨same, rfl⟩ := fights_determined fought' fought
  refine ⟨pawn', records', ran', same, ?_, ?_, ?_, ?_⟩
  · rw [standing'.move, standing.move]
  · rw [standing'.time, standing.time]
  · rw [standing'.holds.stamps, standing.holds.stamps]
  · rw [standing'.holds.stream, standing.holds.stream]

theorem sample_linked : Linked sampleAssets := by
  intro move entry member
  cases move <;>
    exact ⟨_, List.mem_singleton.mp member, Option.some_ne_none _⟩

theorem sample_stands : Stands (samplePawn .standing) ⟨.standing, 0, []⟩ where
  move := rfl
  time := rfl
  holds := ⟨rfl, rfl⟩
  nonneg := by decide +kernel

theorem fighter_refined_sample :
    ∃ pawn records samples last,
      runPawn sampleAssets (samplePawn .standing) sampleEvents = .ok (pawn, records) ∧
        takeSamples (samplePawn .standing).controls sampleEvents = .ok (pawn.controls, samples) ∧
        Fights sampleAssets ⟨.standing, 0, []⟩ samples (records.map TickRecord.followed) last ∧
        Stands pawn last := by
  obtain ⟨⟨pawn, records⟩, ran⟩ := sample_runs
  obtain ⟨samples, last, fight⟩ :=
    (fighter_refined sample_linked sample_stands sample_clamped).1 pawn records ran
  exact ⟨pawn, records, samples, last, ran, fight⟩

def nervousEvents : List Event :=
  [.readXAxis (1 / 4), .leftButtonPressed, .tick (1 / 60) 0, .leftButtonReleased,
    .tick (1 / 10) (1 / 10), .leftButtonPressed, .readYAxis (-1 / 3), .leftButtonReleased,
    .leftButtonPressed, .tick (1 / 60) (7 / 60)]

deriving instance DecidableEq for InputFrame, Sample

theorem same_samples_sample :
    ∃ pawn records pawn' records',
      runPawn sampleAssets (samplePawn .standing) sampleEvents = .ok (pawn, records) ∧
        runPawn sampleAssets (samplePawn .standing) nervousEvents = .ok (pawn', records') ∧
        records'.map TickRecord.followed = records.map TickRecord.followed ∧
        pawn'.currentMove = pawn.currentMove := by
  obtain ⟨⟨pawn, records⟩, ran⟩ := sample_runs
  obtain ⟨samples, last, sampled, -, -⟩ := run_fights sample_stands sample_clamped ran
  have clamped : ∀ event ∈ nervousEvents, event.Clamped := by simp [nervousEvents, Event.Clamped]
  have same : (takeSamples (samplePawn .standing).controls nervousEvents).toOption.map Prod.snd =
      (takeSamples (samplePawn .standing).controls sampleEvents).toOption.map Prod.snd := by
    decide +kernel
  rw [sampled] at same
  cases sampled' : takeSamples (samplePawn .standing).controls nervousEvents with
  | error fault =>
      rw [sampled'] at same
      cases same
  | ok result =>
      rcases result with ⟨controls, samples'⟩
      rw [sampled'] at same
      obtain rfl : samples' = samples := Option.some.inj same
      obtain ⟨pawn', records', ran', followed, move, -⟩ := same_samples sample_linked sample_stands
        sample_stands sample_clamped clamped ran sampled sampled'
      exact ⟨pawn, records, pawn', records', ran, ran', followed, move⟩

end SmFighting
