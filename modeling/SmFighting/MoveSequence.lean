import SmFighting.FrameBuffer

namespace SmFighting

variable {α σ μ : Type} [DecidableEq α] {assets : Assets α σ μ}

/-- What BeginPlay guards. -/
structure Guarded (pawn : AFGDefaultPawn α μ) : Prop where
  move : pawn.currentMove ≠ none
  directions : ∀ direction, pawn.directionAtom direction ≠ none
  buttons : ∀ i < EFGButtonState.count, ∃ atom, pawn.buttonAtoms[i]? = some (some atom)

/-- A pawn that BeginPlay has let through and that has not been played yet. -/
structure Spawned (start : AFGDefaultPawn α μ) : Prop where
  guards : start.beginPlay = .ok ()
  still : start.timeInCurrentMove = 0
  emptyStamps : start.inputTimeStamps = []
  emptyStream : start.inputStream = []
  nonneg : 0 ≤ start.inputExpirationTime

omit [DecidableEq α] in
theorem beginPlay_guards {pawn : AFGDefaultPawn α μ} (passed : pawn.beginPlay = .ok ()) :
    Guarded pawn := by
  rw [AFGDefaultPawn.beginPlay] at passed
  split at passed
  · cases passed
  · rename_i move
    split at passed
    · cases passed
    · rename_i directions
      split at passed
      · cases passed
      · rename_i buttons
        simp only [Bool.or_eq_true, Option.isNone_iff_eq_none, not_or] at move directions
        refine ⟨move, ?_, ?_⟩
        · obtain ⟨⟨⟨⟨⟨⟨⟨⟨downBack, down⟩, downForward⟩, back⟩, neutral⟩, forward⟩, upBack⟩, up⟩,
            upForward⟩ := directions
          intro direction
          cases direction <;> assumption
        · intro i inside
          have entry : ¬ (!isValidIndex pawn.buttonAtoms i ||
              (pawn.buttonAtoms[i]?.join).isNone) = true := by
            intro bad
            exact buttons (List.any_eq_true.mpr ⟨i, List.mem_range.mpr inside, bad⟩)
          cases found : pawn.buttonAtoms[i]? with
          | none => simp [found] at entry
          | some atom =>
              cases atom with
              | none => simp [found] at entry
              | some atom => exact ⟨atom, rfl⟩

omit [DecidableEq α] in
theorem guarded_frameAtoms {pawn : AFGDefaultPawn α μ} (guarded : Guarded pawn) :
    ∃ atoms, pawn.frameAtoms = .ok atoms := by
  obtain ⟨directional, found⟩ := Option.ne_none_iff_exists'.mp (guarded.directions pawn.direction)
  have button : ∀ i, ∃ atom, pawn.buttonAtom i = .ok atom := by
    intro i
    have inside : (buttonState pawn.buttonsDown pawn.buttonsDownOld i).toNat <
        EFGButtonState.count := by
      cases buttonState pawn.buttonsDown pawn.buttonsDownOld i <;> decide
    obtain ⟨atom, present⟩ := guarded.buttons _ inside
    exact ⟨some atom, by rw [AFGDefaultPawn.buttonAtom, present]⟩
  obtain ⟨left, leftRead⟩ := button 0
  obtain ⟨top, topRead⟩ := button 1
  exact ⟨_, AFGDefaultPawn.frameAtoms_ok.mpr ⟨directional, left, top, found, leftRead, topRead, rfl⟩⟩

def Linked (assets : Assets α σ μ) : Prop :=
  ∀ move, ∀ entry ∈ (assets.move move).linkedMoves, ∃ link, entry = some link ∧ link.move ≠ none

theorem tick_onlyChecks {pawn : AFGDefaultPawn α μ} {records : List (TickRecord assets)}
    {history buffer : List (InputFrame α)} {gone : Nat} (linked : Linked assets)
    (guarded : Guarded pawn) (inv : BufferInv pawn records history gone buffer)
    {deltaSeconds currentTime : Rat} {fault : Fault}
    (failed : tick assets pawn deltaSeconds currentTime = .error fault) : fault = .checkFailed := by
  cases tick_error failed with
  | frameAtoms failed =>
      obtain ⟨atoms, recorded⟩ := guarded_frameAtoms guarded
      cases failed.symm.trans recorded
  | pruneInput recorded failed =>
      obtain ⟨seen, held, pruned, -⟩ := bufferInv_prunes inv recorded currentTime
      cases failed.symm.trans pruned
  | currentMove recorded pruned null =>
      obtain ⟨stamps, stream, rfl⟩ := AFGDefaultPawn.pruneInput_frame pruned
      exact absurd null guarded.move
  | tryLinks recorded pruned found failed =>
      obtain ⟨result, done⟩ := tryLinks_total _ _ _ {} (linked _)
      cases failed.symm.trans done
  | spendInput recorded pruned found tried accepted targeted there spending =>
      rcases (spendInput_error spending).2 with ⟨checked, -⟩ | ⟨rfl, -⟩
      · exact checked
      · rcases bufferInv_fault inv failed with impossible | impossible | impossible <;>
          cases impossible

structure FollowsFirst (record : TickRecord assets) (current : μ) : Prop where
  seen : (record.before.recordFrame record.atoms record.currentTime).pruneInput
    record.currentTime = .ok record.seen
  follows : record.followed ≠ none ↔ ∃ link, some link ∈ (assets.move current).linkedMoves ∧
    Opens link record.before.timeInCurrentMove record.seen.inputStream
  least : ∀ link, record.followed = some link →
    ∃ i : Nat, (assets.move current).linkedMoves[i]? = some (some link) ∧
      Opens link record.before.timeInCurrentMove record.seen.inputStream ∧
      ∀ j < i, ∀ other, (assets.move current).linkedMoves[j]? = some (some other) →
        ¬ Opens other record.before.timeInCurrentMove record.seen.inputStream
  switches : ∀ link, record.followed = some link →
    record.after.currentMove = link.move ∧ record.after.timeInCurrentMove = 0
  stays : record.followed = none → record.after.currentMove = some current ∧
    record.after.timeInCurrentMove = record.before.timeInCurrentMove + record.deltaSeconds

theorem tick_followsFirst {record : TickRecord assets} (complete : record.Complete)
    (linked : Linked assets) :
    ∃ current, record.before.currentMove = some current ∧ FollowsFirst record current := by
  cases followed : record.followed with
  | some link =>
      obtain ⟨current, machine, found, first, -, -, switched, reset⟩ :=
        complete_followed complete followed
      obtain ⟨i, located, opens, least⟩ := firstOpening_index first
      have same : ∀ other, record.followed = some other → other = link := by
        intro other chosen
        exact Option.some.inj (chosen.symm.trans followed)
      refine ⟨current, found, complete.pruned, ?_, ?_, ?_, ?_⟩
      · exact ⟨fun _ => ⟨link, List.mem_of_getElem? located, opens⟩, fun _ => by simp [followed]⟩
      · intro other chosen
        rw [same other chosen]
        exact ⟨i, located, opens, least⟩
      · intro other chosen
        rw [same other chosen]
        exact ⟨switched, reset⟩
      · intro stayed
        rw [stayed] at followed
        cases followed
  | none =>
      obtain ⟨current, found, shut, stayed, counted⟩ := complete_stayed complete followed
      have chosen : ∀ link, record.followed ≠ some link := by
        intro link
        rw [followed]
        exact (Option.some_ne_none link).symm
      refine ⟨current, found, complete.pruned, ?_, ?_, ?_, fun _ => ⟨stayed, counted⟩⟩
      · constructor
        · intro follows
          exact absurd followed follows
        · intro opening
          rcases opening with ⟨link, member, opens⟩
          obtain ⟨first, least⟩ := firstOpening_exists (linked current) member opens
          exact absurd least (shut first)
      · intro link impossible
        exact absurd impossible (chosen link)
      · intro link impossible
        exact absurd impossible (chosen link)

def moveAfter (move : Option μ) (records : List (TickRecord assets)) : Option μ :=
  records.foldl (fun move record => match record.followed with
    | some link => link.move
    | none => move) move

/-- The DeltaSeconds of the Ticks behind the latest one that followed a link. -/
def timeInMove (records : List (TickRecord assets)) : Rat :=
  ((records.reverse.takeWhile (fun record => record.followed.isNone)).map
    TickRecord.deltaSeconds).sum

omit [DecidableEq α] in
theorem moveAfter_concat (move : Option μ) (records : List (TickRecord assets))
    (record : TickRecord assets) :
    moveAfter move (records ++ [record]) =
      match record.followed with
      | some link => link.move
      | none => moveAfter move records := by
  rw [moveAfter, List.foldl_append]
  rfl

omit [DecidableEq α] in
theorem timeInMove_concat (records : List (TickRecord assets)) (record : TickRecord assets) :
    timeInMove (records ++ [record]) =
      match record.followed with
      | some _ => 0
      | none => timeInMove records + record.deltaSeconds := by
  rw [timeInMove, List.reverse_append, List.reverse_singleton, List.singleton_append,
    List.takeWhile_cons]
  cases record.followed with
  | some link => rfl
  | none => exact add_comm _ _

theorem timeInMove_tick {record : TickRecord assets} {records : List (TickRecord assets)}
    (complete : record.Complete) (timed : record.before.timeInCurrentMove = timeInMove records) :
    record.after.timeInCurrentMove = timeInMove (records ++ [record]) := by
  rw [timeInMove_concat]
  cases followed : record.followed with
  | some link =>
      obtain ⟨current, machine, -, -, -, -, -, reset⟩ := complete_followed complete followed
      exact reset
  | none =>
      obtain ⟨current, -, -, -, counted⟩ := complete_stayed complete followed
      rw [counted, timed]

structure MoveInv (move : Option μ) (pawn : AFGDefaultPawn α μ)
    (records : List (TickRecord assets)) : Prop where
  guarded : Guarded pawn
  moved : pawn.currentMove = moveAfter move records
  timed : pawn.timeInCurrentMove = timeInMove records
  ticks : ∀ number (record : TickRecord assets), records[number]? = some record →
    (∃ current, record.before.currentMove = some current ∧ FollowsFirst record current) ∧
    record.before.currentMove = moveAfter move (records.take number) ∧
    record.after.timeInCurrentMove = timeInMove (records.take (number + 1))

theorem moveInv_tick {move : Option μ} {record : TickRecord assets}
    {records : List (TickRecord assets)} (linked : Linked assets)
    (inv : MoveInv move record.before records) (complete : record.Complete) :
    MoveInv move record.after (records ++ [record]) := by
  obtain ⟨current, found, follows⟩ := tick_followsFirst complete linked
  have timed := timeInMove_tick complete inv.timed
  have moved : record.after.currentMove = moveAfter move (records ++ [record]) ∧
      record.after.currentMove ≠ none := by
    rw [moveAfter_concat]
    cases followed : record.followed with
    | some link =>
        obtain ⟨switched, -⟩ := follows.switches link followed
        obtain ⟨i, located, -⟩ := follows.least link followed
        obtain ⟨link', same, target⟩ := linked current _ (List.mem_of_getElem? located)
        obtain rfl := Option.some.inj same
        exact ⟨switched, switched ▸ target⟩
    | none =>
        obtain ⟨stayed, -⟩ := follows.stays followed
        rw [stayed, ← inv.moved, found]
        exact ⟨rfl, Option.some_ne_none current⟩
  rcases moved with ⟨moved, there⟩
  obtain ⟨stamps, stream, target, time, after⟩ := after_frame complete
  refine ⟨⟨there, ?_, ?_⟩, moved, timed, ?_⟩
  · rw [after]
    exact inv.guarded.directions
  · rw [after]
    exact inv.guarded.buttons
  · intro number found' located
    rcases Window.push_cases located with ⟨old, located⟩ | ⟨rfl, rfl⟩
    · rw [List.take_append_of_le_length (by omega), List.take_append_of_le_length (by omega)]
      exact inv.ticks number found' located
    · rw [List.take_left, List.take_of_length_le (by simp)]
      exact ⟨⟨current, found, follows⟩, inv.moved, timed⟩

theorem run_moveInv {start pawn : AFGDefaultPawn α μ} {events : List Event}
    {records : List (TickRecord assets)} (linked : Linked assets)
    (guards : start.beginPlay = .ok ()) (still : start.timeInCurrentMove = 0)
    (ran : runPawn assets start events = .ok (pawn, records)) :
    MoveInv start.currentMove pawn records := by
  apply EventRun.run_invariant (fun _ pawn records => MoveInv start.currentMove pawn records)
    (fun _ => True) _ (fun _ _ => trivial) ⟨beginPlay_guards guards, rfl, still, _⟩ ran
  · intro done s outputs event t output inv _ reaction
    rcases react_cases reaction with ⟨record, complete, rfl, rfl, rfl⟩ | ⟨_, _, _, rfl, rfl⟩
    · exact moveInv_tick linked inv complete
    · rw [List.append_nil]
      exact ⟨⟨inv.guarded.move, inv.guarded.directions, inv.guarded.buttons⟩, inv.moved, inv.timed,
        inv.ticks⟩
  · intro number record located
    cases located

/-- A run that no check() aborts never fails. Its moves are a walk of the move graph in which every
Tick follows the link of least index that opens, or stays and counts the time. -/
theorem move_walk {start : AFGDefaultPawn α μ} {events : List Event} (linked : Linked assets)
    (guards : start.beginPlay = .ok ()) (still : start.timeInCurrentMove = 0)
    (emptyStamps : start.inputTimeStamps = []) (emptyStream : start.inputStream = [])
    (nonneg : 0 ≤ start.inputExpirationTime) (clamped : ∀ event ∈ events, event.Clamped)
    (unaborted : runPawn assets start events ≠ .error .checkFailed) :
    ∃ pawn records, runPawn assets start events = .ok (pawn, records) ∧
      pawn.currentMove ≠ none ∧ pawn.currentMove = moveAfter start.currentMove records ∧
      ∀ number (record : TickRecord assets), records[number]? = some record →
        (∃ current, record.before.currentMove = some current ∧ FollowsFirst record current) ∧
        record.before.currentMove = moveAfter start.currentMove (records.take number) ∧
        record.after.timeInCurrentMove = timeInMove (records.take (number + 1)) := by
  cases ran : runPawn assets start events with
  | error fault =>
      obtain ⟨earlier, event, later, pawn, records, rfl, reached, failing⟩ :=
        EventRun.run_error.mp ran
      obtain ⟨deltaSeconds, currentTime, rfl, failed⟩ := react_error.mp failing
      have clampedEarlier : ∀ event ∈ earlier, event.Clamped :=
        fun event member => clamped event (List.mem_append_left _ member)
      obtain ⟨history, gone, buffer, inv⟩ :=
        run_bufferInv emptyStamps emptyStream nonneg clampedEarlier reached
      have guarded := (run_moveInv linked guards still reached).guarded
      rw [tick_onlyChecks linked guarded inv failed] at ran
      exact absurd ran unaborted
  | ok reached =>
      rcases reached with ⟨pawn, records⟩
      have inv := run_moveInv linked guards still ran
      exact ⟨pawn, records, rfl, inv.guarded.move, inv.moved, inv.ticks⟩

theorem move_walk_sample :
    ∃ pawn records, runPawn sampleAssets (samplePawn .standing) sampleEvents = .ok (pawn, records) ∧
      pawn.currentMove ≠ none ∧ pawn.currentMove = moveAfter (some .standing) records ∧
      ∀ number record, records[number]? = some record →
        (∃ current, record.before.currentMove = some current ∧ FollowsFirst record current) ∧
        record.before.currentMove = moveAfter (some .standing) (records.take number) ∧
        record.after.timeInCurrentMove = timeInMove (records.take (number + 1)) := by
  have linked : Linked sampleAssets := by
    intro move entry member
    cases move <;>
      exact ⟨_, List.mem_singleton.mp member, Option.some_ne_none _⟩
  exact move_walk linked (by decide +kernel) rfl rfl rfl (by decide +kernel) sample_clamped
    sample_unaborted

end SmFighting
