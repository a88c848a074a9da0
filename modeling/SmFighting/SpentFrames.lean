import SmFighting.FrameBuffer

namespace SmFighting

variable {α σ μ : Type} [DecidableEq α] {assets : Assets α σ μ}

/-- The tags of the buffer after prune: tag `number` joins at the back, and as many tags leave at the
front as time stamps did. -/
def tagsSeen (held : List Nat) (number : Nat) (record : TickRecord assets) : List Nat :=
  (held ++ [number]).drop (held.length + 1 - record.seen.inputTimeStamps.length)

def tagsAfter (held : List Nat) (number : Nat) (record : TickRecord assets) : List Nat :=
  (tagsSeen held number record).drop
    (record.seen.inputTimeStamps.length - record.after.inputTimeStamps.length)

def heldTags (records : List (TickRecord assets)) : Nat → List Nat
  | 0 => []
  | count + 1 =>
      match records[count]? with
      | none => heldTags records count
      | some record => tagsAfter (heldTags records count) count record

def seenTags (records : List (TickRecord assets)) (number : Nat) : List Nat :=
  match records[number]? with
  | none => []
  | some record => tagsSeen (heldTags records number) number record

def acceptedMoves (record : TickRecord assets) : List Move :=
  match record.followed.bind UFGMoveLink.inputStateMachine with
  | some machine => moves assets.state record.seen.inputStream machine.1 0
  | none => []

def Spends (record : TickRecord assets) (x : Nat) : Prop :=
  ⟨.transition, x⟩ ∈ acceptedMoves record

omit [DecidableEq α] in
theorem heldTags_append (records : List (TickRecord assets)) (record : TickRecord assets)
    (count : Nat) (bound : count ≤ records.length) :
    heldTags (records ++ [record]) count = heldTags records count := by
  induction count with
  | zero => rfl
  | succ count ih =>
      rw [heldTags, heldTags, List.getElem?_append_left (by omega), ih (by omega)]

omit [DecidableEq α] in
theorem seenTags_append (records : List (TickRecord assets)) (record : TickRecord assets)
    (number : Nat) (bound : number < records.length) :
    seenTags (records ++ [record]) number = seenTags records number := by
  rw [seenTags, seenTags, List.getElem?_append_left bound, heldTags_append _ _ _ (by omega)]

omit [DecidableEq α] in
theorem seenTags_last (records : List (TickRecord assets)) (record : TickRecord assets) :
    seenTags (records ++ [record]) records.length =
      tagsSeen (heldTags records records.length) records.length record := by
  rw [seenTags, List.getElem?_concat_length, heldTags_append _ _ _ (Nat.le_refl _)]

omit [DecidableEq α] in
theorem heldTags_last (records : List (TickRecord assets)) (record : TickRecord assets) :
    heldTags (records ++ [record]) (records ++ [record]).length =
      tagsAfter (heldTags records records.length) records.length record := by
  rw [List.length_append, List.length_singleton, heldTags, List.getElem?_concat_length,
    heldTags_append _ _ _ (Nat.le_refl _)]

/-- Every atom that an accepted run takes lies below the index that it returns. -/
theorem spends_below {record : TickRecord assets} (complete : record.Complete) {x : Nat}
    (spends : Spends record x) : record.followed ≠ none ∧
      x < record.moveLinkToFollow.smResult.dataIndex ∧ x < record.seen.inputStream.length := by
  rw [Spends, acceptedMoves] at spends
  cases followed : record.followed with
  | none =>
      rw [followed] at spends
      cases spends
  | some link =>
      obtain ⟨current, machine, -, -, found, stopped, -, -⟩ := complete_followed complete followed
      rw [followed, Option.bind_some, found] at spends
      obtain ⟨-, inside, high⟩ := reaches_move_bounds
        (moves_halts assets.state record.seen.inputStream machine.1 0).1 _ spends
      refine ⟨Option.some_ne_none link, ?_, inside⟩
      rw [stopped]
      exact Nat.lt_of_succ_le high

def HonestTags (records : List (TickRecord assets)) (number : Nat) (record : TickRecord assets) :
    Prop :=
  record.seen.inputTimeStamps.length = (seenTags records number).length ∧
    ∀ k tag, (seenTags records number)[k]? = some tag → ∃ recorder : TickRecord assets,
      records[tag]? = some recorder ∧
      record.seen.inputTimeStamps[k]? = some recorder.currentTime ∧
      (record.seen.inputStream.drop (3 * k)).take 3 = recorder.atoms

/-- The buffer holds the frames that Ticks number `gone` and later recorded; all that was spent is
older. -/
structure TagInv (records : List (TickRecord assets)) (gone : Nat) : Prop where
  held : heldTags records records.length = List.range' gone (records.length - gone)
  honest : ∀ number (record : TickRecord assets), records[number]? = some record →
    HonestTags records number record
  spent : ∀ number (record : TickRecord assets) x, records[number]? = some record →
    Spends record x → ∃ tag, (seenTags records number)[x / 3]? = some tag ∧ tag < gone
  ordered : ∀ first second (one two : TickRecord assets) x y, first < second →
    records[first]? = some one → records[second]? = some two → Spends one x → Spends two y →
    ∃ a b, (seenTags records first)[x / 3]? = some a ∧
      (seenTags records second)[y / 3]? = some b ∧ a < b

omit [DecidableEq α] in
theorem recorded_frame {records : List (TickRecord assets)} {history : List (InputFrame α)}
    (recorded : Recorded records history) {tag : Nat} {frame : InputFrame α}
    (found : history[tag]? = some frame) :
    ∃ recorder : TickRecord assets, records[tag]? = some recorder ∧
      recorder.currentTime = frame.stamp ∧ recorder.atoms = frame.atoms := by
  have stamp := congrArg (fun stamps => stamps[tag]?) recorded.stamps
  have atoms := congrArg (fun atoms => atoms[tag]?) recorded.atoms
  simp only [List.getElem?_map, found, Option.map_some] at stamp atoms
  cases number : records[tag]? with
  | none => simp [number] at stamp
  | some recorder =>
      simp only [number, Option.map_some, Option.some.injEq] at stamp atoms
      exact ⟨recorder, rfl, stamp.symm, atoms.symm⟩

omit [DecidableEq α] in
theorem holds_frame {pawn : AFGDefaultPawn α μ} {buffer : List (InputFrame α)}
    (holds : Holds pawn buffer) {k : Nat} {frame : InputFrame α} (found : buffer[k]? = some frame) :
    pawn.inputTimeStamps[k]? = some frame.stamp ∧
      (pawn.inputStream.drop (3 * k)).take 3 = frame.atoms := by
  obtain ⟨inside, rfl⟩ := List.getElem?_eq_some_iff.mp found
  have three : buffer[k].atoms.length = 3 := buffer[k].whole
  constructor
  · rw [holds.stamps, List.getElem?_map, found]
    rfl
  · rw [holds.stream, flatMap_atoms_drop, List.drop_eq_getElem_cons inside, List.flatMap_cons,
      ← three, List.take_left]

omit [DecidableEq α] in
theorem tick_tags {pawn : AFGDefaultPawn α μ} {records : List (TickRecord assets)}
    {history buffer seen : List (InputFrame α)} {gone expired n : Nat} {frame : InputFrame α}
    {record : TickRecord assets} (inv : BufferInv pawn records history gone buffer)
    (held : heldTags records records.length = List.range' gone (records.length - gone))
    (step : TickBuffer record buffer seen frame n)
    (shows : Window.Shows (history ++ [frame]) (gone + expired) seen) :
    seenTags (records ++ [record]) records.length = List.range' (gone + expired) seen.length ∧
      heldTags (records ++ [record]) (records ++ [record]).length =
        List.range' (gone + expired + n) (seen.length - n) := by
  obtain ⟨seenStamps, -⟩ := holds_lengths step.holdsSeen
  obtain ⟨afterStamps, -⟩ := holds_lengths step.holdsAfter
  have recorded := congrArg List.length inv.recorded.stamps
  have before := Window.shows_length inv.shows
  have behind := Window.shows_length shows
  simp only [List.length_map, List.length_append, List.length_singleton] at recorded behind
  rw [List.length_drop] at afterStamps
  have joined : List.range' gone (records.length - gone) ++ [records.length] =
      List.range' gone (records.length - gone + 1) := by
    rw [List.range'_1_concat]
    congr 2
    omega
  have sees : tagsSeen (List.range' gone (records.length - gone)) records.length record =
      List.range' (gone + expired) seen.length := by
    calc
      _ = (List.range' gone (records.length - gone + 1)).drop
            (records.length - gone + 1 - seen.length) := by
        rw [tagsSeen, joined, List.length_range', seenStamps]
      _ = List.range' (gone + expired) seen.length := by
        rw [List.drop_range']
        congr 1 <;> omega
  refine ⟨by rw [seenTags_last, held, sees], ?_⟩
  rw [heldTags_last, held, tagsAfter, sees, List.drop_range', seenStamps, afterStamps]
  have available := step.available
  congr 1 <;> omega

omit [DecidableEq α] in
theorem honestTags_append {records : List (TickRecord assets)} {number : Nat}
    {record : TickRecord assets} (bound : number < records.length)
    (honest : HonestTags records number record) (last : TickRecord assets) :
    HonestTags (records ++ [last]) number record := by
  rcases honest with ⟨same, names⟩
  rw [HonestTags, seenTags_append records last number bound]
  refine ⟨same, fun k tag found => ?_⟩
  obtain ⟨recorder, recorded, rest⟩ := names k tag found
  have inside := (List.getElem?_eq_some_iff.mp recorded).1
  exact ⟨recorder, by rw [List.getElem?_append_left inside, recorded], rest⟩

/-- A Tick spends frames from the front of what is left of the buffer, and gives up all of them. -/
theorem tagInv_tick {pawn : AFGDefaultPawn α μ} {records : List (TickRecord assets)}
    {history buffer seen : List (InputFrame α)} {gone expired n : Nat} {frame : InputFrame α}
    {record : TickRecord assets} (inv : BufferInv pawn records history gone buffer)
    (tags : TagInv records gone) (complete : record.Complete)
    (step : TickBuffer record buffer seen frame n)
    (shows : Window.Shows (history ++ [frame]) (gone + expired) seen)
    (next : BufferInv record.after (records ++ [record]) (history ++ [frame]) (gone + expired + n)
      (seen.drop n)) : TagInv (records ++ [record]) (gone + expired + n) := by
  obtain ⟨sees, holds⟩ := tick_tags inv tags.held step shows
  have recorded := congrArg List.length next.recorded.stamps
  have whole := Window.shows_length shows
  rw [List.length_map, List.length_map] at recorded
  have fresh : ∀ x, Spends record x →
      (seenTags (records ++ [record]) records.length)[x / 3]? = some (gone + expired + x / 3) ∧
        x / 3 < n := by
    intro x spends
    obtain ⟨followed, below, inside⟩ := spends_below complete spends
    have covered := step.covers followed x below inside
    have available := step.available
    rw [sees, List.getElem?_range' (by omega), Nat.one_mul]
    exact ⟨rfl, by omega⟩
  refine ⟨?_, ?_, ?_, ?_⟩
  · rw [holds]
    congr 1
    omega
  · intro number found located
    rcases Window.push_cases located with ⟨old, located⟩ | ⟨rfl, rfl⟩
    · exact honestTags_append old (tags.honest number found located) record
    · rw [HonestTags, sees, List.length_range', (holds_lengths step.holdsSeen).1]
      refine ⟨rfl, fun k tag tagged => ?_⟩
      obtain ⟨inside, rfl⟩ := List.getElem?_eq_some_iff.mp tagged
      rw [List.length_range'] at inside
      have held : seen[k]? = some seen[k] := List.getElem?_eq_getElem inside
      have original : (history ++ [frame])[gone + expired + k]? = some seen[k] := by
        rw [← List.getElem?_drop, ← shows.2, held]
      obtain ⟨recorder, found, stamp, atoms⟩ := recorded_frame next.recorded original
      obtain ⟨stampSeen, atomsSeen⟩ := holds_frame step.holdsSeen held
      rw [List.getElem_range', Nat.one_mul]
      exact ⟨recorder, found, by rw [stampSeen, stamp], by rw [atomsSeen, atoms]⟩
  · intro number found x located spends
    rcases Window.push_cases located with ⟨old, located⟩ | ⟨rfl, rfl⟩
    · obtain ⟨tag, tagged, earlier⟩ := tags.spent number found x located spends
      rw [seenTags_append _ _ _ old]
      exact ⟨tag, tagged, by omega⟩
    · obtain ⟨tagged, first⟩ := fresh x spends
      exact ⟨_, tagged, by omega⟩
  · intro first second one two x y before located located' spends spends'
    rcases Window.push_cases located' with ⟨old', located'⟩ | ⟨rfl, rfl⟩
    · rcases Window.push_cases located with ⟨old, located⟩ | ⟨rfl, rfl⟩
      · rw [seenTags_append _ _ _ old, seenTags_append _ _ _ old']
        exact tags.ordered first second one two x y before located located' spends spends'
      · omega
    · rcases Window.push_cases located with ⟨old, located⟩ | ⟨rfl, rfl⟩
      · obtain ⟨tag, tagged, earlier⟩ := tags.spent first one x located spends
        obtain ⟨tagged', -⟩ := fresh y spends'
        rw [seenTags_append _ _ _ old]
        exact ⟨tag, _, tagged, tagged', by omega⟩
      · omega

theorem tagInv_start : TagInv ([] : List (TickRecord assets)) 0 where
  held := rfl
  honest := fun number record located => by cases located
  spent := fun number record x located => by cases located
  ordered := fun first second one two x y _ located => by cases located

/-- Frames are tagged with the Tick that recorded them, and of any two Ticks that follow a link the
later one takes its transitions in frames that are all recorded later than those of the earlier
one. -/
theorem spent_once {start pawn : AFGDefaultPawn α μ} {events : List Event}
    {records : List (TickRecord assets)} (emptyStamps : start.inputTimeStamps = [])
    (emptyStream : start.inputStream = []) (nonneg : 0 ≤ start.inputExpirationTime)
    (clamped : ∀ event ∈ events, event.Clamped)
    (ran : runPawn assets start events = .ok (pawn, records)) :
    (∀ number (record : TickRecord assets), records[number]? = some record →
      HonestTags records number record) ∧
    ∀ p q (first second : TickRecord assets) x y, p < q → records[p]? = some first →
      records[q]? = some second → Spends first x → Spends second y →
      ∃ a b, (seenTags records p)[x / 3]? = some a ∧ (seenTags records q)[y / 3]? = some b ∧
        a < b := by
  obtain ⟨-, gone, -, -, tags⟩ :=
    run_buffer TagInv tagInv_start tagInv_tick emptyStamps emptyStream nonneg clamped ran
  exact ⟨tags.honest, tags.ordered⟩

theorem spent_once_sample :
    ∃ pawn records first second,
      runPawn sampleAssets (samplePawn .standing) sampleEvents = .ok (pawn, records) ∧
      records[0]? = some first ∧ records[2]? = some second ∧ Spends first 1 ∧ Spends second 4 ∧
      ∃ a b, (seenTags records 0)[1 / 3]? = some a ∧ (seenTags records 2)[4 / 3]? = some b ∧ a < b := by
  obtain ⟨⟨pawn, records⟩, ran⟩ := sample_runs
  have walked : ((runPawn sampleAssets (samplePawn .standing) sampleEvents).toOption.map
      (fun result => result.2.map acceptedMoves)) =
        some [[⟨.transition, 0⟩, ⟨.transition, 1⟩, ⟨.transition, 2⟩], [],
          [⟨.transition, 0⟩, ⟨.loop .ufgState, 1⟩, ⟨.transition, 4⟩, ⟨.transition, 5⟩]] := by
    decide +kernel
  rw [ran] at walked
  have taken := Option.some.inj walked
  obtain ⟨-, ordered⟩ := spent_once rfl rfl (by decide +kernel) sample_clamped ran
  obtain ⟨first, rest, rfl, one, taken⟩ := List.map_eq_cons_iff.mp taken
  obtain ⟨middle, rest, rfl, -, taken⟩ := List.map_eq_cons_iff.mp taken
  obtain ⟨second, rest, rfl, two, -⟩ := List.map_eq_cons_iff.mp taken
  have spends : Spends first 1 := by simp [Spends, one]
  have spends' : Spends second 4 := by simp [Spends, two]
  exact ⟨pawn, _, first, second, ran, rfl, rfl, spends, spends',
    ordered 0 2 first second 1 4 (by omega) rfl rfl spends spends'⟩

end SmFighting
