import SmFighting.SpentFrames

/-! Which frames the links of a Tick are tried on. A frame leaves the buffer for two reasons only: a
Tick finds it expired, or a move switch gives it up. -/

namespace SmFighting

variable {α σ μ : Type} [DecidableEq α] {assets : Assets α σ μ}

/-- The tags of the frames that Tick `number` gave up when it followed a link. -/
def givenUpTags (records : List (TickRecord assets)) (number : Nat) : List Nat :=
  match records[number]? with
  | none => []
  | some record => (seenTags records number).take
      (record.seen.inputTimeStamps.length - record.after.inputTimeStamps.length)

def FreshAt (records : List (TickRecord assets)) (number tag : Nat) : Prop :=
  ∃ recorder record : TickRecord assets, records[tag]? = some recorder ∧
    records[number]? = some record ∧
    record.currentTime ≤ recorder.currentTime + record.before.inputExpirationTime

/-- The frame that Tick `tag` recorded is still there for the links of Tick `number`. -/
structure Usable (records : List (TickRecord assets)) (number tag : Nat) : Prop where
  recorded : tag ≤ number
  fresh : ∀ p, tag ≤ p → p ≤ number → FreshAt records p tag
  unspent : ∀ p < number, tag ∉ givenUpTags records p

/-- What the tags say so far: those held are of the frames that were never found expired nor given
up, and those that each Tick saw are of the usable frames. -/
structure LedgerInv (records : List (TickRecord assets)) : Prop where
  held : ∀ tag, tag ∈ heldTags records records.length ↔ tag < records.length ∧
    (∀ p, tag ≤ p → p < records.length → FreshAt records p tag) ∧
    ∀ p < records.length, tag ∉ givenUpTags records p
  seen : ∀ number < records.length, ∀ tag,
    tag ∈ seenTags records number ↔ Usable records number tag
  consecutive : ∀ number < records.length,
    ∃ first length, seenTags records number = List.range' first length
  whole : ∀ (number : Nat) (record : TickRecord assets), records[number]? = some record →
    record.seen.inputStream.length = 3 * record.seen.inputTimeStamps.length

section
omit [DecidableEq α]

theorem givenUpTags_append (records : List (TickRecord assets)) (record : TickRecord assets)
    {number : Nat} (bound : number < records.length) :
    givenUpTags (records ++ [record]) number = givenUpTags records number := by
  rw [givenUpTags, givenUpTags, List.getElem?_append_left bound, seenTags_append _ _ _ bound]

theorem freshAt_append (records : List (TickRecord assets)) (record : TickRecord assets)
    {number tag : Nat} (bound : number < records.length) (recorded : tag ≤ number) :
    FreshAt (records ++ [record]) number tag ↔ FreshAt records number tag := by
  rw [FreshAt, FreshAt, List.getElem?_append_left bound, List.getElem?_append_left (by omega)]

theorem usable_append (records : List (TickRecord assets)) (record : TickRecord assets)
    {number tag : Nat} (bound : number < records.length) :
    Usable (records ++ [record]) number tag ↔ Usable records number tag := by
  constructor
  · intro usable
    refine ⟨usable.recorded, fun p low high => ?_, fun p below => ?_⟩
    · exact (freshAt_append records record (by omega) low).mp (usable.fresh p low high)
    · rw [← givenUpTags_append records record (by omega)]
      exact usable.unspent p below
  · intro usable
    refine ⟨usable.recorded, fun p low high => ?_, fun p below => ?_⟩
    · exact (freshAt_append records record (by omega) low).mpr (usable.fresh p low high)
    · rw [givenUpTags_append records record (by omega)]
      exact usable.unspent p below

theorem heldTags_split (records : List (TickRecord assets)) (record : TickRecord assets)
    (distinct : (seenTags (records ++ [record]) records.length).Nodup) (tag : Nat) :
    tag ∈ heldTags (records ++ [record]) (records ++ [record]).length ↔
      tag ∈ seenTags (records ++ [record]) records.length ∧
        tag ∉ givenUpTags (records ++ [record]) records.length := by
  have gave : givenUpTags (records ++ [record]) records.length =
      (seenTags (records ++ [record]) records.length).take
        (record.seen.inputTimeStamps.length - record.after.inputTimeStamps.length) := by
    rw [givenUpTags, List.getElem?_concat_length]
  rw [heldTags_last, tagsAfter, ← seenTags_last, gave]
  generalize seenTags (records ++ [record]) records.length = tags at distinct
  generalize record.seen.inputTimeStamps.length - record.after.inputTimeStamps.length = count
  constructor
  · intro kept
    exact ⟨List.mem_of_mem_drop kept,
      fun gone => List.disjoint_take_drop distinct (Nat.le_refl count) gone kept⟩
  · intro parts
    rcases parts with ⟨member, kept⟩
    rw [← List.take_append_drop count tags] at member
    exact (List.mem_append.mp member).resolve_left kept

theorem seenTags_fresh {pawn : AFGDefaultPawn α μ} {records : List (TickRecord assets)}
    {history buffer seen : List (InputFrame α)} {gone expired n : Nat} {frame : InputFrame α}
    {record : TickRecord assets} (inv : BufferInv pawn records history gone buffer)
    (held : heldTags records records.length = List.range' gone (records.length - gone))
    (step : TickBuffer record buffer seen frame n)
    (shows : Window.Shows (history ++ [frame]) (gone + expired) seen)
    (recorded : Recorded (records ++ [record]) (history ++ [frame]))
    (nonneg : 0 ≤ record.before.inputExpirationTime)
    (monotone : ((records ++ [record]).map TickRecord.currentTime).Pairwise (· ≤ ·)) (tag : Nat) :
    tag ∈ seenTags (records ++ [record]) records.length ↔
      (tag ∈ heldTags records records.length ∨ tag = records.length) ∧
        FreshAt (records ++ [record]) records.length tag := by
  obtain ⟨sees, -⟩ := tick_tags inv held step shows
  have whole := Window.shows_length shows
  have before := Window.shows_length inv.shows
  have same := congrArg List.length inv.recorded.stamps
  simp only [List.length_map, List.length_append, List.length_singleton] at whole same
  have cells : buffer ++ [frame] = (history ++ [frame]).drop gone := by
    rw [List.drop_append_of_le_length inv.shows.1, ← inv.shows.2]
  have inherited : (buffer ++ [frame]).Pairwise (fun a b =>
      stillFresh record.before.inputExpirationTime record.currentTime a.stamp = true →
        stillFresh record.before.inputExpirationTime record.currentTime b.stamp = true) := by
    rw [← recorded.stamps] at monotone
    rw [cells]
    refine ((List.pairwise_map.mp monotone).drop).imp ?_
    intro a b older keeps
    have bound : a.stamp + record.before.inputExpirationTime ≥ record.currentTime :=
      of_decide_eq_true keeps
    exact decide_eq_true (bound.trans (by gcongr))
  have newest : stillFresh record.before.inputExpirationTime record.currentTime frame.stamp = true := by
    rw [step.stamp]
    exact decide_eq_true (le_add_of_nonneg_right nonneg)
  have below := Window.findIdx_lt (fun held : InputFrame α =>
    stillFresh record.before.inputExpirationTime record.currentTime held.stamp) buffer frame newest
  have cut := congrArg List.length step.pruned
  rw [prune, List.length_drop] at cut
  simp only [List.length_append, List.length_singleton] at cut below
  rw [sees, List.mem_range'_1, held, List.mem_range'_1]
  have inside : gone ≤ tag ∧ tag < records.length + 1 →
      (gone + expired ≤ tag ↔ FreshAt (records ++ [record]) records.length tag) := by
    intro bounds
    rcases bounds with ⟨low, high⟩
    have index : tag - gone < (buffer ++ [frame]).length := by
      rw [List.length_append, List.length_singleton]
      omega
    have located : (history ++ [frame])[tag]? = some (buffer ++ [frame])[tag - gone] := by
      rw [← List.getElem?_eq_getElem index, cells, List.getElem?_drop]
      congr 1
      omega
    obtain ⟨recorder, found, stamp, -⟩ := recorded_frame recorded located
    have first := Window.findIdx_le_iff _ _ inherited index
    have fresh : FreshAt (records ++ [record]) records.length tag ↔
        stillFresh record.before.inputExpirationTime record.currentTime
          (buffer ++ [frame])[tag - gone].stamp = true := by
      rw [FreshAt, found, List.getElem?_concat_length, ← stamp, stillFresh, decide_eq_true_iff]
      simp
    rw [fresh, ← first]
    omega
  constructor
  · intro member
    exact ⟨by omega, (inside (by omega)).mp (by omega)⟩
  · intro parts
    have low := (inside (by omega)).mpr parts.2
    omega

end

theorem ledgerInv_tick {pawn : AFGDefaultPawn α μ} {records : List (TickRecord assets)}
    {history buffer seen : List (InputFrame α)} {gone expired n : Nat} {frame : InputFrame α}
    {record : TickRecord assets} (inv : BufferInv pawn records history gone buffer)
    (tags : TagInv records gone) (ledger : LedgerInv records)
    (step : TickBuffer record buffer seen frame n)
    (shows : Window.Shows (history ++ [frame]) (gone + expired) seen)
    (recorded : Recorded (records ++ [record]) (history ++ [frame]))
    (nonneg : 0 ≤ record.before.inputExpirationTime)
    (monotone : ((records ++ [record]).map TickRecord.currentTime).Pairwise (· ≤ ·)) :
    LedgerInv (records ++ [record]) := by
  have fresh := seenTags_fresh inv tags.held step shows recorded nonneg monotone
  obtain ⟨sees, -⟩ := tick_tags inv tags.held step shows
  have split := heldTags_split records record (by rw [sees]; exact List.nodup_range')
  have length : (records ++ [record]).length = records.length + 1 := by simp
  -- the newest Tick sees what is usable, by what was held before it
  have newest : ∀ tag, tag ∈ seenTags (records ++ [record]) records.length ↔
      Usable (records ++ [record]) records.length tag := by
    intro tag
    rw [fresh, ledger.held]
    constructor
    · intro parts
      rcases parts with ⟨there, now⟩
      refine ⟨by omega, fun p low high => ?_, fun p below => ?_⟩
      · rcases Nat.eq_or_lt_of_le high with rfl | earlier
        · exact now
        · rcases there with ⟨-, since, -⟩ | rfl
          · exact (freshAt_append records record earlier low).mpr (since p low earlier)
          · omega
      · rw [givenUpTags_append records record below]
        rcases there with ⟨-, -, unspent⟩ | rfl
        · exact unspent p below
        · intro gone
          rw [givenUpTags] at gone
          split at gone
          · cases gone
          · have usable := (ledger.seen p below _).mp (List.mem_of_mem_take gone)
            have late := usable.recorded
            omega
    · intro usable
      refine ⟨?_, usable.fresh _ usable.recorded (Nat.le_refl _)⟩
      rcases Nat.eq_or_lt_of_le usable.recorded with rfl | old
      · exact .inr rfl
      · refine .inl ⟨old, fun p low high => ?_, fun p below => ?_⟩
        · exact (freshAt_append records record high low).mp (usable.fresh p low high.le)
        · rw [← givenUpTags_append records record below]
          exact usable.unspent p below
  constructor
  · intro tag
    rw [split, newest, length]
    constructor
    · intro parts
      rcases parts with ⟨usable, kept⟩
      refine ⟨Nat.lt_succ_of_le usable.recorded, fun p low high => ?_, fun p below => ?_⟩
      · exact usable.fresh p low (Nat.le_of_lt_succ high)
      · rcases Nat.eq_or_lt_of_le (Nat.le_of_lt_succ below) with rfl | earlier
        · exact kept
        · exact usable.unspent p earlier
    · intro parts
      rcases parts with ⟨old, since, unspent⟩
      exact ⟨⟨Nat.le_of_lt_succ old, fun p low high => since p low (Nat.lt_succ_of_le high),
        fun p below => unspent p (by omega)⟩, unspent _ (Nat.lt_succ_self _)⟩
  · intro number bound tag
    rw [length] at bound
    rcases Nat.eq_or_lt_of_le (Nat.le_of_lt_succ bound) with rfl | earlier
    · exact newest tag
    · rw [seenTags_append records record number earlier, usable_append records record earlier]
      exact ledger.seen number earlier tag
  · intro number bound
    rw [length] at bound
    rcases Nat.eq_or_lt_of_le (Nat.le_of_lt_succ bound) with rfl | earlier
    · exact ⟨_, _, sees⟩
    · rw [seenTags_append records record number earlier]
      exact ledger.consecutive number earlier
  · intro number found located
    rcases Window.push_cases located with ⟨old, located⟩ | ⟨rfl, rfl⟩
    · exact ledger.whole number found located
    · obtain ⟨stampsLength, streamLength⟩ := holds_lengths step.holdsSeen
      rw [streamLength, stampsLength]

omit [DecidableEq α] in
theorem ledgerInv_start : LedgerInv ([] : List (TickRecord assets)) where
  held := fun tag => by simp [heldTags]
  seen := fun number bound => by cases bound
  consecutive := fun number bound => by cases bound
  whole := fun number record located => by cases located

theorem tagLedger_tick {pawn : AFGDefaultPawn α μ} {records : List (TickRecord assets)}
    {record : TickRecord assets} {history buffer seen : List (InputFrame α)}
    {gone expired n : Nat} {frame : InputFrame α}
    (inv : BufferInv pawn records history gone buffer)
    (kept : TagInv records gone ∧
      ((records.map TickRecord.currentTime).Pairwise (· ≤ ·) → LedgerInv records))
    (complete : record.Complete) (step : TickBuffer record buffer seen frame n)
    (shows : Window.Shows (history ++ [frame]) (gone + expired) seen)
    (next : BufferInv record.after (records ++ [record]) (history ++ [frame]) (gone + expired + n)
      (seen.drop n)) :
    TagInv (records ++ [record]) (gone + expired + n) ∧
      (((records ++ [record]).map TickRecord.currentTime).Pairwise (· ≤ ·) →
        LedgerInv (records ++ [record])) := by
  rcases kept with ⟨tags, ledger⟩
  refine ⟨tagInv_tick inv tags complete step shows next, fun monotone => ?_⟩
  have before : (records.map TickRecord.currentTime).Pairwise (· ≤ ·) := by
    rw [List.map_append] at monotone
    exact (List.pairwise_append.mp monotone).1
  obtain ⟨stamps, stream, move, time, after⟩ := after_frame complete
  have nonneg : 0 ≤ record.before.inputExpirationTime := by
    have clock := next.nonneg
    rw [after] at clock
    exact clock
  exact ledgerInv_tick inv tags (ledger before) step shows next.recorded nonneg monotone

theorem run_ledgerInv {start pawn : AFGDefaultPawn α μ} {events : List Event}
    {records : List (TickRecord assets)} (emptyStamps : start.inputTimeStamps = [])
    (emptyStream : start.inputStream = []) (nonneg : 0 ≤ start.inputExpirationTime)
    (clamped : ∀ event ∈ events, event.Clamped)
    (ran : runPawn assets start events = .ok (pawn, records))
    (monotone : (records.map TickRecord.currentTime).Pairwise (· ≤ ·)) :
    (∃ gone, TagInv records gone) ∧ LedgerInv records := by
  obtain ⟨-, gone, -, -, tags, ledger⟩ := run_buffer
    (fun records gone => TagInv records gone ∧
      ((records.map TickRecord.currentTime).Pairwise (· ≤ ·) → LedgerInv records))
    ⟨tagInv_start, fun _ => ledgerInv_start⟩ tagLedger_tick emptyStamps emptyStream nonneg clamped ran
  exact ⟨⟨gone, tags⟩, ledger monotone⟩

/-- With game times that never go back, a Tick tries its links on exactly the frames that no Tick up
to it has found expired and no Tick before it has given up, each of them as it was recorded. -/
theorem links_see_usable {start pawn : AFGDefaultPawn α μ} {events : List Event}
    {records : List (TickRecord assets)} (emptyStamps : start.inputTimeStamps = [])
    (emptyStream : start.inputStream = []) (nonneg : 0 ≤ start.inputExpirationTime)
    (clamped : ∀ event ∈ events, event.Clamped)
    (ran : runPawn assets start events = .ok (pawn, records))
    (monotone : (records.map TickRecord.currentTime).Pairwise (· ≤ ·)) {number : Nat}
    {record : TickRecord assets} (located : records[number]? = some record) :
    HonestTags records number record ∧ (seenTags records number).Pairwise (· < ·) ∧
      ∀ tag, tag ∈ seenTags records number ↔ Usable records number tag := by
  obtain ⟨⟨gone, tags⟩, ledger⟩ := run_ledgerInv emptyStamps emptyStream nonneg clamped ran monotone
  have bound := (List.getElem?_eq_some_iff.mp located).1
  obtain ⟨first, length, consecutive⟩ := ledger.consecutive number bound
  refine ⟨tags.honest number record located, ?_, ledger.seen number bound⟩
  rw [consecutive]
  exact List.pairwise_lt_range'

theorem links_see_usable_sample :
    ∃ pawn records record, runPawn sampleAssets (samplePawn .standing) sampleEvents =
        .ok (pawn, records) ∧ records[2]? = some record ∧
      ∀ tag, tag ∈ seenTags records 2 ↔ Usable records 2 tag := by
  obtain ⟨⟨pawn, records⟩, ran⟩ := sample_runs
  have times : ((runPawn sampleAssets (samplePawn .standing) sampleEvents).toOption.map
      (fun result => result.2.map TickRecord.currentTime)) = some [0, 1 / 10, 7 / 60] := by
    decide +kernel
  rw [ran] at times
  have stamps : records.map TickRecord.currentTime = [0, 1 / 10, 7 / 60] := Option.some.inj times
  have monotone : (records.map TickRecord.currentTime).Pairwise (· ≤ ·) := by
    rw [stamps]
    decide +kernel
  have third : 2 < records.length := by
    rw [← List.length_map TickRecord.currentTime, stamps]
    decide
  have located : records[2]? = some records[2] := List.getElem?_eq_getElem third
  obtain ⟨-, -, exact⟩ :=
    links_see_usable rfl rfl (by decide +kernel) sample_clamped ran monotone located
  exact ⟨pawn, records, _, ran, located, exact⟩

end SmFighting
