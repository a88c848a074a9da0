import SmFighting.FrameLedger
import SmFighting.Int32Run
import SmFighting.Library.Spacing
import Mathlib.Data.Rat.Floor

namespace SmFighting

variable {α σ μ : Type} [DecidableEq α] {assets : Assets α σ μ}

def Event.Within (limit : Rat) : Event → Prop
  | .editInputExpirationTime value => value ≤ limit
  | _ => True

/-- As many frames as fit into the limit, and the one at its start. -/
def frameBound (limit gap : Rat) : Nat := ⌊limit / gap⌋₊ + 1

theorem run_within {start pawn : AFGDefaultPawn α μ} {events : List Event}
    {records : List (TickRecord assets)} {limit : Rat}
    (initial : start.inputExpirationTime ≤ limit) (edits : ∀ event ∈ events, event.Within limit)
    (ran : runPawn assets start events = .ok (pawn, records)) :
    ∀ record ∈ records, record.before.inputExpirationTime ≤ limit := by
  refine (EventRun.run_invariant (fun _ pawn (records : List (TickRecord assets)) =>
    pawn.inputExpirationTime ≤ limit ∧
      ∀ record ∈ records, record.before.inputExpirationTime ≤ limit)
    (Event.Within limit) ?_ edits ⟨initial, by simp⟩ ran).2
  intro done s outputs event t output inv within reaction
  rcases inv with ⟨now, before⟩
  cases event with
  | tick deltaSeconds currentTime =>
      obtain ⟨record, ticked, rfl, rfl⟩ := react_tick reaction
      obtain ⟨complete, rfl, -, -⟩ := tick_complete ticked
      obtain ⟨stamps, stream, move, time, after⟩ := after_frame complete
      refine ⟨by rw [after]; exact now, ?_⟩
      intro other member
      rcases List.mem_append.mp member with old | new
      · exact before other old
      · rw [List.mem_singleton.mp new]
        exact now
  | editInputExpirationTime value =>
      obtain ⟨rfl, rfl⟩ := Prod.mk.inj (Except.ok.inj reaction)
      exact ⟨within, by rw [List.append_nil]; exact before⟩
  | _ =>
      obtain ⟨rfl, rfl⟩ := Prod.mk.inj (Except.ok.inj reaction)
      exact ⟨now, by rw [List.append_nil]; exact before⟩

variable {records : List (TickRecord assets)} {gap limit : Rat}

section
omit [DecidableEq α]

/-- A frame that is still fresh was recorded by one of the latest Ticks. -/
theorem fresh_near (positive : 0 < gap)
    (spaced : Spacing.Spaced gap (records.map TickRecord.currentTime))
    (within : ∀ record ∈ records, record.before.inputExpirationTime ≤ limit) {number tag : Nat}
    (recorded : tag ≤ number) (fresh : FreshAt records number tag) :
    number < tag + frameBound limit gap := by
  rcases fresh with ⟨recorder, record, first, last, kept⟩
  have oldest : (records.map TickRecord.currentTime)[tag]? = some recorder.currentTime := by
    rw [List.getElem?_map, first, Option.map_some]
  have newest : (records.map TickRecord.currentTime)[tag + (number - tag)]? =
      some record.currentTime := by
    rw [Nat.add_sub_cancel' recorded, List.getElem?_map, last, Option.map_some]
  have expiration := within record (List.mem_of_getElem? last)
  have span : record.currentTime ≤ recorder.currentTime + limit := by linarith
  have near := Spacing.places_le positive spaced oldest newest span
  rw [frameBound]
  omega

theorem seen_bounded (ledger : LedgerInv records) (positive : 0 < gap)
    (spaced : Spacing.Spaced gap (records.map TickRecord.currentTime))
    (within : ∀ record ∈ records, record.before.inputExpirationTime ≤ limit) {number : Nat}
    (bound : number < records.length) : (seenTags records number).length ≤ frameBound limit gap := by
  obtain ⟨first, length, consecutive⟩ := ledger.consecutive number bound
  have usable := ledger.seen number bound
  rw [consecutive] at usable ⊢
  rw [List.length_range']
  rcases Nat.eq_zero_or_pos length with rfl | nonempty
  · exact Nat.zero_le _
  · have oldest := (usable first).mp (List.mem_range'_1.mpr (by omega))
    have newest := (usable (first + length - 1)).mp (List.mem_range'_1.mpr (by omega))
    have near := fresh_near positive spaced within oldest.recorded
      (oldest.fresh number oldest.recorded (Nat.le_refl _))
    have last := newest.recorded
    omega

end

theorem held_bounded {pawn : AFGDefaultPawn α μ} {history buffer : List (InputFrame α)} {gone : Nat}
    (inv : BufferInv pawn records history gone buffer) (tags : TagInv records gone)
    (ledger : LedgerInv records) (positive : 0 < gap)
    (spaced : Spacing.Spaced gap (records.map TickRecord.currentTime))
    (within : ∀ record ∈ records, record.before.inputExpirationTime ≤ limit) :
    pawn.inputTimeStamps.length ≤ frameBound limit gap := by
  have same := congrArg List.length inv.recorded.stamps
  have whole := Window.shows_length inv.shows
  obtain ⟨stampsLength, -⟩ := holds_lengths inv.holds
  simp only [List.length_map] at same
  rcases Nat.eq_zero_or_pos buffer.length with empty | nonempty
  · omega
  · have oldest := (ledger.held gone).mp (by
      rw [tags.held]
      exact List.mem_range'_1.mpr (by omega))
    have near := fresh_near positive spaced within (by omega)
      (oldest.2.1 (records.length - 1) (by omega) (by omega))
    omega

/-- With Ticks at least `gap` apart and an expiration time up to `limit`, the arrays hold a bounded
number of frames after every run, and the machine of any link, on what any Tick gives it, runs within
a bounded depth to its result, in int32 arithmetic as well. -/
theorem play_bounded {start pawn : AFGDefaultPawn α μ} {events : List Event}
    (emptyStamps : start.inputTimeStamps = []) (emptyStream : start.inputStream = [])
    (nonneg : 0 ≤ start.inputExpirationTime) (clamped : ∀ event ∈ events, event.Clamped)
    (initial : start.inputExpirationTime ≤ limit) (edits : ∀ event ∈ events, event.Within limit)
    (ran : runPawn assets start events = .ok (pawn, records)) (positive : 0 < gap)
    (spaced : Spacing.Spaced gap (records.map TickRecord.currentTime)) :
    pawn.inputTimeStamps.length ≤ frameBound limit gap ∧
      ∀ record ∈ records, record.seen.inputTimeStamps.length ≤ frameBound limit gap ∧
        record.seen.inputStream.length ≤ 3 * frameBound limit gap ∧
        (3 * frameBound limit gap ≤ 2 ^ 31 - 3 →
          ∀ (machine : UFGState assets.state) (depth : Nat), 3 * frameBound limit gap < depth →
            ∃ run, runState32 assets.state record.seen.inputStream depth ⟨machine.1, 0, -1⟩ =
                .ok run ∧
              run.result = runState assets.state record.seen.inputStream machine.1 0 (-1) ∧
              run.calls.length ≤ 3 * frameBound limit gap + 1) := by
  have within := run_within initial edits ran
  have monotone := Spacing.spaced_sorted positive.le spaced
  obtain ⟨history, gone, buffer, inv, tags, ledger⟩ := run_buffer
    (fun records gone => TagInv records gone ∧
      ((records.map TickRecord.currentTime).Pairwise (· ≤ ·) → LedgerInv records))
    ⟨tagInv_start, fun _ => ledgerInv_start⟩ tagLedger_tick emptyStamps emptyStream nonneg clamped ran
  have kept := ledger monotone
  refine ⟨held_bounded inv tags kept positive spaced within, fun record member => ?_⟩
  obtain ⟨number, located⟩ := List.mem_iff_getElem?.mp member
  have bound := (List.getElem?_eq_some_iff.mp located).1
  have frames : record.seen.inputTimeStamps.length ≤ frameBound limit gap := by
    rw [(tags.honest number record located).1]
    exact seen_bounded kept positive spaced within bound
  have whole := kept.whole number record located
  refine ⟨frames, by omega, fun small machine depth deep => ?_⟩
  have fits : Fits record.seen.inputStream ⟨machine.1, 0, -1⟩ :=
    ⟨by omega, by simp only; decide, by simp only; decide, .inr (by simp only; omega)⟩
  obtain ⟨calls, done, short, -⟩ :=
    runState32_fits assets.state record.seen.inputStream depth _ fits (.inl (by simp only; omega))
  simp only at short
  exact ⟨_, done, rfl, by simp only [List.length_cons]; omega⟩

theorem play_bounded_sample :
    ∃ pawn records, runPawn sampleAssets (samplePawn .standing) sampleEvents = .ok (pawn, records) ∧
      pawn.inputTimeStamps.length ≤ 46 := by
  obtain ⟨⟨pawn, records⟩, ran⟩ := sample_runs
  have times : ((runPawn sampleAssets (samplePawn .standing) sampleEvents).toOption.map
      (fun result => result.2.map TickRecord.currentTime)) = some [0, 1 / 10, 7 / 60] := by
    decide +kernel
  rw [ran] at times
  have stamps : records.map TickRecord.currentTime = [0, 1 / 10, 7 / 60] := Option.some.inj times
  have spaced : Spacing.Spaced (1 / 60 : Rat) (records.map TickRecord.currentTime) := by
    rw [stamps, Spacing.Spaced]
    norm_num
  have bound : frameBound (3 / 4) (1 / 60) = 46 := by
    rw [frameBound]
    norm_num
  have edits : ∀ event ∈ sampleEvents, event.Within (3 / 4) := by
    simp [sampleEvents, Event.Within]
  obtain ⟨held, -⟩ := play_bounded rfl rfl (by decide +kernel) sample_clamped (le_refl _) edits ran
    (by norm_num) spaced
  exact ⟨pawn, records, ran, bound ▸ held⟩

end SmFighting
