import SmFighting.FrameBuffer

namespace SmFighting

variable {α σ μ : Type} [DecidableEq α] {assets : Assets α σ μ}

theorem paired_buffers {start pawn : AFGDefaultPawn α μ} {events : List Event}
    {records : List (TickRecord assets)} (emptyStamps : start.inputTimeStamps = [])
    (emptyStream : start.inputStream = []) (nonneg : 0 ≤ start.inputExpirationTime)
    (clamped : ∀ event ∈ events, event.Clamped)
    (ran : runPawn assets start events = .ok (pawn, records)) :
    (∃ m, pawn.inputTimeStamps = (records.map TickRecord.currentTime).drop m ∧
        pawn.inputStream = (records.flatMap TickRecord.atoms).drop (3 * m)) ∧
      pawn.inputStream.length = 3 * pawn.inputTimeStamps.length := by
  obtain ⟨history, gone, buffer, inv⟩ := run_bufferInv emptyStamps emptyStream nonneg clamped ran
  obtain ⟨stampsLength, streamLength⟩ := holds_lengths inv.holds
  refine ⟨⟨gone, ?_, ?_⟩, by rw [streamLength, stampsLength]⟩
  · rw [inv.holds.stamps, inv.shows.2, List.map_drop, inv.recorded.stamps]
  · have atoms : history.flatMap InputFrame.atoms = records.flatMap TickRecord.atoms := by
      rw [List.flatMap_def, List.flatMap_def, inv.recorded.atoms]
    calc
      _ = (history.drop gone).flatMap InputFrame.atoms := by rw [inv.holds.stream, inv.shows.2]
      _ = (records.flatMap TickRecord.atoms).drop (3 * gone) := by rw [← flatMap_atoms_drop, atoms]

theorem paired_buffers_sample :
    ∃ pawn records, runPawn sampleAssets (samplePawn .standing) sampleEvents = .ok (pawn, records) ∧
      (∃ m, pawn.inputTimeStamps = (records.map TickRecord.currentTime).drop m ∧
        pawn.inputStream = (records.flatMap TickRecord.atoms).drop (3 * m)) ∧
      pawn.inputStream.length = 3 * pawn.inputTimeStamps.length := by
  obtain ⟨⟨pawn, records⟩, ran⟩ := sample_runs
  exact ⟨pawn, records, ran, paired_buffers rfl rfl (by decide +kernel) sample_clamped ran⟩

theorem tick_in_range {start pawn : AFGDefaultPawn α μ} {events : List Event}
    {records : List (TickRecord assets)} (emptyStamps : start.inputTimeStamps = [])
    (emptyStream : start.inputStream = []) (nonneg : 0 ≤ start.inputExpirationTime)
    (clamped : ∀ event ∈ events, event.Clamped)
    (ran : runPawn assets start events = .ok (pawn, records)) (deltaSeconds currentTime : Rat) :
    (∀ atoms, pawn.frameAtoms = .ok atoms →
      ∃ seen, (pawn.recordFrame atoms currentTime).pruneInput currentTime = .ok seen ∧
        ∀ current result, tryLinks seen.timeInCurrentMove seen.inputStream 0 (-1)
            (assets.move current).linkedMoves {} = .ok result →
          result.smResult.completionType = .accepted → result.smResult.dataIndex % 3 = 0 →
            result.smResult.dataIndex ≤ seen.inputStream.length ∧
              result.smResult.dataIndex / 3 ≤ seen.inputTimeStamps.length) ∧
      tick assets pawn deltaSeconds currentTime ≠ .error .inputTimeStampsRange ∧
      tick assets pawn deltaSeconds currentTime ≠ .error .removeAtRange := by
  obtain ⟨history, gone, buffer, inv⟩ := run_bufferInv emptyStamps emptyStream nonneg clamped ran
  have inRange : ∀ fault, fault = .inputTimeStampsRange ∨ fault = .removeAtRange →
      tick assets pawn deltaSeconds currentTime ≠ .error fault := by
    intro fault outside failed
    rcases bufferInv_fault inv failed with rfl | rfl | rfl <;> simp at outside
  refine ⟨fun atoms recorded => ?_, inRange _ (.inl rfl), inRange _ (.inr rfl)⟩
  obtain ⟨seen, held, pruned, holds⟩ := bufferInv_prunes inv recorded currentTime
  exact ⟨seen, pruned, fun current result tried accepted whole =>
    holds_consumes holds tried accepted whole⟩

theorem tick_in_range_sample :
    ∃ pawn records, runPawn sampleAssets (samplePawn .standing) sampleEvents = .ok (pawn, records) ∧
      tick sampleAssets pawn (1 / 60) 1 ≠ .error .inputTimeStampsRange ∧
      tick sampleAssets pawn (1 / 60) 1 ≠ .error .removeAtRange := by
  obtain ⟨⟨pawn, records⟩, ran⟩ := sample_runs
  exact ⟨pawn, records, ran,
    (tick_in_range rfl rfl (by decide +kernel) sample_clamped ran (1 / 60) 1).2⟩

def framesOf : List Rat → List (Option α) → List (Rat × List (Option α))
  | [], _ => []
  | stamp :: stamps, stream => (stamp, stream.take 3) :: framesOf stamps (stream.drop 3)

/-- The frames that the arrays of a pawn hold: each time stamp with its own three atoms. -/
def AFGDefaultPawn.frames (pawn : AFGDefaultPawn α μ) : List (Rat × List (Option α)) :=
  framesOf pawn.inputTimeStamps pawn.inputStream

omit [DecidableEq α] in
theorem holds_frames {pawn : AFGDefaultPawn α μ} {buffer : List (InputFrame α)}
    (holds : Holds pawn buffer) :
    pawn.frames = buffer.map (fun frame => (frame.stamp, frame.atoms)) := by
  rw [AFGDefaultPawn.frames, holds.stamps, holds.stream]
  clear holds
  induction buffer with
  | nil => rfl
  | cons frame buffer ih =>
      have three : frame.atoms.length = 3 := frame.whole
      simp only [List.map_cons, List.flatMap_cons, framesOf]
      rw [← three, List.take_left, List.drop_left, ih]

/-- With game times that never go back, the prune step of a Tick keeps exactly the frames, among
those held before it and the new one, that have not expired; so the frames that a move switch gives
up are none of them older than the expiration time. -/
theorem prune_exact {start pawn : AFGDefaultPawn α μ} {events : List Event}
    {records : List (TickRecord assets)} (emptyStamps : start.inputTimeStamps = [])
    (emptyStream : start.inputStream = []) (nonneg : 0 ≤ start.inputExpirationTime)
    (clamped : ∀ event ∈ events, event.Clamped)
    (ran : runPawn assets start events = .ok (pawn, records)) {deltaSeconds currentTime : Rat}
    {record : TickRecord assets} (ticked : tick assets pawn deltaSeconds currentTime = .ok record)
    (monotone : (records.map TickRecord.currentTime ++ [currentTime]).Pairwise (· ≤ ·)) :
    record.after.inputTimeStamps.Pairwise (· ≤ ·) ∧
      record.seen.frames = (pawn.frames ++ [(currentTime, record.atoms)]).filter
        (fun frame => decide (frame.1 + pawn.inputExpirationTime ≥ currentTime)) ∧
      (record.followed ≠ none → ∃ n, record.after.frames = record.seen.frames.drop n ∧
        ∀ frame ∈ record.seen.frames.take n, currentTime - pawn.inputExpirationTime ≤ frame.1) := by
  obtain ⟨history, gone, buffer, inv⟩ := run_bufferInv emptyStamps emptyStream nonneg clamped ran
  obtain ⟨seen, frame, n, expired, step, shows, next⟩ := bufferInv_tick inv ticked
  obtain ⟨-, rfl, -, rfl⟩ := tick_complete ticked
  have sorted : ((history ++ [frame]).map InputFrame.stamp).Pairwise (· ≤ ·) := by
    rw [List.map_append, inv.recorded.stamps, List.map_singleton, step.stamp]
    exact monotone
  have held : buffer ++ [frame] = (history ++ [frame]).drop gone := by
    rw [List.drop_append_of_le_length inv.shows.1, ← inv.shows.2]
  have fresh : ((buffer ++ [frame]).Pairwise (fun a b =>
      stillFresh record.before.inputExpirationTime record.currentTime a.stamp = true →
        stillFresh record.before.inputExpirationTime record.currentTime b.stamp = true)) := by
    rw [held]
    refine ((List.pairwise_map.mp sorted).drop).imp ?_
    intro a b older keeps
    have bound : a.stamp + record.before.inputExpirationTime ≥ record.currentTime :=
      of_decide_eq_true keeps
    exact decide_eq_true (bound.trans (by gcongr))
  have kept : record.seen.frames = (record.before.frames ++ [(record.currentTime, record.atoms)]).filter
      (fun frame => decide (frame.1 + record.before.inputExpirationTime ≥ record.currentTime)) := by
    have whole : record.before.frames ++ [(record.currentTime, record.atoms)] =
        (buffer ++ [frame]).map (fun frame => (frame.stamp, frame.atoms)) := by
      rw [holds_frames inv.holds, ← step.stamp, ← step.atoms, List.map_append, List.map_singleton]
    calc
      _ = seen.map (fun frame => (frame.stamp, frame.atoms)) := holds_frames step.holdsSeen
      _ = ((buffer ++ [frame]).filter (fun held => stillFresh record.before.inputExpirationTime
            record.currentTime held.stamp)).map (fun frame => (frame.stamp, frame.atoms)) := by
        rw [step.pruned, prune, Window.drop_findIdx_eq_filter _ _ fresh]
      _ = _ := by
        rw [whole, List.filter_map]
        rfl
  refine ⟨?_, kept, fun _ => ⟨n, ?_, ?_⟩⟩
  · rw [step.holdsAfter.stamps, next.shows.2, List.map_drop]
    exact sorted.drop
  · rw [holds_frames step.holdsAfter, holds_frames step.holdsSeen, List.map_drop]
  · intro old member
    have passed := List.mem_of_mem_take member
    rw [kept] at passed
    have bound := of_decide_eq_true (List.mem_filter.mp passed).2
    exact sub_le_iff_le_add.mpr bound

theorem prune_exact_sample :
    ∃ pawn records record,
      runPawn sampleAssets (samplePawn .standing) (sampleEvents.take 5) = .ok (pawn, records) ∧
      tick sampleAssets pawn (1 / 60) (7 / 60) = .ok record ∧
      record.after.inputTimeStamps.Pairwise (· ≤ ·) ∧
      record.seen.frames = (pawn.frames ++ [(7 / 60, record.atoms)]).filter
        (fun frame => decide (frame.1 + pawn.inputExpirationTime ≥ 7 / 60)) := by
  obtain ⟨⟨after, records⟩, ran⟩ := sample_runs
  have times : ((runPawn sampleAssets (samplePawn .standing) (sampleEvents.take 5)).toOption.map
      (fun result => result.2.map TickRecord.currentTime)) = some [0, 1 / 10] := by
    decide +kernel
  have split : sampleEvents = sampleEvents.take 5 ++ [.tick (1 / 60) (7 / 60)] := rfl
  rw [split] at ran
  obtain ⟨pawn, before, record, ranBefore, ticked, -, -⟩ := run_lastTick ran
  rw [ranBefore] at times
  have stamps : before.map TickRecord.currentTime = [0, 1 / 10] := Option.some.inj times
  have monotone : (before.map TickRecord.currentTime ++ [(7 / 60 : Rat)]).Pairwise (· ≤ ·) := by
    rw [stamps]
    decide +kernel
  obtain ⟨sorted, kept, -⟩ := prune_exact rfl rfl (by decide +kernel)
    (fun event member => sample_clamped event (List.mem_of_mem_take member)) ranBefore ticked monotone
  exact ⟨pawn, before, record, ranBefore, ticked, sorted, kept⟩

end SmFighting
