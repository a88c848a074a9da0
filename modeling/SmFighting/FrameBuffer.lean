import SmFighting.FollowedLinks
import SmFighting.Library.Window

/-! The pawn's two parallel arrays as one buffer of frames. The buffer is what they are for: a Tick
records one frame at the back, prunes expired frames from the front and, when it follows a link,
gives up some more of them. The arrays hold such a buffer in every state of a run. -/

namespace SmFighting

variable {α σ μ : Type} [DecidableEq α] {assets : Assets α σ μ}

structure InputFrame (α : Type) where
  stamp : Rat
  atoms : List (Option α)
  whole : atoms.length = 1 + EFGInputButtons.count

def prune (expiration currentTime : Rat) (buffer : List (InputFrame α)) : List (InputFrame α) :=
  buffer.drop (buffer.findIdx (fun frame => stillFresh expiration currentTime frame.stamp))

/-- The refinement relation: both arrays are spelt out by the same frames. -/
structure Holds (pawn : AFGDefaultPawn α μ) (buffer : List (InputFrame α)) : Prop where
  stamps : pawn.inputTimeStamps = buffer.map InputFrame.stamp
  stream : pawn.inputStream = buffer.flatMap InputFrame.atoms

section
omit [DecidableEq α]

theorem flatMap_atoms_length (buffer : List (InputFrame α)) :
    (buffer.flatMap InputFrame.atoms).length = 3 * buffer.length :=
  Window.flatMap_length InputFrame.atoms buffer (fun frame _ => frame.whole)

theorem flatMap_atoms_drop (buffer : List (InputFrame α)) (n : Nat) :
    (buffer.flatMap InputFrame.atoms).drop (3 * n) = (buffer.drop n).flatMap InputFrame.atoms :=
  Window.flatMap_drop InputFrame.atoms buffer (fun frame _ => frame.whole) n

theorem holds_lengths {pawn : AFGDefaultPawn α μ} {buffer : List (InputFrame α)}
    (holds : Holds pawn buffer) :
    pawn.inputTimeStamps.length = buffer.length ∧ pawn.inputStream.length = 3 * buffer.length := by
  rw [holds.stamps, holds.stream, List.length_map, flatMap_atoms_length]
  exact ⟨rfl, rfl⟩

theorem holds_record {pawn : AFGDefaultPawn α μ} {buffer : List (InputFrame α)}
    (holds : Holds pawn buffer) (frame : InputFrame α) :
    Holds (pawn.recordFrame frame.atoms frame.stamp) (buffer ++ [frame]) where
  stamps := by simp [AFGDefaultPawn.recordFrame, holds.stamps]
  stream := by simp [AFGDefaultPawn.recordFrame, holds.stream]

theorem holds_drop {pawn cut : AFGDefaultPawn α μ} {buffer : List (InputFrame α)} {n : Nat}
    (holds : Holds pawn buffer) (stamps : cut.inputTimeStamps = pawn.inputTimeStamps.drop n)
    (stream : cut.inputStream = pawn.inputStream.drop (3 * n)) : Holds cut (buffer.drop n) where
  stamps := by rw [stamps, holds.stamps, List.map_drop]
  stream := by rw [stream, holds.stream, flatMap_atoms_drop]

/-- The newest frame is fresh, so the prune loop never runs past the time stamps and what it cuts
off is the same number of frames in both arrays. -/
theorem pruneInput_holds {pawn : AFGDefaultPawn α μ} {buffer : List (InputFrame α)}
    {frame : InputFrame α} (holds : Holds pawn (buffer ++ [frame]))
    (nonneg : 0 ≤ pawn.inputExpirationTime) :
    ∃ pruned, pawn.pruneInput frame.stamp = .ok pruned ∧
      Holds pruned (prune pawn.inputExpirationTime frame.stamp (buffer ++ [frame])) := by
  obtain ⟨stampsLength, streamLength⟩ := holds_lengths holds
  have newest : stillFresh pawn.inputExpirationTime frame.stamp frame.stamp = true :=
    decide_eq_true (le_add_of_nonneg_right nonneg)
  have breaks := pruneLoop_breaks pawn.inputTimeStamps pawn.inputExpirationTime frame.stamp
    pawn.inputStream.length 0 (by omega)
    ⟨frame.stamp, by simp [holds.stamps], newest⟩
  rw [List.drop_zero, Nat.zero_add, holds.stamps, List.findIdx_map] at breaks
  have bound := Window.findIdx_lt
    (fun held : InputFrame α => stillFresh pawn.inputExpirationTime frame.stamp held.stamp)
    buffer frame newest
  have cut := AFGDefaultPawn.pruneInput_cuts pawn frame.stamp _ (by rw [holds.stamps]; exact breaks)
    (by rw [stampsLength]; exact bound.le)
    (by rw [streamLength, Nat.mul_comm]; exact Nat.mul_le_mul_left 3 bound.le)
  refine ⟨_, cut, holds_drop holds rfl ?_⟩
  rw [Nat.mul_comm]
  rfl

theorem recordFrame_prunes {pawn : AFGDefaultPawn α μ} {buffer : List (InputFrame α)}
    {atoms : List (Option α)} (holds : Holds pawn buffer) (nonneg : 0 ≤ pawn.inputExpirationTime)
    (recorded : pawn.frameAtoms = .ok atoms) (currentTime : Rat) :
    ∃ frame seen, frame.stamp = currentTime ∧ frame.atoms = atoms ∧
      (pawn.recordFrame atoms currentTime).pruneInput currentTime = .ok seen ∧
      Holds seen (prune pawn.inputExpirationTime currentTime (buffer ++ [frame])) := by
  obtain ⟨directional, left, top, -, -, -, three⟩ := AFGDefaultPawn.frameAtoms_ok.mp recorded
  let frame : InputFrame α := ⟨currentTime, atoms, by rw [three]; rfl⟩
  obtain ⟨seen, pruned, holdsSeen⟩ := pruneInput_holds (holds_record holds frame) nonneg
  exact ⟨frame, seen, rfl, rfl, pruned, holdsSeen⟩

end

/-- Over a buffer of whole frames, an accepted index that is a multiple of three is inside both
arrays: an overshoot of less than a frame is not. -/
theorem holds_consumes {seen : AFGDefaultPawn α μ} {buffer : List (InputFrame α)}
    (holds : Holds seen buffer) {current : μ} {result : FFGMoveLinkToFollow assets.state μ}
    (tried : tryLinks seen.timeInCurrentMove seen.inputStream 0 (-1)
      (assets.move current).linkedMoves {} = .ok result)
    (accepted : result.smResult.completionType = .accepted)
    (whole : result.smResult.dataIndex % 3 = 0) :
    result.smResult.dataIndex ≤ seen.inputStream.length ∧
      result.smResult.dataIndex / 3 ≤ seen.inputTimeStamps.length := by
  obtain ⟨stampsLength, streamLength⟩ := holds_lengths holds
  have overshoot := tryLinks_overshoot tried accepted
  omega

/-- One Tick on the buffer: `frame` is recorded, `seen` is left after pruning, and `n` of its frames
are given up. -/
structure TickBuffer (record : TickRecord assets) (buffer seen : List (InputFrame α))
    (frame : InputFrame α) (n : Nat) : Prop where
  stamp : frame.stamp = record.currentTime
  atoms : frame.atoms = record.atoms
  pruned : seen = prune record.before.inputExpirationTime record.currentTime (buffer ++ [frame])
  holdsSeen : Holds record.seen seen
  available : n ≤ seen.length
  holdsAfter : Holds record.after (seen.drop n)
  kept : record.followed = none → n = 0
  covers : record.followed ≠ none → ∀ x, x < record.moveLinkToFollow.smResult.dataIndex →
    x < record.seen.inputStream.length → x < 3 * n

theorem tick_buffer {record : TickRecord assets} (complete : record.Complete)
    {buffer : List (InputFrame α)} (holds : Holds record.before buffer)
    (nonneg : 0 ≤ record.before.inputExpirationTime) :
    ∃ seen frame n, TickBuffer record buffer seen frame n := by
  obtain ⟨frame, pruned, stamp, atoms, done, holdsPruned⟩ :=
    recordFrame_prunes holds nonneg complete.recorded record.currentTime
  obtain rfl : pruned = record.seen := Except.ok.inj (done.symm.trans complete.pruned)
  obtain ⟨stampsLength, streamLength⟩ := holds_lengths holdsPruned
  rcases complete.tried with ⟨current, -, tried, ending⟩
  rcases ending with ⟨accepted, link, target, spent, -, -, spending, followed, after⟩ |
    ⟨-, followed, after⟩
  · rcases spendInput_cases spending with ⟨-, rfl⟩ | ⟨whole, enough, -, rfl⟩
    · -- cleared: every frame is given up
      refine ⟨_, frame, _, stamp, atoms, rfl, holdsPruned, Nat.le_refl _, ?_, ?_, ?_⟩
      · rw [List.drop_length, after]
        exact ⟨rfl, rfl⟩
      · simp [followed]
      · intro _ x _ inside
        rwa [streamLength] at inside
    · -- consumed: DataIndex is a whole number of frames
      refine ⟨_, frame, record.moveLinkToFollow.smResult.dataIndex / 3, stamp, atoms, rfl,
        holdsPruned,
        by rwa [stampsLength] at enough, ?_, ?_, ?_⟩
      · rw [after]
        apply holds_drop holdsPruned rfl
        rw [Nat.mul_div_cancel' (Nat.dvd_of_mod_eq_zero whole)]
      · simp [followed]
      · intro _ x below _
        rwa [Nat.mul_div_cancel' (Nat.dvd_of_mod_eq_zero whole)]
  · refine ⟨_, frame, 0, stamp, atoms, rfl, holdsPruned, Nat.zero_le _, ?_, fun _ => rfl, ?_⟩
    · rw [after, List.drop_zero]
      exact ⟨holdsPruned.stamps, holdsPruned.stream⟩
    · exact fun impossible => absurd followed impossible

structure Recorded (records : List (TickRecord assets)) (history : List (InputFrame α)) : Prop where
  stamps : history.map InputFrame.stamp = records.map TickRecord.currentTime
  atoms : history.map InputFrame.atoms = records.map TickRecord.atoms

structure BufferInv (pawn : AFGDefaultPawn α μ) (records : List (TickRecord assets))
    (history : List (InputFrame α)) (gone : Nat) (buffer : List (InputFrame α)) : Prop where
  recorded : Recorded records history
  shows : Window.Shows history gone buffer
  holds : Holds pawn buffer
  nonneg : 0 ≤ pawn.inputExpirationTime

omit [DecidableEq α] in
theorem bufferInv_start {start : AFGDefaultPawn α μ} (emptyStamps : start.inputTimeStamps = [])
    (emptyStream : start.inputStream = []) (nonneg : 0 ≤ start.inputExpirationTime) :
    BufferInv start ([] : List (TickRecord assets)) [] 0 [] where
  recorded := ⟨rfl, rfl⟩
  shows := ⟨Nat.zero_le _, rfl⟩
  holds := ⟨emptyStamps, emptyStream⟩
  nonneg := nonneg

omit [DecidableEq α] in
theorem bufferInv_prunes {pawn : AFGDefaultPawn α μ} {records : List (TickRecord assets)}
    {history buffer : List (InputFrame α)} {gone : Nat}
    (inv : BufferInv pawn records history gone buffer) {atoms : List (Option α)}
    (recorded : pawn.frameAtoms = .ok atoms) (currentTime : Rat) :
    ∃ seen held, (pawn.recordFrame atoms currentTime).pruneInput currentTime = .ok seen ∧
      Holds seen held := by
  obtain ⟨frame, seen, -, -, pruned, holds⟩ :=
    recordFrame_prunes inv.holds inv.nonneg recorded currentTime
  exact ⟨seen, _, pruned, holds⟩

omit [DecidableEq α] in
theorem bufferInv_seen {pawn seen : AFGDefaultPawn α μ} {records : List (TickRecord assets)}
    {history buffer : List (InputFrame α)} {gone : Nat}
    (inv : BufferInv pawn records history gone buffer) {atoms : List (Option α)} {currentTime : Rat}
    (recorded : pawn.frameAtoms = .ok atoms)
    (pruned : (pawn.recordFrame atoms currentTime).pruneInput currentTime = .ok seen) :
    ∃ held, Holds seen held := by
  obtain ⟨seen', held, pruned', holds⟩ := bufferInv_prunes inv recorded currentTime
  rw [Except.ok.inj (pruned.symm.trans pruned')]
  exact ⟨held, holds⟩

theorem bufferInv_fault {pawn : AFGDefaultPawn α μ} {records : List (TickRecord assets)}
    {history buffer : List (InputFrame α)} {gone : Nat}
    (inv : BufferInv pawn records history gone buffer) {deltaSeconds currentTime : Rat} {fault : Fault}
    (failed : tick assets pawn deltaSeconds currentTime = .error fault) :
    fault = .nullPointer ∨ fault = .buttonAtomsRange ∨ fault = .checkFailed := by
  cases tick_error failed with
  | frameAtoms failed => exact (AFGDefaultPawn.frameAtoms_error failed).imp_right .inl
  | pruneInput recorded failed =>
      obtain ⟨seen, held, pruned, -⟩ := bufferInv_prunes inv recorded currentTime
      cases failed.symm.trans pruned
  | currentMove => exact .inl rfl
  | tryLinks recorded pruned found failed => exact .inl (tryLinks_error failed)
  | spendInput recorded pruned found tried accepted linked targeted failed =>
      obtain ⟨held, holds⟩ := bufferInv_seen inv recorded pruned
      rcases (spendInput_error failed).2 with ⟨checked, -⟩ | ⟨-, whole, short⟩
      · exact .inr (.inr checked)
      · have inside := holds_consumes holds tried accepted whole
        omega

/-- A Tick gives up frames at the front only, so the number of frames that are gone just grows. -/
theorem bufferInv_tick {pawn : AFGDefaultPawn α μ} {records : List (TickRecord assets)}
    {history buffer : List (InputFrame α)} {gone : Nat}
    (inv : BufferInv pawn records history gone buffer) {deltaSeconds currentTime : Rat}
    {record : TickRecord assets} (ticked : tick assets pawn deltaSeconds currentTime = .ok record) :
    ∃ seen frame n expired, TickBuffer record buffer seen frame n ∧
      Window.Shows (history ++ [frame]) (gone + expired) seen ∧
      BufferInv record.after (records ++ [record]) (history ++ [frame]) (gone + expired + n)
        (seen.drop n) := by
  obtain ⟨complete, rfl, -, -⟩ := tick_complete ticked
  obtain ⟨seen, frame, n, step⟩ := tick_buffer complete inv.holds inv.nonneg
  obtain ⟨stamps, stream, move, time, after⟩ := after_frame complete
  have newest : stillFresh record.before.inputExpirationTime record.currentTime frame.stamp = true := by
    rw [step.stamp]
    exact decide_eq_true (le_add_of_nonneg_right inv.nonneg)
  have shows := Window.shows_cut (Window.shows_push inv.shows frame)
    (Window.findIdx_lt (fun held : InputFrame α =>
      stillFresh record.before.inputExpirationTime record.currentTime held.stamp)
      buffer frame newest).le
  rw [← prune, ← step.pruned] at shows
  refine ⟨seen, frame, n, _, step, shows, ⟨?_, ?_⟩, Window.shows_cut shows step.available,
    step.holdsAfter, ?_⟩
  · simp [inv.recorded.stamps, step.stamp]
  · simp [inv.recorded.atoms, step.atoms]
  · rw [after]
    exact inv.nonneg

/-- The induction over runs from empty arrays: the arrays hold a buffer in every state, and so does
whatever else the Ticks keep of the records and of the number of frames that are gone. -/
theorem run_buffer (Kept : List (TickRecord assets) → Nat → Prop) (initial : Kept [] 0)
    (preserved : ∀ {pawn : AFGDefaultPawn α μ} {records : List (TickRecord assets)}
      {record : TickRecord assets} {history buffer seen : List (InputFrame α)}
      {gone expired n : Nat} {frame : InputFrame α},
      BufferInv pawn records history gone buffer → Kept records gone → record.Complete →
      TickBuffer record buffer seen frame n →
      Window.Shows (history ++ [frame]) (gone + expired) seen →
      BufferInv record.after (records ++ [record]) (history ++ [frame]) (gone + expired + n)
        (seen.drop n) → Kept (records ++ [record]) (gone + expired + n))
    {start pawn : AFGDefaultPawn α μ} {events : List Event} {records : List (TickRecord assets)}
    (emptyStamps : start.inputTimeStamps = []) (emptyStream : start.inputStream = [])
    (nonneg : 0 ≤ start.inputExpirationTime) (clamped : ∀ event ∈ events, event.Clamped)
    (ran : runPawn assets start events = .ok (pawn, records)) :
    ∃ history gone buffer, BufferInv pawn records history gone buffer ∧ Kept records gone := by
  apply EventRun.run_invariant
    (fun _ pawn records => ∃ history gone buffer,
      BufferInv pawn records history gone buffer ∧ Kept records gone)
    Event.Clamped _ clamped ⟨_, _, _, bufferInv_start emptyStamps emptyStream nonneg, initial⟩ ran
  intro done s outputs event t output held good reaction
  rcases held with ⟨history, gone, buffer, inv, kept⟩
  have same : ∀ {u : AFGDefaultPawn α μ}, u.inputTimeStamps = s.inputTimeStamps →
      u.inputStream = s.inputStream → 0 ≤ u.inputExpirationTime →
      ∃ history gone buffer, BufferInv u (outputs ++ []) history gone buffer ∧
        Kept (outputs ++ []) gone := by
    intro u stamps stream clock
    rw [List.append_nil]
    exact ⟨history, gone, buffer, ⟨inv.recorded, inv.shows,
      ⟨stamps.trans inv.holds.stamps, stream.trans inv.holds.stream⟩, clock⟩, kept⟩
  cases event with
  | tick deltaSeconds currentTime =>
      obtain ⟨record, ticked, rfl, rfl⟩ := react_tick reaction
      obtain ⟨seen, frame, n, expired, step, shows, next⟩ := bufferInv_tick inv ticked
      exact ⟨_, _, _, next, preserved inv kept (tick_complete ticked).1 step shows next⟩
  | editInputExpirationTime value =>
      obtain ⟨rfl, rfl⟩ := Prod.mk.inj (Except.ok.inj reaction)
      exact same rfl rfl good
  | _ =>
      obtain ⟨rfl, rfl⟩ := Prod.mk.inj (Except.ok.inj reaction)
      exact same rfl rfl inv.nonneg

theorem run_bufferInv {start pawn : AFGDefaultPawn α μ} {events : List Event}
    {records : List (TickRecord assets)} (emptyStamps : start.inputTimeStamps = [])
    (emptyStream : start.inputStream = []) (nonneg : 0 ≤ start.inputExpirationTime)
    (clamped : ∀ event ∈ events, event.Clamped)
    (ran : runPawn assets start events = .ok (pawn, records)) :
    ∃ history gone buffer, BufferInv pawn records history gone buffer := by
  obtain ⟨history, gone, buffer, inv, -⟩ := run_buffer (fun _ _ => True) trivial
    (fun _ _ _ _ _ _ => trivial) emptyStamps emptyStream nonneg clamped ran
  exact ⟨history, gone, buffer, inv⟩

end SmFighting
