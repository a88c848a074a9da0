import SmFighting.MoveSequence
import SmFighting.Library.Crossing
import Mathlib.Data.List.Induction

namespace SmFighting

variable {α σ μ : Type} [DecidableEq α] {assets : Assets α σ μ}

structure TimeInv (pawn : AFGDefaultPawn α μ) (records : List (TickRecord assets)) : Prop where
  timed : pawn.timeInCurrentMove = timeInMove records
  ticks : ∀ number (record : TickRecord assets), records[number]? = some record →
    record.Complete ∧ record.before.timeInCurrentMove = timeInMove (records.take number)

theorem timeInv_tick {record : TickRecord assets} {records : List (TickRecord assets)}
    (inv : TimeInv record.before records) (complete : record.Complete) :
    TimeInv record.after (records ++ [record]) := by
  constructor
  · exact timeInMove_tick complete inv.timed
  · intro number found located
    rcases Window.push_cases located with ⟨old, located⟩ | ⟨rfl, rfl⟩
    · rw [List.take_append_of_le_length (by omega)]
      exact inv.ticks number found located
    · rw [List.take_left]
      exact ⟨complete, inv.timed⟩

theorem run_timeInv {start pawn : AFGDefaultPawn α μ} {events : List Event}
    {records : List (TickRecord assets)} (still : start.timeInCurrentMove = 0)
    (ran : runPawn assets start events = .ok (pawn, records)) : TimeInv pawn records := by
  apply EventRun.run_invariant (fun _ pawn records => TimeInv pawn records) (fun _ => True) _
    (fun _ _ => trivial) ⟨still, fun number record located => by cases located⟩ ran
  intro done s outputs event t output inv _ reaction
  rcases react_cases reaction with ⟨record, complete, rfl, rfl, rfl⟩ | ⟨_, _, _, rfl, rfl⟩
  · exact timeInv_tick inv complete
  · rw [List.append_nil]
    exact ⟨inv.timed, inv.ticks⟩

/-- The start of play, or right after a Tick that followed a link. -/
def FreshMove (earlier : List (TickRecord assets)) : Prop :=
  earlier = [] ∨ ∃ record, earlier.getLast? = some record ∧ record.followed ≠ none

omit [DecidableEq α] in
theorem timeInMove_stretch {earlier stretch : List (TickRecord assets)} (fresh : FreshMove earlier)
    (stays : ∀ record ∈ stretch, record.followed = none) :
    timeInMove (earlier ++ stretch) = (stretch.map TickRecord.deltaSeconds).sum := by
  induction stretch using List.reverseRecOn with
  | nil =>
      rw [List.append_nil]
      rcases fresh with rfl | ⟨record, last, followed⟩
      · rfl
      · obtain ⟨init, rfl⟩ := List.getLast?_eq_some_iff.mp last
        obtain ⟨link, switched⟩ := Option.ne_none_iff_exists'.mp followed
        rw [timeInMove_concat, switched]
        rfl
  | append_singleton stretch record ih =>
      have stayed := stays record (by simp)
      have before := ih (fun other member => stays other (List.mem_append_left _ member))
      rw [← List.append_assoc, timeInMove_concat, stayed, before, List.map_append, List.sum_append]
      simp

/-- A window that is at least as long as each Tick of a stretch is met by one of the Ticks, if the
stretch leads past it. -/
theorem window_met {start pawn : AFGDefaultPawn α μ} {events : List Event}
    {records earlier stretch later : List (TickRecord assets)}
    (still : start.timeInCurrentMove = 0)
    (ran : runPawn assets start events = .ok (pawn, records))
    (split : records = earlier ++ stretch ++ later) (fresh : FreshMove earlier)
    (stays : ∀ record ∈ stretch, record.followed = none) (window : FVector2D) (low : 0 ≤ window.x)
    (ordered : window.x ≤ window.y)
    (short : ∀ record ∈ stretch, record.deltaSeconds ≤ window.y - window.x)
    (exceeds : ∃ last, stretch.getLast? = some last ∧ window.y < last.after.timeInCurrentMove) :
    ∃ record ∈ stretch, ∃ current, record.seen.currentMove = some current ∧
      tryLinks record.seen.timeInCurrentMove record.seen.inputStream 0 (-1)
        (assets.move current).linkedMoves {} = .ok record.moveLinkToFollow ∧
      record.seen.timeInCurrentMove =
        clamp record.seen.timeInCurrentMove window.x window.y := by
  have inv := run_timeInv still ran
  -- the time that a Tick of the stretch starts with
  have starts : ∀ before record after, stretch = before ++ record :: after →
      record.Complete ∧ record.before.timeInCurrentMove =
        (before.map TickRecord.deltaSeconds).sum := by
    intro before record after part
    have whole : records = (earlier ++ before) ++ record :: (after ++ later) := by
      simp [split, part]
    have located : records[(earlier ++ before).length]? = some record := by
      rw [whole]
      simp
    have stayed : ∀ other ∈ before, other.followed = none :=
      fun other member => stays other (part ▸ List.mem_append_left _ member)
    obtain ⟨complete, time⟩ := inv.ticks _ record located
    rw [whole, List.take_left, timeInMove_stretch fresh stayed] at time
    exact ⟨complete, time⟩
  have above : window.y < 0 + (stretch.map TickRecord.deltaSeconds).sum := by
    rcases exceeds with ⟨last, final, past⟩
    obtain ⟨init, part⟩ := List.getLast?_eq_some_iff.mp final
    obtain ⟨complete, time⟩ := starts init last [] part
    obtain ⟨current, -, -, -, counted⟩ := complete_stayed complete (stays last (by simp [part]))
    calc
      window.y < last.after.timeInCurrentMove := past
      _ = (init.map TickRecord.deltaSeconds).sum + last.deltaSeconds := by rw [counted, time]
      _ = 0 + (stretch.map TickRecord.deltaSeconds).sum := by simp [part]
  obtain ⟨before, record, after, part, lower, upper⟩ :=
    Crossing.crossing TickRecord.deltaSeconds stretch 0 window.x window.y short
      (low.trans ordered) above
  rw [zero_add] at lower upper
  obtain ⟨complete, time⟩ := starts before record after part
  obtain ⟨stamps, stream, seen⟩ := seen_frame complete
  rcases complete.tried with ⟨current, found, tried, -⟩
  refine ⟨record, by simp [part], current, found, tried, ?_⟩
  rw [clamp_fixed, seen]
  simp only
  rw [time]
  exact ⟨lower, upper⟩

theorem window_met_sample :
    ∃ pawn records, runPawn sampleAssets (samplePawn .standing)
        [.tick (1 / 10) 0, .tick (1 / 10) (1 / 10)] = .ok (pawn, records) ∧
      ∃ record ∈ records, ∃ current, record.seen.currentMove = some current ∧
        tryLinks record.seen.timeInCurrentMove record.seen.inputStream 0 (-1)
          (sampleAssets.move current).linkedMoves {} = .ok record.moveLinkToFollow ∧
        record.seen.timeInCurrentMove =
          clamp record.seen.timeInCurrentMove (1 / 20) (3 / 20) := by
  have runs : ∃ result, runPawn sampleAssets (samplePawn .standing)
      [.tick (1 / 10) 0, .tick (1 / 10) (1 / 10)] = .ok result :=
    faultOf_none.mp (by decide +kernel)
  rcases runs with ⟨⟨pawn, records⟩, ran⟩
  have ticks : (runPawn sampleAssets (samplePawn .standing)
      [.tick (1 / 10) 0, .tick (1 / 10) (1 / 10)]).toOption.map (fun result => result.2.map
        (fun record => (record.followed.isNone, record.deltaSeconds,
          record.after.timeInCurrentMove))) =
      some [(true, 1 / 10, 1 / 10), (true, 1 / 10, 1 / 5)] := by
    decide +kernel
  rw [ran] at ticks
  obtain ⟨first, rest, rfl, one, more⟩ := List.map_eq_cons_iff.mp (Option.some.inj ticks)
  obtain ⟨second, rest, rfl, two, last⟩ := List.map_eq_cons_iff.mp more
  obtain rfl := List.map_eq_nil_iff.mp last
  simp only [Prod.mk.injEq, Option.isNone_iff_eq_none] at one two
  have exceeds : (3 / 20 : Rat) < second.after.timeInCurrentMove := by
    rw [two.2.2]
    decide +kernel
  refine ⟨pawn, _, ran, ?_⟩
  apply window_met rfl ran (List.append_nil _).symm (.inl rfl) (by simp [one, two])
    ⟨1 / 20, 3 / 20⟩ (by decide +kernel) (by decide +kernel) _ ⟨second, rfl, exceeds⟩
  intro record member
  simp only [List.mem_cons, List.not_mem_nil, or_false] at member
  rcases member with rfl | rfl
  · rw [one.2.1]
    decide +kernel
  · rw [two.2.1]
    decide +kernel

end SmFighting
