import Mathlib.Algebra.BigOperators.Group.List.Basic
import Mathlib.Algebra.Order.Group.Unbundled.Basic
import Mathlib.Algebra.Order.Group.Defs

namespace Crossing

variable {E G : Type*} [AddCommGroup G] [LinearOrder G] [IsOrderedAddMonoid G]

/-- The step that leads past the interval starts inside it. -/
theorem crossing (step : E → G) (items : List E) (start low high : G)
    (short : ∀ item ∈ items, step item ≤ high - low) (below : start ≤ high)
    (above : high < start + (items.map step).sum) :
    ∃ before item after, items = before ++ item :: after ∧
      low ≤ start + (before.map step).sum ∧ start + (before.map step).sum ≤ high := by
  induction items generalizing start with
  | nil =>
      rw [List.map_nil, List.sum_nil, add_zero] at above
      exact absurd above (not_lt.mpr below)
  | cons item items ih =>
      rcases lt_or_ge high (start + step item) with past | within
      · refine ⟨[], item, items, rfl, ?_, ?_⟩
        · have stride := short item List.mem_cons_self
          have reached : low < start := by
            calc
              low = high - (high - low) := (sub_sub_cancel high low).symm
              _ ≤ high - step item := sub_le_sub_left stride high
              _ < start := sub_lt_iff_lt_add.mpr past
          simpa using reached.le
        · simpa using below
      · have rest : high < start + step item + (items.map step).sum := by
          rw [add_assoc, ← List.sum_cons, ← List.map_cons]
          exact above
        obtain ⟨before, next, after, split, low', high'⟩ := ih (start + step item)
          (fun other member => short other (List.mem_cons_of_mem item member)) within rest
        refine ⟨item :: before, next, after, congrArg (item :: ·) split, ?_, ?_⟩
        · rw [List.map_cons, List.sum_cons, ← add_assoc]
          exact low'
        · rw [List.map_cons, List.sum_cons, ← add_assoc]
          exact high'

end Crossing
