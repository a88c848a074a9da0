import Mathlib.Algebra.Order.Floor.Semiring
import Mathlib.Data.List.Chain
import Mathlib.Tactic.Linarith
import Mathlib.Tactic.Ring

namespace Spacing

variable {K : Type*} [Field K] [LinearOrder K] [IsStrictOrderedRing K]

def Spaced (gap : K) (times : List K) : Prop :=
  times.IsChain (fun a b => a + gap ≤ b)

theorem spaced_apart {gap : K} {times : List K} (spaced : Spaced gap times) {i k : Nat} {a b : K}
    (first : times[i]? = some a) (last : times[i + k]? = some b) : a + k * gap ≤ b := by
  induction k generalizing b with
  | zero =>
      rw [Nat.add_zero, first] at last
      rw [Nat.cast_zero, zero_mul, add_zero, Option.some.inj last]
  | succ k ih =>
      obtain ⟨inside, rfl⟩ := List.getElem?_eq_some_iff.mp last
      have before : times[i + k]? = some times[i + k] := List.getElem?_eq_getElem (by omega)
      have step := List.isChain_iff_getElem.mp spaced (i + k) inside
      calc
        a + (k + 1 : Nat) * gap = a + k * gap + gap := by
          rw [Nat.cast_add, Nat.cast_one]
          ring
        _ ≤ times[i + k] + gap := by
          have low := ih before
          linarith
        _ ≤ times[i + (k + 1)] := step

/-- Times `n` places apart that lie within a span. -/
theorem places_le [FloorSemiring K] {gap span : K} {times : List K} (positive : 0 < gap)
    (spaced : Spaced gap times) {i n : Nat} {a b : K} (first : times[i]? = some a)
    (last : times[i + n]? = some b) (within : b ≤ a + span) : n ≤ ⌊span / gap⌋₊ := by
  have apart := spaced_apart spaced first last
  apply Nat.le_floor
  rw [le_div_iff₀ positive]
  linarith

theorem spaced_sorted {gap : K} {times : List K} (nonneg : 0 ≤ gap) (spaced : Spaced gap times) :
    times.Pairwise (· ≤ ·) := by
  apply List.isChain_iff_pairwise.mp
  apply List.IsChain.imp _ spaced
  intro a b apart
  linarith

end Spacing
