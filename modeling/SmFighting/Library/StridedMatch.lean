import Mathlib.Data.Nat.ModEq
import Mathlib.Order.Bounds.Basic
import Mathlib.Tactic.Common

/-! Matching stages one after the other by a scan that moves in strides. An occurrence picks one
position for each stage, each in the residue class that the position before it leaves. Taking a
stage at the first position where it hits never loses an occurrence and never ends one later. -/

namespace StridedMatch

variable {L : Nat} {P : Nat → Nat → Prop}

/-- Positions `t k, ..., t (n - 1)` at which the stages `k, ..., n - 1` hit, from `i` on. -/
structure Occurs (L : Nat) (P : Nat → Nat → Prop) (n k i : Nat) (t : Nat → Nat) : Prop where
  first : k < n → i ≤ t k ∧ t k % L = i % L
  later : ∀ m, k ≤ m → m + 1 < n → t m < t (m + 1) ∧ t (m + 1) % L = (t m + 1) % L
  hits : ∀ m, k ≤ m → m < n → P m (t m)

def finish (n k i : Nat) (t : Nat → Nat) : Nat := if k < n then t (n - 1) + 1 else i

theorem occurs_done {n k i : Nat} {t : Nat → Nat} (done : n ≤ k) : Occurs L P n k i t where
  first := fun below => by omega
  later := fun m low high => by omega
  hits := fun m low high => by omega

/-- The exchange step: an occurrence still fits behind position `i` once stage `k` has taken it. -/
theorem occurs_rest {n k i : Nat} {t : Nat → Nat} (below : k < n) (occurs : Occurs L P n k i t) :
    Occurs L P n (k + 1) (i + 1) t where
  first := by
    intro next
    obtain ⟨low, residue⟩ := occurs.first below
    obtain ⟨above, stride⟩ := occurs.later k (Nat.le_refl k) next
    refine ⟨by omega, ?_⟩
    rw [stride, Nat.add_mod, residue, ← Nat.add_mod]
  later := fun m low high => occurs.later m (by omega) high
  hits := fun m low high => occurs.hits m (by omega) high

theorem occurs_cons {n k i : Nat} {t : Nat → Nat} (hit : P k i)
    (occurs : Occurs L P n (k + 1) (i + 1) t) :
    Occurs L P n k i (Function.update t k i) := by
  have behind : ∀ m, k < m → Function.update t k i m = t m := by
    intro m later
    exact Function.update_of_ne (Nat.ne_of_gt later) i t
  constructor
  · intro _
    simp
  · intro m low high
    rw [behind (m + 1) (by omega)]
    rcases Nat.eq_or_lt_of_le low with rfl | inside
    · rw [Function.update_self]
      exact occurs.first high
    · rw [behind m inside]
      exact occurs.later m inside high
  · intro m low high
    rcases Nat.eq_or_lt_of_le low with rfl | inside
    · rw [Function.update_self]
      exact hit
    · rw [behind m inside]
      exact occurs.hits m inside high

theorem occurs_skip {n k i : Nat} {t : Nat → Nat} (below : k < n) (miss : ¬ P k i) :
    Occurs L P n k i t ↔ Occurs L P n k (i + L) t := by
  constructor
  · intro occurs
    refine ⟨fun _ => ?_, occurs.later, occurs.hits⟩
    obtain ⟨low, residue⟩ := occurs.first below
    have moved : t k ≠ i := by
      intro same
      exact miss (same ▸ occurs.hits k (Nat.le_refl k) below)
    have far : i + L ≤ t k := Nat.ModEq.add_le_of_lt (Nat.ModEq.symm residue) (by omega)
    exact ⟨far, by rw [residue, Nat.add_mod_right]⟩
  · intro occurs
    refine ⟨fun _ => ?_, occurs.later, occurs.hits⟩
    obtain ⟨low, residue⟩ := occurs.first below
    rw [Nat.add_mod_right] at residue
    exact ⟨by omega, residue⟩

theorem finish_rest {n k i : Nat} {t : Nat → Nat} (below : k < n)
    (occurs : Occurs L P n k i t) : finish n (k + 1) (i + 1) t ≤ finish n k i t := by
  rw [finish, finish, if_pos below]
  split
  · exact Nat.le_refl _
  · have last : n - 1 = k := by omega
    have low := (occurs.first below).1
    rw [last]
    omega

theorem finish_cons {n k i : Nat} {t : Nat → Nat} (below : k < n) :
    finish n k i (Function.update t k i) = finish n (k + 1) (i + 1) t := by
  rw [finish, finish, if_pos below]
  split
  · rw [Function.update_of_ne (by omega)]
  · have last : n - 1 = k := by omega
    rw [last, Function.update_self]

theorem finish_skip {n k i j : Nat} {t : Nat → Nat} (below : k < n) :
    finish n k i t = finish n k j t := by
  rw [finish, finish, if_pos below, if_pos below]

/-- A scan that takes each stage where it first hits and strides on where it misses: `some` is the
position behind the last stage, `none` a scan that ran out of positions. -/
inductive Scan (L : Nat) (P : Nat → Nat → Prop) (limit n : Nat) : Nat → Nat → Option Nat → Prop
  | done {k i : Nat} (finished : n ≤ k) : Scan L P limit n k i (some i)
  | out {k i : Nat} (below : k < n) (past : limit ≤ i) : Scan L P limit n k i none
  | take {k i : Nat} {result : Option Nat} (below : k < n) (inside : i < limit) (hit : P k i)
      (rest : Scan L P limit n (k + 1) (i + 1) result) : Scan L P limit n k i result
  | skip {k i : Nat} {result : Option Nat} (below : k < n) (inside : i < limit) (miss : ¬ P k i)
      (rest : Scan L P limit n k (i + L) result) : Scan L P limit n k i result

theorem scan_complete {limit n k i : Nat} {result : Option Nat}
    (bounded : ∀ m x, P m x → x < limit) (scan : Scan L P limit n k i result) :
    (∀ j, result = some j → IsLeast {e | ∃ t, Occurs L P n k i t ∧ e = finish n k i t} j) ∧
      (result = none → ¬ ∃ t, Occurs L P n k i t) := by
  induction scan with
  | @done k i finished =>
      refine ⟨?_, fun impossible => by cases impossible⟩
      rintro j ⟨rfl⟩
      have stay : ∀ t, finish n k i t = i := fun t => if_neg (by omega)
      refine ⟨⟨id, occurs_done finished, (stay id).symm⟩, ?_⟩
      intro e finished
      rcases finished with ⟨t, -, rfl⟩
      exact (stay t).ge
  | @out k i below past =>
      refine ⟨fun j impossible => (by cases impossible), ?_⟩
      intro _ found
      rcases found with ⟨t, occurs⟩
      have low := (occurs.first below).1
      have high := bounded k (t k) (occurs.hits k (Nat.le_refl k) below)
      omega
  | @take k i result below inside hit rest ih =>
      constructor
      · intro j found
        obtain ⟨⟨t, occurs, last⟩, least⟩ := ih.1 j found
        refine ⟨⟨Function.update t k i, occurs_cons hit occurs, ?_⟩, ?_⟩
        · rw [finish_cons below, last]
        · intro e finished
          rcases finished with ⟨t', occurs', rfl⟩
          exact (least ⟨t', occurs_rest below occurs', rfl⟩).trans (finish_rest below occurs')
      · intro lost found
        rcases found with ⟨t, occurs⟩
        exact ih.2 lost ⟨t, occurs_rest below occurs⟩
  | @skip k i result below inside miss rest ih =>
      have same : ∀ t, Occurs L P n k i t ↔ Occurs L P n k (i + L) t := fun t =>
        occurs_skip below miss
      constructor
      · intro j found
        have least := ih.1 j found
        simpa only [same, finish_skip (i := i) (j := i + L) below] using least
      · intro lost
        simpa only [same] using ih.2 lost

/-- Positions in rows of `L` cells: stage `m` takes cell `m % L` of row `row m`, which is a later row
wherever the cells start over. -/
structure Rows (L : Nat) (P : Nat → Nat → Prop) (n : Nat) (row : Nat → Nat) : Prop where
  ordered : ∀ m, m + 1 < n → row m ≤ row (m + 1)
  wraps : ∀ m, m + 1 < n → (m + 1) % L = 0 → row m < row (m + 1)
  hits : ∀ m, m < n → P m (L * row m + m % L)

theorem occurs_residue {n : Nat} {t : Nat → Nat} (occurs : Occurs L P n 0 0 t) (m : Nat)
    (below : m < n) : t m % L = m % L := by
  induction m with
  | zero => exact (occurs.first below).2
  | succ m ih =>
      calc
        _ = (t m + 1) % L := (occurs.later m (Nat.zero_le m) below).2
        _ = (m + 1) % L := by rw [Nat.add_mod, ih (by omega), ← Nat.add_mod]

theorem occurs_iff_rows {n : Nat} (positive : 0 < L) :
    (∃ t, Occurs L P n 0 0 t) ↔ ∃ row, Rows L P n row := by
  constructor
  · intro found
    rcases found with ⟨t, occurs⟩
    have cell : ∀ m, m < n → L * (t m / L) + m % L = t m := by
      intro m below
      rw [← occurs_residue occurs m below, Nat.div_add_mod]
    refine ⟨fun m => t m / L, fun m next => ?_, fun m next wraps => ?_, fun m below => ?_⟩
    · exact Nat.div_le_div_right (occurs.later m (Nat.zero_le m) next).1.le
    · have before := cell m (by omega)
      have after := cell (m + 1) next
      have ascending := (occurs.later m (Nat.zero_le m) next).1
      rw [wraps] at after
      by_contra same
      have rows := Nat.mul_le_mul_left L (Nat.le_of_not_lt same)
      omega
    · rw [cell m below]
      exact occurs.hits m (Nat.zero_le m) below
  · intro found
    rcases found with ⟨row, rows⟩
    refine ⟨fun m => L * row m + m % L, fun _ => ⟨Nat.zero_le _, ?_⟩, fun m _ next => ⟨?_, ?_⟩,
      fun m _ below => rows.hits m below⟩
    · rw [Nat.mul_add_mod, Nat.mod_mod]
    · have inside := Nat.mod_lt m positive
      have follows : (m + 1) % L = (m % L + 1) % L := (Nat.mod_add_mod m L 1).symm
      rcases Nat.lt_or_ge (m % L + 1) L with more | last
      · have ordered := Nat.mul_le_mul_left L (rows.ordered m next)
        rw [Nat.mod_eq_of_lt more] at follows
        omega
      · have full : m % L + 1 = L := by omega
        rw [full, Nat.mod_self] at follows
        have later := Nat.mul_le_mul_left L (Nat.succ_le_of_lt (rows.wraps m next follows))
        rw [Nat.mul_succ] at later
        omega
    · calc
        _ = (m + 1) % L := by rw [Nat.mul_add_mod, Nat.mod_mod]
        _ = (L * row m + m % L + 1) % L := by rw [Nat.add_assoc, Nat.mul_add_mod, Nat.mod_add_mod]

end StridedMatch
