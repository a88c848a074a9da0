import Mathlib.Data.Fintype.Card
import Mathlib.Data.Fintype.Pigeonhole

namespace Shortening

variable {α κ : Type*}

/-- A list longer than there are keys has a stretch between two places with the same key. -/
theorem exists_stretch [Fintype κ] (key : List α → κ) {input : List α}
    (long : Fintype.card κ < input.length) :
    ∃ front stretch back, input = front ++ stretch ++ back ∧ front ≠ [] ∧ stretch ≠ [] ∧
      key front = key (front ++ stretch) := by
  obtain ⟨i, j, apart, same⟩ := Fintype.exists_ne_map_eq_of_card_lt
    (fun i : Fin (Fintype.card κ + 1) => key (input.take (i + 1))) (by simp)
  have ordered : ∀ i j : Fin (Fintype.card κ + 1), i < j →
      key (input.take (i + 1)) = key (input.take (j + 1)) →
      ∃ front stretch back, input = front ++ stretch ++ back ∧ front ≠ [] ∧ stretch ≠ [] ∧
        key front = key (front ++ stretch) := by
    intro i j before same
    have short : i.val + 1 ≤ j.val + 1 := Nat.succ_le_succ before.le
    have whole : input.take (i + 1) ++ (input.take (j + 1)).drop (i + 1) = input.take (j + 1) := by
      calc
        _ = (input.take (j + 1)).take (i + 1) ++ (input.take (j + 1)).drop (i + 1) := by
          rw [List.take_take, Nat.min_eq_left short]
        _ = _ := List.take_append_drop _ _
    have inside : j.val < Fintype.card κ + 1 := j.isLt
    have earlier : i.val < j.val := before
    refine ⟨input.take (i + 1), (input.take (j + 1)).drop (i + 1), input.drop (j + 1), ?_, ?_, ?_, ?_⟩
    · rw [whole, List.take_append_drop]
    · apply List.ne_nil_of_length_pos
      rw [List.length_take]
      omega
    · apply List.ne_nil_of_length_pos
      rw [List.length_drop, List.length_take]
      omega
    · rw [whole]
      exact same
  rcases lt_or_gt_of_ne apart with before | before
  · exact ordered i j before same
  · exact ordered j i before same.symm

/-- What is kept when such stretches are cut out holds of a list no longer than there are keys. -/
theorem exists_short [Fintype κ] (Holds : List α → Prop) (key : List α → κ)
    (cut : ∀ front stretch back, front ≠ [] → stretch ≠ [] → key front = key (front ++ stretch) →
      Holds (front ++ stretch ++ back) → Holds (front ++ back))
    {input : List α} (holds : Holds input) :
    ∃ short, short.Sublist input ∧ short.length ≤ Fintype.card κ ∧ Holds short := by
  induction bound : input.length using Nat.strong_induction_on generalizing input with
  | _ length ih =>
      by_cases short : input.length ≤ Fintype.card κ
      · exact ⟨input, List.Sublist.refl input, short, holds⟩
      · obtain ⟨front, stretch, back, rfl, first, cutting, same⟩ :=
          exists_stretch key (Nat.lt_of_not_le short)
        have fewer : (front ++ back).length < length := by
          have removed := List.length_pos_of_ne_nil cutting
          rw [← bound]
          simp only [List.length_append]
          omega
        obtain ⟨short, sub, small, kept⟩ := ih _ fewer (cut front stretch back first cutting same holds) rfl
        refine ⟨short, sub.trans ?_, small, kept⟩
        rw [List.append_assoc]
        exact List.Sublist.append (List.Sublist.refl front) (List.sublist_append_right stretch back)

end Shortening
