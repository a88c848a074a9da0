import Mathlib.Data.List.Basic
import Mathlib.Data.List.TakeWhile
import Mathlib.Tactic.Common

/-! Buffers that grow at the back and are cut at the front: what such a buffer holds is its history
without the first entries. Entries may be spread over several cells of a flat array, and cuts by a
condition that later entries inherit are filters. -/

namespace Window

variable {β γ : Type*}

/-- `held` is what is left of `history` without its first `gone` entries. -/
def Shows (history : List β) (gone : Nat) (held : List β) : Prop :=
  gone ≤ history.length ∧ held = history.drop gone

theorem shows_push {history held : List β} {gone : Nat} (shown : Shows history gone held) (x : β) :
    Shows (history ++ [x]) gone (held ++ [x]) := by
  rcases shown with ⟨bound, rfl⟩
  refine ⟨?_, (List.drop_append_of_le_length bound).symm⟩
  rw [List.length_append]
  omega

theorem push_cases {history : List β} {x found : β} {i : Nat}
    (located : (history ++ [x])[i]? = some found) :
    (i < history.length ∧ history[i]? = some found) ∨ (i = history.length ∧ found = x) := by
  by_cases old : i < history.length
  · rw [List.getElem?_append_left old] at located
    exact .inl ⟨old, located⟩
  · rw [List.getElem?_append_right (by omega)] at located
    obtain ⟨inside, rfl⟩ := List.getElem?_eq_some_iff.mp located
    rw [List.length_singleton] at inside
    exact .inr ⟨by omega, by simp⟩

theorem shows_cut {history held : List β} {gone n : Nat} (shown : Shows history gone held)
    (available : n ≤ held.length) : Shows history (gone + n) (held.drop n) := by
  rcases shown with ⟨bound, rfl⟩
  rw [List.length_drop] at available
  exact ⟨by omega, List.drop_drop.trans (by rw [Nat.add_comm])⟩

theorem shows_length {history held : List β} {gone : Nat} (shown : Shows history gone held) :
    history.length = gone + held.length := by
  rcases shown with ⟨bound, rfl⟩
  rw [List.length_drop]
  omega

theorem flatMap_length {width : Nat} (cells : β → List γ) (entries : List β)
    (wide : ∀ entry ∈ entries, (cells entry).length = width) :
    (entries.flatMap cells).length = width * entries.length := by
  induction entries with
  | nil => simp
  | cons entry entries ih =>
      have rest := ih (fun e member => wide e (List.mem_cons_of_mem entry member))
      calc
        _ = (cells entry).length + (entries.flatMap cells).length := by
          rw [List.flatMap_cons, List.length_append]
        _ = width + width * entries.length := by rw [wide entry List.mem_cons_self, rest]
        _ = width * (entry :: entries).length := by
          rw [List.length_cons, Nat.mul_succ, Nat.add_comm]

theorem flatMap_drop {width : Nat} (cells : β → List γ) (entries : List β)
    (wide : ∀ entry ∈ entries, (cells entry).length = width) (n : Nat) :
    (entries.flatMap cells).drop (width * n) = (entries.drop n).flatMap cells := by
  induction n generalizing entries with
  | zero => simp
  | succ n ih =>
      cases entries with
      | nil => simp
      | cons entry entries =>
          have rest := ih entries (fun e member => wide e (List.mem_cons_of_mem entry member))
          have first := wide entry List.mem_cons_self
          rw [List.flatMap_cons, List.drop_succ_cons, ← rest, Nat.mul_succ, Nat.add_comm,
            ← List.drop_drop, ← first, List.drop_left]

/-- Where every later entry inherits the condition, cutting before the first entry that meets it
keeps exactly the entries that do. -/
theorem drop_findIdx_eq_filter (keep : β → Bool) (entries : List β)
    (inherited : entries.Pairwise (fun a b => keep a = true → keep b = true)) :
    entries.drop (entries.findIdx keep) = entries.filter keep := by
  induction entries with
  | nil => rfl
  | cons entry entries ih =>
      obtain ⟨later, rest⟩ := List.pairwise_cons.mp inherited
      rw [List.findIdx_cons]
      cases kept : keep entry with
      | true =>
          have all : (entry :: entries).filter keep = entry :: entries := by
            rw [List.filter_eq_self]
            intro e member
            rcases List.mem_cons.mp member with rfl | member
            · exact kept
            · exact later e member kept
          simp [all]
      | false =>
          rw [List.filter_cons_of_neg (by simp [kept])]
          simpa using ih rest

theorem findIdx_le_iff (keep : β → Bool) (entries : List β)
    (inherited : entries.Pairwise (fun a b => keep a = true → keep b = true)) {i : Nat}
    (inside : i < entries.length) : entries.findIdx keep ≤ i ↔ keep entries[i] = true := by
  constructor
  · intro first
    have bound : entries.findIdx keep < entries.length := Nat.lt_of_le_of_lt first inside
    have met : keep entries[entries.findIdx keep] = true := List.findIdx_getElem
    rcases Nat.eq_or_lt_of_le first with same | before
    · simpa only [same] using met
    · exact List.pairwise_iff_getElem.mp inherited _ i bound inside before met
  · intro kept
    by_contra later
    have missed := List.not_of_lt_findIdx (Nat.lt_of_not_le later)
    rw [kept] at missed
    cases missed

theorem findIdx_lt (keep : β → Bool) (entries : List β) (last : β) (kept : keep last = true) :
    (entries ++ [last]).findIdx keep < (entries ++ [last]).length :=
  List.findIdx_lt_length.mpr ⟨last, by simp, kept⟩

end Window
