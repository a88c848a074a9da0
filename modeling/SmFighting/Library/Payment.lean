import Mathlib.Data.List.Basic
import Mathlib.Tactic.Common

/-! Items of one list that are paid for by items of another: where later items are paid for by later
ones, there are no more of the first than of the second. -/

namespace Payment

variable {β γ : Type*}

/-- Every item of `xs` that is due is paid for by an item of `ys` that pays, each later one by a
later one. -/
structure Pays (xs : List β) (ys : List γ) (due : β → Bool) (funds : γ → Bool)
    (pays : Nat → Nat → Prop) : Prop where
  paid : ∀ (i : Nat) x, xs[i]? = some x → due x = true →
    ∃ (j : Nat) (y : γ), pays i j ∧ ys[j]? = some y ∧ funds y = true
  ordered : ∀ i i' j j', i < i' → pays i j → pays i' j' → j < j'

variable {xs : List β} {ys : List γ} {due : β → Bool} {funds : γ → Bool} {pays : Nat → Nat → Prop}

/-- The induction on the number of items of `xs`: those before position `n` are paid for by items
before every position that pays for a later one. -/
theorem countP_take_le (payment : Pays xs ys due funds pays) (n m : Nat)
    (below : ∀ i < n, ∀ j, pays i j → j < m) :
    (xs.take n).countP due ≤ (ys.take m).countP funds := by
  induction n generalizing m with
  | zero => exact Nat.zero_le _
  | succ n ih =>
      have earlier : ∀ i < n, ∀ j, pays i j → j < m := fun i low => below i (by omega)
      cases found : xs[n]? with
      | none =>
          have whole : xs.length ≤ n := List.getElem?_eq_none_iff.mp found
          rw [List.take_of_length_le (by omega), ← List.take_of_length_le whole]
          exact ih m earlier
      | some x =>
          have split : xs.take (n + 1) = xs.take n ++ [x] := by
            rw [List.take_add_one, found]
            rfl
          rw [split, List.countP_append, List.countP_singleton]
          cases selected : due x with
          | false => simpa using ih m earlier
          | true =>
              obtain ⟨j, y, pay, located, good⟩ := payment.paid n x found selected
              have inside := below n (Nat.lt_succ_self n) j pay
              have before := ih j (fun i low k paid => payment.ordered i n k j low paid pay)
              have last : (ys.take (j + 1)).countP funds = (ys.take j).countP funds + 1 := by
                rw [List.take_add_one, located, Option.toList_some, List.countP_append,
                  List.countP_singleton, if_pos good]
              calc
                _ ≤ (ys.take j).countP funds + 1 := Nat.add_le_add_right before _
                _ = (ys.take (j + 1)).countP funds := last.symm
                _ ≤ (ys.take m).countP funds :=
                  (List.take_sublist_take_left (Nat.succ_le_of_lt inside)).countP_le

theorem countP_le (payment : Pays xs ys due funds pays)
    (bounded : ∀ i j, pays i j → j < ys.length) : xs.countP due ≤ ys.countP funds := by
  have whole := countP_take_le payment xs.length ys.length (fun i _ j => bounded i j)
  rwa [List.take_length, List.take_length] at whole

end Payment
