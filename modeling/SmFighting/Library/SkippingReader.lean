import Mathlib.Computability.DFA

/-! Readers that skip. In each state a reader goes on by the letter at hand, skipping some of those
behind it, or stops at it. What it comes to is what a deterministic automaton remembers. -/

namespace SkippingReader

variable {α σ : Type*} {bound : Nat}

/-- A state with the number of letters left to skip, or with nothing once the reader has stopped. -/
abbrev Control (σ : Type*) (bound : Nat) := σ × Option (Fin (bound + 1))

def step (act : σ → α → Option (σ × Fin (bound + 1))) : Control σ bound → α → Control σ bound
  | (state, some ⟨0, _⟩), letter =>
      match act state letter with
      | some (next, skip) => (next, some skip)
      | none => (state, none)
  | (state, some ⟨left + 1, inside⟩), _ => (state, some ⟨left, Nat.lt_of_succ_lt inside⟩)
  | (state, none), _ => (state, none)

def automaton (act : σ → α → Option (σ × Fin (bound + 1))) (start : σ) (accept : Set σ) :
    DFA α (Control σ bound) where
  step := step act
  start := (start, some 0)
  accept := {control | control.1 ∈ accept}

/-- Where a reader that has come to position `i` of the input is in what the automaton remembers. -/
structure At (machine : DFA α (Control σ bound)) (input : List α) (position : σ × Nat) : Prop where
  inside : position.2 ≤ input.length → machine.eval (input.take position.2) = (position.1, some 0)
  beyond : ∀ skip : Fin (bound + 1), position.2 = input.length + skip →
    machine.eval input = (position.1, some skip)

variable {act : σ → α → Option (σ × Fin (bound + 1))} {start : σ} {accept : Set σ}

theorem step_goes {state next : σ} {letter : α} {skip : Fin (bound + 1)}
    (acts : act state letter = some (next, skip)) :
    step act (state, some 0) letter = (next, some skip) := by
  change (match act state letter with
    | some (next, skip) => (next, some skip)
    | none => (state, none)) = _
  rw [acts]

theorem step_stops {state : σ} {letter : α} (stops : act state letter = none) :
    step act (state, some 0) letter = (state, none) := by
  change (match act state letter with
    | some (next, skip) => (next, some skip)
    | none => (state, none)) = _
  rw [stops]

theorem eval_resumes (machine : DFA α (Control σ bound)) (input : List α) (n : Nat) :
    machine.eval input = machine.evalFrom (machine.eval (input.take n)) (input.drop n) := by
  calc
    _ = machine.eval (input.take n ++ input.drop n) := by rw [List.take_append_drop]
    _ = _ := machine.evalFrom_of_append machine.start (input.take n) (input.drop n)

theorem evalFrom_stopped (state : σ) (letters : List α) :
    (automaton act start accept).evalFrom (state, none) letters = (state, none) := by
  induction letters with
  | nil => rfl
  | cons letter letters ih => exact ih

theorem evalFrom_skips (state : σ) (letters : List α) (skip left : Fin (bound + 1))
    (count : skip.val = letters.length + left.val) :
    (automaton act start accept).evalFrom (state, some skip) letters = (state, some left) := by
  induction letters generalizing skip with
  | nil =>
      have same : skip = left := Fin.ext (by simpa using count)
      rw [same, DFA.evalFrom_nil]
  | cons letter letters ih =>
      rcases skip with ⟨skip, inside⟩
      rw [List.length_cons] at count
      obtain ⟨before, rfl⟩ : ∃ before, skip = before + 1 := ⟨letters.length + left.val, by
        simp only at count
        omega⟩
      apply ih
      simp only at count ⊢
      omega

theorem eval_letter {input : List α} {state : σ} {i : Nat}
    (here : At (automaton act start accept) input (state, i)) (valid : i < input.length) :
    (automaton act start accept).eval (input.take (i + 1)) =
      step act (state, some 0) input[i] := by
  rw [List.take_succ_eq_append_getElem valid, DFA.eval_append_singleton, here.inside valid.le]
  rfl

theorem at_start (input : List α) : At (automaton act start accept) input (start, 0) where
  inside := fun _ => rfl
  beyond := by
    intro skip empty
    have letterless : input.length = 0 := by
      simp only at empty
      omega
    have zero : skip = 0 := by
      apply Fin.ext
      simp only [Fin.val_zero] at empty ⊢
      omega
    rw [List.length_eq_zero_iff.mp letterless, zero]
    rfl

theorem at_move {input : List α} {state next : σ} {i : Nat} {skip : Fin (bound + 1)}
    (here : At (automaton act start accept) input (state, i)) (valid : i < input.length)
    (acts : act state input[i] = some (next, skip)) :
    At (automaton act start accept) input (next, i + 1 + skip.val) := by
  have read : (automaton act start accept).eval (input.take (i + 1)) = (next, some skip) := by
    rw [eval_letter here valid, step_goes acts]
  have skipped : ∀ (n : Nat) (left : Fin (bound + 1)), n ≤ input.length → i + 1 ≤ n →
      i + 1 + skip.val = n + left.val →
      (automaton act start accept).eval (input.take n) = (next, some left) := by
    intro n left short low count
    rw [eval_resumes _ (input.take n) (i + 1), List.take_take, Nat.min_eq_left low, read]
    apply evalFrom_skips
    rw [List.length_drop, List.length_take, Nat.min_eq_left short]
    omega
  constructor
  · intro short
    exact skipped _ 0 short (Nat.le_add_right _ _) (Nat.add_zero _).symm
  · intro left past
    have whole := skipped input.length left le_rfl valid past
    rwa [List.take_length] at whole

/-- Where the reader stops at a letter, so does the automaton, for good. -/
theorem at_stop {input : List α} {state : σ} {i : Nat}
    (here : At (automaton act start accept) input (state, i)) (valid : i < input.length)
    (stops : act state input[i] = none) :
    (automaton act start accept).eval (input.take (i + 1)) = (state, none) ∧
      (automaton act start accept).eval input = (state, none) := by
  have read : (automaton act start accept).eval (input.take (i + 1)) = (state, none) := by
    rw [eval_letter here valid, step_stops stops]
  refine ⟨read, ?_⟩
  rw [eval_resumes _ input (i + 1), read, evalFrom_stopped]

end SkippingReader
