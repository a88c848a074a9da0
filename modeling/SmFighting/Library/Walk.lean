import Mathlib.Data.Nat.Basic
import Mathlib.Algebra.BigOperators.Group.List.Basic
import Mathlib.Algebra.GroupWithZero.Nat

/-! Walks of deterministic labelled machines. A machine gives, for each configuration, the label
of its next move and the configuration after it, or nothing where it has stopped. -/

namespace Walk

variable {C D L : Type*}

inductive Reaches (next : C → Option (L × C)) : C → List L → C → Prop
  | stay (c : C) : Reaches next c [] c
  | move {c d e : C} {label : L} {labels : List L} (first : next c = some (label, d))
      (rest : Reaches next d labels e) : Reaches next c (label :: labels) e

def Halts (next : C → Option (L × C)) (c : C) (labels : List L) (d : C) : Prop :=
  Reaches next c labels d ∧ next d = none

def trace (next : C → Option (L × C)) : Nat → C → List L × C
  | 0, c => ([], c)
  | fuel + 1, c =>
      match next c with
      | none => ([], c)
      | some (label, d) => (label :: (trace next fuel d).1, (trace next fuel d).2)

variable {next : C → Option (L × C)}

theorem reaches_invariant (Inv : C → Prop) {c d : C} {labels : List L}
    (preserved : ∀ a label b, Inv a → next a = some (label, b) → Inv b)
    (walk : Reaches next c labels d) (initial : Inv c) : Inv d := by
  induction walk with
  | stay c => exact initial
  | move step _ ih => exact ih (preserved _ _ _ initial step)

theorem reaches_weight (value : C → Nat) (weight : L → Nat) {c d : C} {labels : List L}
    (step : ∀ a label b, next a = some (label, b) → value b = value a + weight label)
    (walk : Reaches next c labels d) : value d = value c + (labels.map weight).sum := by
  induction walk with
  | stay c => simp
  | @move a b e label labels first _ ih =>
      rw [ih, step a label b first, List.map_cons, List.sum_cons, Nat.add_assoc]

theorem reaches_labels {c d : C} {labels : List L} (walk : Reaches next c labels d) :
    ∀ label ∈ labels, ∃ a b, next a = some (label, b) := by
  induction walk with
  | stay c => intro label member; cases member
  | @move a b e label labels first _ ih =>
      intro other member
      rcases List.mem_cons.mp member with rfl | member
      · exact ⟨a, b, first⟩
      · exact ih other member

/-- A relation that every move of the first machine carries to the second carries whole walks. -/
theorem reaches_simulate {other : D → Option (L × D)} (Rel : C → D → Prop)
    (step : ∀ a b label c, Rel a b → next a = some (label, c) →
      ∃ d, other b = some (label, d) ∧ Rel c d)
    {c e : C} {labels : List L} (walk : Reaches next c labels e) {d : D} (related : Rel c d) :
    ∃ f, Reaches other d labels f ∧ Rel e f := by
  induction walk generalizing d with
  | stay c => exact ⟨d, .stay d, related⟩
  | move first _ ih =>
      obtain ⟨d', first', related'⟩ := step _ _ _ _ related first
      obtain ⟨f, walk', final⟩ := ih related'
      exact ⟨f, .move first' walk', final⟩

theorem reaches_concat {c d e : C} {label : L} {labels : List L} (walk : Reaches next c labels d)
    (last : next d = some (label, e)) : Reaches next c (labels ++ [label]) e := by
  induction walk with
  | stay c => exact .move last (.stay e)
  | move first _ ih => exact .move first (ih last)

/-- A measure that every move lowers bounds the walk, so that much fuel traces it to its end. -/
theorem trace_halts (measure : C → Nat)
    (lower : ∀ a label b, next a = some (label, b) → measure b < measure a)
    (fuel : Nat) (c : C) (enough : measure c ≤ fuel) :
    Halts next c (trace next fuel c).1 (trace next fuel c).2 := by
  induction fuel generalizing c with
  | zero =>
      refine ⟨.stay c, ?_⟩
      cases step : next c with
      | none => exact step
      | some move =>
          have below := lower c move.1 move.2 step
          omega
  | succ fuel ih =>
      cases step : next c with
      | none =>
          simp only [trace, step]
          exact ⟨.stay c, step⟩
      | some move =>
          rcases move with ⟨label, d⟩
          have below := lower c label d step
          have tail := ih d (by omega)
          simp only [trace, step]
          exact ⟨.move step tail.1, tail.2⟩

theorem trace_reaches {c d : C} {labels : List L} (walk : Reaches next c labels d) (fuel : Nat)
    (ending : labels.length = fuel ∨ labels.length ≤ fuel ∧ next d = none) :
    trace next fuel c = (labels, d) := by
  induction walk generalizing fuel with
  | stay c =>
      cases fuel with
      | zero => rfl
      | succ fuel =>
          have stopped : next c = none := (ending.resolve_left (by simp)).2
          simp only [trace, stopped]
  | @move a b e label labels first rest ih =>
      simp only [List.length_cons] at ending
      cases fuel with
      | zero => omega
      | succ fuel =>
          have tail := ih fuel (ending.imp (by omega) (And.imp_left (by omega)))
          simp only [trace, first, tail]

theorem halts_unique {c d d' : C} {labels labels' : List L} (one : Halts next c labels d)
    (other : Halts next c labels' d') : labels = labels' ∧ d = d' := by
  have first := trace_reaches one.1 (labels.length + labels'.length) (.inr ⟨by omega, one.2⟩)
  have second := trace_reaches other.1 (labels.length + labels'.length) (.inr ⟨by omega, other.2⟩)
  exact Prod.mk.inj (first.symm.trans second)

end Walk
