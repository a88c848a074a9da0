import Mathlib.Data.List.Induction

/-! When something happens in a history, and when for the first and the last time. What happens at an
event may depend on all events before it. -/

namespace History

variable {E : Type*}

def Happened (P : List E → E → Prop) (events : List E) : Prop :=
  ∃ earlier event later, events = earlier ++ event :: later ∧ P earlier event

/-- It happens for the first time right behind `earlier`. -/
def First (P : List E → E → Prop) (events earlier : List E) : Prop :=
  (∃ event later, events = earlier ++ event :: later ∧ P earlier event) ∧ ¬ Happened P earlier

def Last (P : List E → E → Prop) (events earlier : List E) : Prop :=
  ∃ event later, events = earlier ++ event :: later ∧ P earlier event ∧
    ∀ between next rest, later = between ++ next :: rest → ¬ P (earlier ++ event :: between) next

theorem concat_split {events earlier later : List E} {newest event : E} :
    events ++ [newest] = earlier ++ event :: later ↔
      (later = [] ∧ earlier = events ∧ event = newest) ∨
        ∃ rest, later = rest ++ [newest] ∧ events = earlier ++ event :: rest := by
  rcases List.eq_nil_or_concat later with rfl | ⟨rest, last, joined⟩
  · constructor
    · intro split
      obtain ⟨rfl, same⟩ := List.append_inj' split rfl
      exact .inl ⟨rfl, rfl, (List.cons.inj same).1.symm⟩
    · intro parts
      rcases parts with ⟨-, rfl, rfl⟩ | ⟨rest, impossible, -⟩
      · rfl
      · cases List.append_ne_nil_of_right_ne_nil rest (List.cons_ne_nil newest []) impossible.symm
  · rw [List.concat_eq_append] at joined
    subst joined
    constructor
    · intro split
      have split : events ++ [newest] = (earlier ++ event :: rest) ++ [last] := by simpa using split
      obtain ⟨rfl, same⟩ := List.append_inj' split rfl
      exact .inr ⟨rest, by rw [(List.cons.inj same).1], rfl⟩
    · intro parts
      rcases parts with ⟨impossible, -, -⟩ | ⟨rest', same, rfl⟩
      · cases List.append_ne_nil_of_right_ne_nil rest (List.cons_ne_nil last []) impossible
      · rw [same]
        simp

variable {P : List E → E → Prop}

theorem not_happened_nil : ¬ Happened P [] := by
  intro happened
  rcases happened with ⟨earlier, event, later, split, -⟩
  cases earlier <;> cases split

theorem happened_concat {events : List E} {newest : E} :
    Happened P (events ++ [newest]) ↔ Happened P events ∨ P events newest := by
  constructor
  · intro happened
    rcases happened with ⟨earlier, event, later, split, holds⟩
    rcases concat_split.mp split with ⟨-, rfl, rfl⟩ | ⟨rest, -, rfl⟩
    · exact .inr holds
    · exact .inl ⟨earlier, event, rest, rfl, holds⟩
  · intro happened
    rcases happened with ⟨earlier, event, later, rfl, holds⟩ | holds
    · exact ⟨earlier, event, later ++ [newest], by simp, holds⟩
    · exact ⟨events, newest, [], rfl, holds⟩

theorem first_concat {events earlier : List E} {newest : E} :
    First P (events ++ [newest]) earlier ↔
      First P events earlier ∨ (earlier = events ∧ P events newest ∧ ¬ Happened P events) := by
  constructor
  · intro first
    rcases first with ⟨⟨event, later, split, holds⟩, never⟩
    rcases concat_split.mp split with ⟨-, rfl, rfl⟩ | ⟨rest, -, rfl⟩
    · exact .inr ⟨rfl, holds, never⟩
    · exact .inl ⟨⟨event, rest, rfl, holds⟩, never⟩
  · intro first
    rcases first with ⟨⟨event, later, rfl, holds⟩, never⟩ | ⟨rfl, holds, never⟩
    · exact ⟨⟨event, later ++ [newest], by simp, holds⟩, never⟩
    · exact ⟨⟨newest, [], rfl, holds⟩, never⟩

theorem last_now {events : List E} {newest : E} (holds : P events newest) :
    Last P (events ++ [newest]) events := by
  refine ⟨newest, [], rfl, holds, fun between next rest impossible => ?_⟩
  cases List.append_ne_nil_of_right_ne_nil between (List.cons_ne_nil next rest) impossible.symm

theorem last_concat {events earlier : List E} {newest : E} (last : Last P events earlier)
    (still : ¬ P events newest) : Last P (events ++ [newest]) earlier := by
  rcases last with ⟨event, later, rfl, holds, since⟩
  refine ⟨event, later ++ [newest], by simp, holds, fun between next rest split => ?_⟩
  rcases concat_split.mp split with ⟨-, rfl, rfl⟩ | ⟨rest', -, rfl⟩
  · exact still
  · exact since between next rest' rfl

theorem first_happened {events earlier : List E} (first : First P events earlier) :
    Happened P events := by
  rcases first with ⟨⟨event, later, split, holds⟩, -⟩
  exact ⟨earlier, event, later, split, holds⟩

theorem happened_first {events : List E} (happened : Happened P events) :
    ∃ earlier, First P events earlier := by
  induction events using List.reverseRecOn with
  | nil => exact absurd happened not_happened_nil
  | append_singleton events newest ih =>
      by_cases before : Happened P events
      · obtain ⟨earlier, first⟩ := ih before
        exact ⟨earlier, first_concat.mpr (.inl first)⟩
      · have now := (happened_concat.mp happened).resolve_left before
        exact ⟨events, first_concat.mpr (.inr ⟨rfl, now, before⟩)⟩

theorem first_unique {events one two : List E} (first : First P events one)
    (second : First P events two) : one = two := by
  induction events using List.reverseRecOn with
  | nil => exact absurd (first_happened first) not_happened_nil
  | append_singleton events newest ih =>
      rcases first_concat.mp first with first | ⟨rfl, -, never⟩
      · rcases first_concat.mp second with second | ⟨-, -, never⟩
        · exact ih first second
        · exact absurd (first_happened first) never
      · rcases first_concat.mp second with second | ⟨rfl, -, -⟩
        · exact absurd (first_happened second) never
        · rfl

end History
