import SmFighting.Library.EventRun
import Mathlib.Data.List.Forall2

namespace Outcome

variable {F A B C D : Type}

inductive Same (R : A → B → Prop) : Except F A → Except F B → Prop
  | error (fault : F) : Same R (.error fault) (.error fault)
  | ok {a : A} {b : B} (related : R a b) : Same R (.ok a) (.ok b)

theorem same_refl {R : A → A → Prop} (reflexive : ∀ a, R a a) (outcome : Except F A) :
    Same R outcome outcome := by
  cases outcome with
  | error fault => exact .error fault
  | ok a => exact .ok (reflexive a)

theorem same_bind {R : A → B → Prop} {T : C → D → Prop} {first : Except F A} {first' : Except F B}
    {rest : A → Except F C} {rest' : B → Except F D} (same : Same R first first')
    (carried : ∀ a b, R a b → Same T (rest a) (rest' b)) :
    Same T (first >>= rest) (first' >>= rest') := by
  cases same with
  | error fault => exact .error fault
  | ok related => exact carried _ _ related

/-- Two systems that answer every event alike run alike. -/
theorem same_run {S E O O' : Type} {step : S → E → Except F (S × List O)}
    {step' : S → E → Except F (S × List O')} {R : O → O' → Prop}
    (alike : ∀ s event, Same (fun next next' => next'.1 = next.1 ∧ List.Forall₂ R next.2 next'.2)
      (step s event) (step' s event)) (s : S) (events : List E) :
    Same (fun last last' => last'.1 = last.1 ∧ List.Forall₂ R last.2 last'.2)
      (EventRun.run step s events) (EventRun.run step' s events) := by
  induction events generalizing s with
  | nil => exact .ok ⟨rfl, .nil⟩
  | cons event events ih =>
      have first := alike s event
      rw [EventRun.run, EventRun.run]
      generalize step s event = next at first
      generalize step' s event = next' at first
      cases first with
      | error fault => exact .error fault
      | @ok next next' related =>
          rcases next with ⟨t, output⟩
          rcases next' with ⟨t', output'⟩
          rcases related with ⟨rfl, outputs⟩
          have rest := ih t'
          simp only at outputs ⊢
          generalize EventRun.run step t' events = last at rest
          generalize EventRun.run step' t' events = last' at rest
          cases rest with
          | error fault => exact .error fault
          | ok final => exact .ok ⟨final.1, List.rel_append outputs final.2⟩

theorem bind_mapped {first : Except F A} {f : A → B} {rest : A → Except F C} {rest' : B → Except F D}
    {g : C → D} (carried : ∀ a, first = .ok a → rest' (f a) = (rest a).map g) :
    (first.map f >>= rest') = (first >>= rest).map g := by
  cases first with
  | error fault => rfl
  | ok a => exact carried a rfl

/-- A map that every allowed reaction goes along with goes along with runs. -/
theorem run_mapped {S S' E E' O O' : Type} {step : S → E → Except F (S × List O)}
    {step' : S' → E' → Except F (S' × List O')} {f : S → S'} {g : E → E'} {h : O → O'} {Inv : S → Prop}
    {Allowed : E → Prop}
    (preserved : ∀ s event t output, Inv s → Allowed event → step s event = .ok (t, output) → Inv t)
    (mapped : ∀ s event, Inv s → Allowed event →
      step' (f s) (g event) = (step s event).map (fun next => (f next.1, next.2.map h)))
    {s : S} (initial : Inv s) {events : List E} (allowed : ∀ event ∈ events, Allowed event) :
    EventRun.run step' (f s) (events.map g) =
      (EventRun.run step s events).map (fun last => (f last.1, last.2.map h)) := by
  induction events generalizing s with
  | nil => rfl
  | cons event events ih =>
      have possible := allowed event List.mem_cons_self
      rw [List.map_cons, EventRun.run, EventRun.run, mapped s event initial possible]
      cases reaction : step s event with
      | error fault => rfl
      | ok next =>
          have rest := ih (preserved s event next.1 next.2 initial possible reaction)
            (fun other member => allowed other (List.mem_cons_of_mem event member))
          simp only [Except.map] at rest ⊢
          rw [rest]
          cases EventRun.run step next.1 events with
          | error fault => rfl
          | ok last => simp only [List.map_append]

end Outcome
