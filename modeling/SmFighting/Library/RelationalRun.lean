import Mathlib.Data.List.Basic

namespace RelationalRun

variable {S I O : Type*}

inductive Runs (step : S → I → O → S → Prop) : S → List I → List O → S → Prop
  | stay (s : S) : Runs step s [] [] s
  | act {s t u : S} {input : I} {output : O} {inputs : List I} {outputs : List O}
      (first : step s input output t) (rest : Runs step t inputs outputs u) :
      Runs step s (input :: inputs) (output :: outputs) u

variable {step : S → I → O → S → Prop}

theorem runs_append {s t u : S} {inputs more : List I} {outputs rest : List O}
    (front : Runs step s inputs outputs t) (back : Runs step t more rest u) :
    Runs step s (inputs ++ more) (outputs ++ rest) u := by
  induction front with
  | stay s => exact back
  | act first _ ih => exact .act first (ih back)

theorem runs_one {s t : S} {input : I} {output : O} (done : step s input output t) :
    Runs step s [input] [output] t :=
  .act done (.stay t)

theorem runs_split {s u : S} {inputs more : List I} {outputs : List O}
    (ran : Runs step s (inputs ++ more) outputs u) :
    ∃ t first rest, Runs step s inputs first t ∧ Runs step t more rest u ∧
      outputs = first ++ rest := by
  induction inputs generalizing s outputs with
  | nil => exact ⟨s, [], outputs, .stay s, ran, rfl⟩
  | cons input inputs ih =>
      cases ran with
      | act first rest =>
          obtain ⟨t, front, back, reached, left, rfl⟩ := ih rest
          exact ⟨t, _, back, .act first reached, left, rfl⟩

theorem runs_deterministic
    (determined : ∀ s input output output' t t', step s input output t →
      step s input output' t' → output = output' ∧ t = t')
    {s t t' : S} {inputs : List I} {outputs outputs' : List O} (one : Runs step s inputs outputs t)
    (other : Runs step s inputs outputs' t') : outputs = outputs' ∧ t = t' := by
  induction one generalizing outputs' t' with
  | stay s =>
      cases other
      exact ⟨rfl, rfl⟩
  | act first _ ih =>
      cases other with
      | act first' rest' =>
          obtain ⟨rfl, rfl⟩ := determined _ _ _ _ _ _ first first'
          obtain ⟨rfl, rfl⟩ := ih rest'
          exact ⟨rfl, rfl⟩

end RelationalRun
