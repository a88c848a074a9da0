import Mathlib.Data.List.Basic

/-! Runs of a system that reacts to a list of events. A reaction may fail, which ends the run, and
may give outputs, which are kept in order. -/

namespace EventRun

variable {S E O F : Type}

def run (step : S → E → Except F (S × List O)) : S → List E → Except F (S × List O)
  | s, [] => .ok (s, [])
  | s, event :: events =>
      match step s event with
      | .error fault => .error fault
      | .ok (t, output) =>
          match run step t events with
          | .error fault => .error fault
          | .ok (u, outputs) => .ok (u, output ++ outputs)

variable {step : S → E → Except F (S × List O)}

theorem run_cons {s u : S} {event : E} {events : List E} {outputs : List O} :
    run step s (event :: events) = .ok (u, outputs) ↔
      ∃ t first rest, step s event = .ok (t, first) ∧ run step t events = .ok (u, rest) ∧
        outputs = first ++ rest := by
  constructor
  · intro done
    simp only [run] at done
    split at done
    · cases done
    · rename_i t first reaction
      split at done
      · cases done
      · rename_i u' rest tail
        simp only [Except.ok.injEq, Prod.mk.injEq] at done
        rcases done with ⟨rfl, rfl⟩
        exact ⟨t, first, rest, reaction, tail, rfl⟩
  · intro parts
    rcases parts with ⟨t, first, rest, reaction, tail, rfl⟩
    simp only [run, reaction, tail]

theorem run_append {s u : S} {before after : List E} {outputs : List O} :
    run step s (before ++ after) = .ok (u, outputs) ↔
      ∃ t first rest, run step s before = .ok (t, first) ∧ run step t after = .ok (u, rest) ∧
        outputs = first ++ rest := by
  induction before generalizing s outputs with
  | nil => simp [run]
  | cons event events ih =>
      simp only [List.cons_append, run_cons, ih]
      constructor
      · intro parts
        rcases parts with ⟨t, first, _, reaction, ⟨v, second, rest, middle, tail, rfl⟩, rfl⟩
        exact ⟨v, first ++ second, rest, ⟨t, first, second, reaction, middle, rfl⟩, tail,
          (List.append_assoc first second rest).symm⟩
      · intro parts
        rcases parts with ⟨v, _, rest, ⟨t, first, second, reaction, middle, rfl⟩, tail, rfl⟩
        exact ⟨t, first, second ++ rest, reaction, ⟨v, second, rest, middle, tail, rfl⟩,
          List.append_assoc first second rest⟩

theorem run_error {s : S} {events : List E} {fault : F} :
    run step s events = .error fault ↔
      ∃ before event after t outputs, events = before ++ event :: after ∧
        run step s before = .ok (t, outputs) ∧ step t event = .error fault := by
  induction events generalizing s with
  | nil => simp [run]
  | cons event events ih =>
      constructor
      · intro failed
        cases reaction : step s event with
        | error fault' =>
            simp only [run, reaction, Except.error.injEq] at failed
            subst failed
            exact ⟨[], event, events, s, [], rfl, rfl, reaction⟩
        | ok next =>
            rcases next with ⟨t, first⟩
            cases tail : run step t events with
            | ok final => simp [run, reaction, tail] at failed
            | error fault' =>
                simp only [run, reaction, tail, Except.error.injEq] at failed
                subst failed
                obtain ⟨before, last, after, u, outputs, rfl, reached, failing⟩ := ih.mp tail
                exact ⟨event :: before, last, after, u, first ++ outputs, rfl,
                  run_cons.mpr ⟨t, first, outputs, reaction, reached, rfl⟩, failing⟩
      · intro place
        rcases place with ⟨before, last, after, u, outputs, split, reached, failing⟩
        cases before with
        | nil =>
            obtain ⟨rfl, rfl⟩ := List.cons.inj split
            simp only [run, Except.ok.injEq, Prod.mk.injEq] at reached
            rcases reached with ⟨rfl, rfl⟩
            simp only [run, failing]
        | cons head before =>
            obtain ⟨rfl, rfl⟩ := List.cons.inj split
            obtain ⟨t, first, rest, reaction, earlier, _⟩ := run_cons.mp reached
            have tail := ih.mpr ⟨before, last, after, u, rest, rfl, earlier, failing⟩
            simp only [run, reaction, tail]

private theorem run_invariant_from (Inv : List E → S → List O → Prop) (Good : E → Prop)
    (preserved : ∀ done s outputs event t output, Inv done s outputs → Good event →
      step s event = .ok (t, output) → Inv (done ++ [event]) t (outputs ++ output))
    {s u : S} {events done : List E} {before outputs : List O} (good : ∀ event ∈ events, Good event)
    (initial : Inv done s before) (ran : run step s events = .ok (u, outputs)) :
    Inv (done ++ events) u (before ++ outputs) := by
  induction events generalizing s done before outputs with
  | nil =>
      simp only [run, Except.ok.injEq, Prod.mk.injEq] at ran
      rcases ran with ⟨rfl, rfl⟩
      simpa using initial
  | cons event events ih =>
      obtain ⟨t, first, rest, reaction, tail, rfl⟩ := run_cons.mp ran
      have next := preserved done s before event t first initial (good event List.mem_cons_self)
        reaction
      have final := ih (fun e member => good e (List.mem_cons_of_mem event member)) next tail
      simpa using final

/-- The induction over runs: what holds of the start and is kept by every reaction to an allowed
event holds after every run over allowed events. -/
theorem run_invariant (Inv : List E → S → List O → Prop) (Good : E → Prop)
    (preserved : ∀ done s outputs event t output, Inv done s outputs → Good event →
      step s event = .ok (t, output) → Inv (done ++ [event]) t (outputs ++ output))
    {s u : S} {events : List E} {outputs : List O} (good : ∀ event ∈ events, Good event)
    (initial : Inv [] s []) (ran : run step s events = .ok (u, outputs)) :
    Inv events u outputs := by
  simpa using run_invariant_from Inv Good preserved good initial ran

theorem run_concat {s t u : S} {events : List E} {event : E} {outputs output : List O}
    (ran : run step s events = .ok (t, outputs)) (reaction : step t event = .ok (u, output)) :
    run step s (events ++ [event]) = .ok (u, outputs ++ output) :=
  run_append.mpr ⟨t, outputs, output, ran, run_cons.mpr
    ⟨u, output, [], reaction, rfl, (List.append_nil output).symm⟩, rfl⟩

/-- The induction for what is said of the history as a run: a reaction may use that the events before
it led to the state it finds. -/
theorem run_history {s u : S} (Inv : List E → S → List O → Prop)
    (preserved : ∀ done t outputs event v output, run step s done = .ok (t, outputs) →
      Inv done t outputs → step t event = .ok (v, output) →
        Inv (done ++ [event]) v (outputs ++ output))
    {events : List E} {outputs : List O} (initial : Inv [] s [])
    (ran : run step s events = .ok (u, outputs)) : Inv events u outputs := by
  refine (run_invariant (fun done t outputs =>
    run step s done = .ok (t, outputs) ∧ Inv done t outputs) (fun _ => True) ?_
    (fun _ _ => trivial) ⟨rfl, initial⟩ ran).2
  intro done t outputs event v output inv _ reaction
  exact ⟨run_concat inv.1 reaction, preserved done t outputs event v output inv.1 inv.2 reaction⟩

theorem run_simulates {S' E' O' F' : Type} {step' : S' → E' → Except F' (S' × List O')}
    (R : S → S' → Prop) (Q : E → E' → Prop) (T : List O → List O' → Prop) (nothing : T [] [])
    (both : ∀ a b c d, T a c → T b d → T (a ++ b) (c ++ d))
    (simulates : ∀ s s' event event' t output, R s s' → Q event event' →
      step s event = .ok (t, output) → ∃ t' output', step' s' event' = .ok (t', output') ∧
        R t t' ∧ T output output')
    {s u : S} {s' : S'} {events : List E} {events' : List E'} {outputs : List O}
    (related : R s s') (paired : List.Forall₂ Q events events')
    (ran : run step s events = .ok (u, outputs)) :
    ∃ u' outputs', run step' s' events' = .ok (u', outputs') ∧ R u u' ∧ T outputs outputs' := by
  induction paired generalizing s s' outputs with
  | nil =>
      simp only [run, Except.ok.injEq, Prod.mk.injEq] at ran
      rcases ran with ⟨rfl, rfl⟩
      exact ⟨s', [], rfl, related, nothing⟩
  | cons pair _ ih =>
      obtain ⟨t, first, rest, reaction, tail, rfl⟩ := run_cons.mp ran
      obtain ⟨t', first', reaction', related', same⟩ := simulates _ _ _ _ _ _ related pair reaction
      obtain ⟨u', rest', tail', final, sameRest⟩ := ih related' tail
      exact ⟨u', first' ++ rest', run_cons.mpr ⟨t', first', rest', reaction', tail', rfl⟩, final,
        both _ _ _ _ same sameRest⟩

end EventRun
