import SmFighting.Library.EventRun
import Mathlib.Data.List.Perm.Basic

/-! Interleavings of agents. Where events that have no agent in common can change places, a run depends
only on what each agent finds. -/

namespace Interleaving

variable {S E O F A : Type}

def Apart (involves : A → E → Bool) (a b : E) : Prop :=
  ∀ agent, involves agent a = true → involves agent b = false

/-- Every agent finds the same events in the same order. -/
def SameEvents (involves : A → E → Bool) (events events' : List E) : Prop :=
  ∀ agent, events'.filter (involves agent) = events.filter (involves agent)

theorem apart_filter {involves : A → E → Bool} {a : E} {earlier : List E}
    (apart : ∀ b ∈ earlier, Apart involves a b) {agent : A} (involved : involves agent a = true) :
    earlier.filter (involves agent) = [] := by
  apply List.filter_eq_nil_iff.mpr
  intro b member taken
  cases (apart b member agent involved).symm.trans taken

/-- The first event of one list stands in the other behind events that it is apart from. -/
theorem sameEvents_cons {involves : A → E → Bool} {a : E} {events events' : List E}
    (involved : ∃ agent, involves agent a = true)
    (same : SameEvents involves (a :: events) events') :
    ∃ earlier later, events' = earlier ++ a :: later ∧ (∀ b ∈ earlier, Apart involves a b) ∧
      SameEvents involves events (earlier ++ later) := by
  classical
  cases found : events'.find? (fun b => decide (¬ Apart involves a b)) with
  | none =>
      rcases involved with ⟨agent, involved⟩
      have apart : ∀ b ∈ events', Apart involves a b := by
        intro b member
        have missed := List.find?_eq_none.mp found b member
        rwa [decide_eq_true_iff, not_not] at missed
      have nothing := (apart_filter apart involved).symm.trans (same agent)
      rw [List.filter_cons_of_pos involved] at nothing
      cases nothing
  | some b =>
      obtain ⟨meets, earlier, later, rfl, before⟩ := List.find?_eq_some_iff_append.mp found
      have apart : ∀ c ∈ earlier, Apart involves a c := by
        intro c member
        have missed := before c member
        rwa [Bool.not_eq_true', decide_eq_false_iff_not, not_not] at missed
      have first : ∀ agent, involves agent a = true →
          (b :: later).filter (involves agent) = a :: events.filter (involves agent) := by
        intro agent involved
        have found := same agent
        rwa [List.filter_append, apart_filter apart involved, List.nil_append,
          List.filter_cons_of_pos involved] at found
      have common : ∃ agent, involves agent a = true ∧ involves agent b = true := by
        rw [decide_eq_true_iff, Apart] at meets
        push Not at meets
        obtain ⟨agent, involved, taken⟩ := meets
        exact ⟨agent, involved, by simpa using taken⟩
      obtain ⟨agent, involved, taken⟩ := common
      have head := first agent involved
      rw [List.filter_cons_of_pos taken] at head
      obtain rfl := (List.cons.inj head).1
      refine ⟨earlier, later, rfl, apart, fun agent => ?_⟩
      rw [List.filter_append]
      by_cases involved : involves agent b = true
      · have tail := first agent involved
        rw [List.filter_cons_of_pos involved] at tail
        rw [apart_filter apart involved, (List.cons.inj tail).2, List.nil_append]
      · have tail := same agent
        rwa [List.filter_append, List.filter_cons_of_neg involved,
          List.filter_cons_of_neg involved] at tail

variable {step : S → E → Except F (S × List O)} {involves : A → E → Bool}

theorem run_delayed
    (commutes : ∀ s t u a b first second, Apart involves a b → step s a = .ok (t, first) →
      step t b = .ok (u, second) → ∃ v, step s b = .ok (v, second) ∧ step v a = .ok (u, first))
    {s t u : S} {a : E} {earlier : List E} {first outputs : List O}
    (apart : ∀ b ∈ earlier, Apart involves a b) (done : step s a = .ok (t, first))
    (ran : EventRun.run step t earlier = .ok (u, outputs)) :
    ∃ v, EventRun.run step s earlier = .ok (v, outputs) ∧ step v a = .ok (u, first) := by
  induction earlier generalizing s t outputs with
  | nil =>
      obtain ⟨rfl, rfl⟩ := Prod.mk.inj (Except.ok.inj ran)
      exact ⟨s, rfl, done⟩
  | cons b earlier ih =>
      obtain ⟨w, second, rest, reaction, tail, rfl⟩ := EventRun.run_cons.mp ran
      obtain ⟨v, sooner, later⟩ := commutes _ _ _ _ _ _ _ (apart b List.mem_cons_self) done reaction
      obtain ⟨x, ranSooner, last⟩ :=
        ih (fun c member => apart c (List.mem_cons_of_mem b member)) later tail
      exact ⟨x, EventRun.run_cons.mpr ⟨v, second, rest, sooner, ranSooner, rfl⟩, last⟩

/-- Runs over the same events of every agent end alike, with the same outputs in some order. -/
theorem run_interleaved
    (commutes : ∀ s t u a b first second, Apart involves a b → step s a = .ok (t, first) →
      step t b = .ok (u, second) → ∃ v, step s b = .ok (v, second) ∧ step v a = .ok (u, first))
    (involved : ∀ event, ∃ agent, involves agent event = true) {s u : S} {events events' : List E}
    {outputs : List O} (same : SameEvents involves events events')
    (ran : EventRun.run step s events = .ok (u, outputs)) :
    ∃ outputs', EventRun.run step s events' = .ok (u, outputs') ∧ outputs.Perm outputs' := by
  induction events generalizing s events' outputs with
  | nil =>
      have nothing : events' = [] := by
        apply List.eq_nil_iff_forall_not_mem.mpr
        intro event member
        obtain ⟨agent, taken⟩ := involved event
        have apart := List.filter_eq_nil_iff.mp (same agent) event member
        exact apart taken
      rw [nothing]
      exact ⟨outputs, ran, .refl outputs⟩
  | cons a events ih =>
      obtain ⟨t, first, rest, done, tail, rfl⟩ := EventRun.run_cons.mp ran
      obtain ⟨earlier, later, rfl, apart, same'⟩ := sameEvents_cons (involved a) same
      obtain ⟨rest', ran', order⟩ := ih same' tail
      obtain ⟨v, before, after, ranBefore, ranAfter, rfl⟩ := EventRun.run_append.mp ran'
      obtain ⟨w, sooner, last⟩ := run_delayed commutes apart done ranBefore
      refine ⟨before ++ (first ++ after), EventRun.run_append.mpr ⟨w, before, first ++ after, sooner,
        EventRun.run_cons.mpr ⟨v, first, after, last, ranAfter, rfl⟩, rfl⟩, ?_⟩
      exact (order.append_left first).trans (List.perm_append_comm_assoc first before after)

end Interleaving
