import SmFighting.MachineAutomaton

namespace SmFighting

variable {α σ : Type} [DecidableEq α]

/-- Atoms in a row, each one of those that `shows` allows at its place within a frame. -/
def InFrames (shows : Nat → α → Prop) (atoms : List α) : Prop :=
  ∀ (i : Nat) atom, atoms[i]? = some atom → shows (i % 3) atom

structure FrameStream (shows : Nat → α → Prop) (stream : List α) : Prop where
  whole : stream.length % 3 = 0
  shown : InFrames shows stream

/-- The places within a frame at which a run of a machine can come to each of its states. -/
inductive StandsAt (graph : σ → USMState α σ) (shows : Nat → α → Prop) (start : σ) : σ → Nat → Prop
  | start : StandsAt graph shows start start 0
  | reads {state next : σ} {place : Nat} {atom : α} {skip : Fin 3}
      (here : StandsAt graph shows start state place) (shown : shows place atom)
      (goes : reads graph state atom = some (next, skip)) :
      StandsAt graph shows start next ((place + 1 + skip) % 3)

/-- No run can end in an accepting state inside a frame: on every atom that it can meet there such a
state goes one place on. The loop of a UFGState would not do, since it keeps the place and can leave
the input. -/
def KeepsFrames (graph : σ → USMState α σ) (shows : Nat → α → Prop) (start : σ) : Prop :=
  ∀ state place atom, StandsAt graph shows start state place → place ≠ 0 → shows place atom →
    (graph state).completionType = .accepted →
      ∃ next skip, reads graph state atom = some (next, skip) ∧ skip.val = 0

section
omit [DecidableEq α]

theorem inFrames_append {shows : Nat → α → Prop} {xs ys : List α} (first : InFrames shows xs)
    (second : ∀ (i : Nat) atom, ys[i]? = some atom → shows ((xs.length + i) % 3) atom) :
    InFrames shows (xs ++ ys) := by
  intro i atom found
  by_cases inside : i < xs.length
  · rw [List.getElem?_append_left inside] at found
    exact first i atom found
  · rw [List.getElem?_append_right (by omega)] at found
    have here := second _ atom found
    rwa [Nat.add_sub_cancel' (by omega)] at here

theorem inFrames_concat {shows : Nat → α → Prop} {xs : List α} {place : Nat} {atom : α}
    (first : InFrames shows xs) (count : xs.length % 3 = place) (next : shows place atom) :
    InFrames shows (xs ++ [atom]) := by
  apply inFrames_append first
  intro i found located
  obtain ⟨inside, rfl⟩ := List.getElem?_eq_some_iff.mp located
  have zero : i = 0 := by simpa using inside
  subst zero
  rw [Nat.add_zero, count]
  exact next

theorem frameStream_append {shows : Nat → α → Prop} {xs ys : List α} (first : FrameStream shows xs)
    (second : FrameStream shows ys) : FrameStream shows (xs ++ ys) where
  whole := by
    rw [List.length_append, Nat.add_mod, first.whole, second.whole]
  shown := by
    apply inFrames_append first.shown
    intro i atom found
    have here := second.shown i atom found
    rwa [Nat.add_mod, first.whole, Nat.zero_add, Nat.mod_mod]

theorem frameStream_drop {shows : Nat → α → Prop} {xs : List α} (stream : FrameStream shows xs)
    {n : Nat} (whole : n % 3 = 0) : FrameStream shows (xs.drop n) where
  whole := by
    have length := stream.whole
    rw [List.length_drop]
    omega
  shown := by
    intro i atom found
    rw [List.getElem?_drop] at found
    have here := stream.shown _ atom found
    rwa [Nat.add_mod, whole, Nat.zero_add, Nat.mod_mod] at here

theorem inFrames_extend {shows : Nat → α → Prop} (fill : ∀ place, ∃ atom, shows place atom)
    {xs : List α} (first : InFrames shows xs) (n : Nat) :
    ∃ ys : List α, ys.length = n ∧ InFrames shows (xs ++ ys) := by
  induction n generalizing xs with
  | zero => exact ⟨[], rfl, by rwa [List.append_nil]⟩
  | succ n ih =>
      obtain ⟨atom, next⟩ := fill (xs.length % 3)
      obtain ⟨ys, length, rest⟩ := ih (inFrames_concat first rfl next)
      refine ⟨atom :: ys, congrArg Nat.succ length, ?_⟩
      rwa [List.append_assoc] at rest

end

theorem reads_goes {graph : σ → USMState α σ} {state next : σ} {atom : α} {skip : Fin 3}
    (goes : reads graph state atom = some (next, skip)) :
    (takenTransition graph [atom] state 0 = some next ∧ skip.val = 0) ∨
      (next = state ∧ (graph state).bLoopByDefault = true ∧ skip = (graph state).stateClass.skips) := by
  rw [reads] at goes
  split at goes
  · cases goes
  · split at goes
    · rename_i target taken
      obtain ⟨rfl, rfl⟩ := Prod.mk.inj (Option.some.inj goes)
      exact .inl ⟨taken, rfl⟩
    · split at goes
      · rename_i loops
        obtain ⟨rfl, rfl⟩ := Prod.mk.inj (Option.some.inj goes)
        exact .inr ⟨rfl, loops, rfl⟩
      · cases goes

theorem reads_skip {graph : σ → USMState α σ} {state next : σ} {atom : α} {skip : Fin 3}
    (goes : reads graph state atom = some (next, skip)) :
    skip.val = 0 ∨ (next = state ∧ skip.val = 2) := by
  rcases reads_goes goes with ⟨-, zero⟩ | ⟨rfl, -, rfl⟩
  · exact .inl zero
  · cases (graph next).stateClass with
    | usmState => exact .inl rfl
    | ufgState => exact .inr ⟨rfl, rfl⟩

/-- Along a run each state stands where it can; and where the index is at or beyond the end of the
input inside a frame, the state has got there by skipping. -/
theorem standsAt_finish (graph : σ → USMState α σ) {shows : Nat → α → Prop} (start : σ)
    {stream : List α} (frames : FrameStream shows stream) :
    StandsAt graph shows start (finish graph stream start 0).1
        ((finish graph stream start 0).2 % 3) ∧
      (stream.length ≤ (finish graph stream start 0).2 →
        (finish graph stream start 0).2 % 3 ≠ 0 →
        ∃ atom skip, shows ((finish graph stream start 0).2 % 3) atom ∧
          reads graph (finish graph stream start 0).1 atom =
            some ((finish graph stream start 0).1, skip) ∧ skip.val = 2) := by
  apply Walk.reaches_invariant (fun c => StandsAt graph shows start c.1 (c.2 % 3) ∧
    (stream.length ≤ c.2 → c.2 % 3 ≠ 0 → ∃ atom skip, shows (c.2 % 3) atom ∧
      reads graph c.1 atom = some (c.1, skip) ∧ skip.val = 2)) _ (moves_halts graph stream start 0).1
  · exact ⟨.start, fun _ inside => absurd rfl inside⟩
  intro c move d inv step
  rcases inv with ⟨here, -⟩
  have valid := (nextMove_index step).1
  have whole := frames.whole
  obtain ⟨atom, skip, found, goes, next⟩ := nextMove_goes step
  have shown := frames.shown _ atom found
  constructor
  · have stands := here.reads shown goes
    have same : (c.2 % 3 + 1 + skip.val) % 3 = d.2 % 3 := by omega
    rwa [same] at stands
  · intro past inside
    rcases reads_skip goes with one | ⟨stays, three⟩
    · -- one place on is still inside the input, or at its end
      omega
    · have same : d.2 % 3 = c.2 % 3 := by omega
      rw [same, stays]
      exact ⟨atom, skip, shown, stays ▸ goes, three⟩

theorem keepsFrames_index {graph : σ → USMState α σ} {shows : Nat → α → Prop} {start : σ}
    (keeps : KeepsFrames graph shows start) {stream : List α} (frames : FrameStream shows stream)
    (accepted : (runState graph stream start 0 (-1)).completionType = .accepted) :
    (runState graph stream start 0 (-1)).dataIndex % 3 = 0 := by
  rw [runState_unlimited _ _ _ _ _ (by omega)] at accepted ⊢
  obtain ⟨stands, skipped⟩ := standsAt_finish graph start frames
  by_contra inside
  have goesOn := fun atom shown => keeps _ _ atom stands inside shown accepted
  rcases Nat.lt_or_ge (finish graph stream start 0).2 stream.length with valid | past
  · obtain ⟨next, skip, goes, -⟩ := goesOn _ (frames.shown _ _ (List.getElem?_eq_getElem valid))
    have stuck : reads graph (finish graph stream start 0).1
        stream[(finish graph stream start 0).2] = none :=
      (nextMove_stuck (List.getElem?_eq_getElem valid)).mp (moves_halts graph stream start 0).2
    rw [stuck] at goes
    cases goes
  · obtain ⟨atom, skip, shown, loops, two⟩ := skipped past inside
    obtain ⟨next, skip', goes, zero⟩ := goesOn atom shown
    rw [loops] at goes
    obtain ⟨-, same⟩ := Prod.mk.inj (Option.some.inj goes)
    rw [same] at two
    omega

/-- Behind a walk to the end of the input any atom of the place that it has come to can follow, and
more atoms behind that one. -/
theorem reaches_meets {graph : σ → USMState α σ} {shows : Nat → α → Prop}
    (fill : ∀ place, ∃ atom, shows place atom) {xs : List α} {c : σ × Nat} {state : σ}
    {moves : List Move} {place : Nat} {atom : α} (first : InFrames shows xs)
    (count : xs.length % 3 = place)
    (walk : Walk.Reaches (nextMove graph xs) c moves (state, xs.length)) (shown : shows place atom)
    (n : Nat) :
    ∃ stream, InFrames shows stream ∧ stream.length = xs.length + 1 + n ∧
      stream[xs.length]? = some atom ∧
      Walk.Reaches (nextMove graph stream) c moves (state, xs.length) := by
  obtain ⟨ys, length, rest⟩ := inFrames_extend fill (inFrames_concat first count shown) n
  rw [List.append_assoc] at rest
  refine ⟨xs ++ ([atom] ++ ys), rest, ?_, by simp, reaches_extend _ walk⟩
  simp only [List.length_append, List.length_singleton]
  omega

theorem standsAt_reached {graph : σ → USMState α σ} {shows : Nat → α → Prop} {start : σ}
    (fill : ∀ place, ∃ atom, shows place atom) {state : σ} {place : Nat}
    (stands : StandsAt graph shows start state place) :
    ∃ xs moves, InFrames shows xs ∧ xs.length % 3 = place ∧
      Walk.Reaches (nextMove graph xs) (start, 0) moves (state, xs.length) := by
  induction stands with
  | start => exact ⟨[], [], by simp [InFrames], rfl, .stay _⟩
  | @reads state next place atom skip _ shown goes ih =>
      obtain ⟨xs, moves, first, count, walk⟩ := ih
      obtain ⟨stream, inFrames, length, found, walk'⟩ :=
        reaches_meets fill first count walk shown skip.val
      obtain ⟨move, step⟩ := nextMove_going found goes
      refine ⟨stream, moves ++ [move], inFrames, by omega, ?_⟩
      rw [length]
      exact Walk.reaches_concat walk' step

/-- A machine keeps to whole frames exactly when no stream of whole frames makes it accept inside
one, provided that every place has an atom to show. -/
theorem keepsFrames_iff (graph : σ → USMState α σ) (shows : Nat → α → Prop) (start : σ)
    (fill : ∀ place, ∃ atom, shows place atom) :
    KeepsFrames graph shows start ↔ ∀ stream, FrameStream shows stream →
      (runState graph stream start 0 (-1)).completionType = .accepted →
        (runState graph stream start 0 (-1)).dataIndex % 3 = 0 := by
  constructor
  · intro keeps stream frames accepted
    exact keepsFrames_index keeps frames accepted
  intro aligned state place atom stands inside shown accepts
  obtain ⟨xs, moves, first, count, walk⟩ := standsAt_reached fill stands
  obtain ⟨stream, inFrames, length, found, walk'⟩ :=
    reaches_meets fill first count walk shown (2 - place)
  have frames : FrameStream shows stream := ⟨by omega, inFrames⟩
  cases goes : reads graph state atom with
  | none =>
      -- the run stops at the atom, inside the frame
      have stopped := (nextMove_stuck found).mpr goes
      have result := runState_halts ⟨walk', stopped⟩ (-1) (by omega)
      have index := aligned stream frames (by rw [result]; exact accepts)
      rw [result] at index
      exact absurd (count.symm.trans index) inside
  | some next =>
      rcases reads_skip goes with one | ⟨stays, three⟩
      · exact ⟨next.1, next.2, rfl, one⟩
      · -- the loop leaves the input, inside a frame again
        exfalso
        obtain ⟨move, step⟩ := nextMove_going found goes
        rw [stays] at step
        have stopped : nextMove graph stream (state, xs.length + 1 + next.2.val) = none := by
          apply nextMove_of_mustEnd
          by_contra running
          have valid := (mustEnd_false.mp (Bool.eq_false_iff.mpr running)).2
          simp only at valid
          omega
        have result := runState_halts ⟨Walk.reaches_concat walk' step, stopped⟩ (-1) (by omega)
        have index := aligned stream frames (by rw [result]; exact accepts)
        rw [result] at index
        change (xs.length + 1 + next.2.val) % 3 = 0 at index
        omega

end SmFighting
