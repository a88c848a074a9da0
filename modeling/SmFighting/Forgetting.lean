import SmFighting.FighterRuns

namespace SmFighting

variable {α σ μ : Type} [DecidableEq α] {assets : Assets α σ μ}

def unexpired (samples : List (Sample α)) (frame : InputFrame α) : Bool :=
  samples.all (fun sample => stillFresh sample.expiration sample.frame.stamp frame.stamp)

/-- The frames of the samples that none of those from then on finds expired. -/
def keptFrames : List (Sample α) → List (InputFrame α)
  | [] => []
  | sample :: samples => [sample.frame].filter (unexpired (sample :: samples)) ++ keptFrames samples

def Ordered (frames : List (InputFrame α)) : Prop :=
  frames.Pairwise (fun earlier later => earlier.stamp ≤ later.stamp)

section
omit [DecidableEq α]

theorem prune_ordered {frames : List (InputFrame α)} (ordered : Ordered frames)
    (expiration currentTime : Rat) : prune expiration currentTime frames =
      frames.filter (fun frame => stillFresh expiration currentTime frame.stamp) := by
  apply Window.drop_findIdx_eq_filter
  apply ordered.imp
  intro earlier later order fresh
  have bound : earlier.stamp + expiration ≥ currentTime := of_decide_eq_true fresh
  exact decide_eq_true (bound.trans (by gcongr))

def AFGDefaultPawn.holding (pawn : AFGDefaultPawn α μ) (buffer : List (InputFrame α)) :
    AFGDefaultPawn α μ :=
  { pawn with
    inputTimeStamps := buffer.map InputFrame.stamp
    inputStream := buffer.flatMap InputFrame.atoms }

theorem stands_unique {pawn pawn' : AFGDefaultPawn α μ} {fighter : Fighter α μ}
    (stands : Stands pawn fighter) (stands' : Stands pawn' fighter)
    (same : pawn'.controls = pawn.controls) : pawn' = pawn := by
  have whole : ∀ pawn : AFGDefaultPawn α μ, Stands pawn fighter → pawn = { pawn.controls with
      currentMove := some fighter.move
      timeInCurrentMove := fighter.time
      inputTimeStamps := fighter.buffer.map InputFrame.stamp
      inputStream := fighter.buffer.flatMap InputFrame.atoms } := by
    intro pawn stands
    rw [← stands.move, ← stands.time, ← stands.holds.stamps, ← stands.holds.stream]
    rfl
  rw [whole pawn stands, whole pawn' stands', same]

end

/-- A fighter that follows no link keeps the frames that no sample has found expired. -/
theorem idle_fights {fighter last : Fighter α μ} {samples : List (Sample α)}
    {followed : List (Option (UFGMoveLink assets.state μ))}
    (fought : Fights assets fighter samples followed last) (quiet : ∀ link ∈ followed, link = none)
    (ordered : Ordered (fighter.buffer ++ samples.map Sample.frame)) :
    last = ⟨fighter.move, fighter.time + (samples.map Sample.deltaSeconds).sum,
      fighter.buffer.filter (unexpired samples) ++ keptFrames samples⟩ := by
  induction fought with
  | stay fighter =>
      have all : fighter.buffer.filter (unexpired []) = fighter.buffer :=
        List.filter_eq_self.mpr (fun _ _ => rfl)
      rw [all, List.map_nil, List.sum_nil, add_zero, keptFrames, List.append_nil]
  | @act fighter next last sample link samples followed first rest ih =>
      obtain rfl := quiet link List.mem_cons_self
      cases first with
      | stay shut =>
          rw [List.map_cons, List.append_cons] at ordered
          have before : Ordered (fighter.buffer ++ [sample.frame]) :=
            ordered.sublist (List.sublist_append_left _ _)
          have held := prune_ordered before sample.expiration sample.frame.stamp
          have later : Ordered (fighter.held sample ++ samples.map Sample.frame) :=
            ordered.sublist ((List.drop_sublist _ _).append (List.Sublist.refl _))
          have kept : (fighter.held sample).filter (unexpired samples) =
              fighter.buffer.filter (unexpired (sample :: samples)) ++
                [sample.frame].filter (unexpired (sample :: samples)) := by
            rw [Fighter.held, held, List.filter_filter, ← List.filter_append]
            apply List.filter_congr
            intro frame _
            exact Bool.and_comm _ _
          rw [ih (fun other member => quiet other (List.mem_cons_of_mem _ member)) later, kept,
            List.append_assoc, List.map_cons, List.sum_cons, add_assoc]
          rfl

theorem idle_run {start : AFGDefaultPawn α μ} {move : μ} (inMove : start.currentMove = some move)
    (nonneg : 0 ≤ start.inputExpirationTime) {buffer : List (InputFrame α)} {events : List Event}
    (clamped : ∀ event ∈ events, event.Clamped) {pawn controls : AFGDefaultPawn α μ}
    {records : List (TickRecord assets)} {samples : List (Sample α)}
    (ran : runPawn assets (start.holding buffer) events = .ok (pawn, records))
    (quiet : ∀ record ∈ records, record.followed = none)
    (taken : takeSamples start.controls events = .ok (controls, samples))
    (ordered : Ordered (buffer ++ samples.map Sample.frame))
    (expired : ∀ frame ∈ buffer, ∃ sample ∈ samples,
      frame.stamp + sample.expiration < sample.frame.stamp) :
    pawn.controls = controls ∧ Stands pawn ⟨move,
      start.timeInCurrentMove + (samples.map Sample.deltaSeconds).sum, keptFrames samples⟩ := by
  have stands : Stands (start.holding buffer) ⟨move, start.timeInCurrentMove, buffer⟩ :=
    ⟨inMove, rfl, ⟨rfl, rfl⟩, nonneg⟩
  obtain ⟨samples', last, taken', fought, standing⟩ := run_fights stands clamped ran
  obtain ⟨rfl, rfl⟩ := Prod.mk.inj (Except.ok.inj (taken.symm.trans taken'))
  have gone : buffer.filter (unexpired samples) = [] := by
    apply List.filter_eq_nil_iff.mpr
    intro frame member fresh
    obtain ⟨sample, among, late⟩ := expired frame member
    have still : frame.stamp + sample.expiration ≥ sample.frame.stamp :=
      of_decide_eq_true (List.all_eq_true.mp fresh sample among)
    exact absurd late (not_lt.mpr still)
  have ending := idle_fights fought (fun link member => by
    obtain ⟨record, among, rfl⟩ := List.mem_map.mp member
    exact quiet record among) ordered
  rw [gone, List.nil_append] at ending
  exact ⟨rfl, ending ▸ standing⟩

/-- Input goes out of date for good. Two pawns that differ in the frames they hold, and that follow no
link in a run, end it alike, in every field, if some Tick has found each of these frames expired. -/
theorem stale_forgotten {start : AFGDefaultPawn α μ} {move : μ} (inMove : start.currentMove = some move)
    (nonneg : 0 ≤ start.inputExpirationTime) {buffer buffer' : List (InputFrame α)} {events : List Event}
    (clamped : ∀ event ∈ events, event.Clamped) {pawn pawn' controls : AFGDefaultPawn α μ}
    {records records' : List (TickRecord assets)} {samples : List (Sample α)}
    (ran : runPawn assets (start.holding buffer) events = .ok (pawn, records))
    (ran' : runPawn assets (start.holding buffer') events = .ok (pawn', records'))
    (quiet : ∀ record ∈ records, record.followed = none)
    (quiet' : ∀ record ∈ records', record.followed = none)
    (taken : takeSamples start.controls events = .ok (controls, samples))
    (ordered : Ordered (buffer ++ samples.map Sample.frame))
    (ordered' : Ordered (buffer' ++ samples.map Sample.frame))
    (expired : ∀ frame ∈ buffer ++ buffer', ∃ sample ∈ samples,
      frame.stamp + sample.expiration < sample.frame.stamp) : pawn' = pawn := by
  obtain ⟨same, standing⟩ := idle_run inMove nonneg clamped ran quiet taken ordered
    (fun frame member => expired frame (List.mem_append_left buffer' member))
  obtain ⟨same', standing'⟩ := idle_run inMove nonneg clamped ran' quiet' taken ordered'
    (fun frame member => expired frame (List.mem_append_right buffer member))
  exact stands_unique standing standing' (same'.trans same.symm)

def oldFrame : InputFrame SampleAtom := ⟨0, [some (.inl .neutral), some (.inr .up), some (.inr .up)], rfl⟩

theorem stale_forgotten_sample :
    ∃ pawn pawn' records records',
      runPawn sampleAssets ((samplePawn .standing).holding [oldFrame]) [.tick (1 / 60) 1] =
        .ok (pawn, records) ∧
      runPawn sampleAssets ((samplePawn .standing).holding []) [.tick (1 / 60) 1] =
        .ok (pawn', records') ∧ pawn' = pawn := by
  have idle : ∀ buffer ∈ [[oldFrame], []],
      (runPawn sampleAssets ((samplePawn .standing).holding buffer) [.tick (1 / 60) 1]).toOption.map
        (fun result => result.2.all (fun record => record.followed.isNone)) = some true := by
    decide +kernel
  have ends : ∀ buffer ∈ [[oldFrame], []], ∃ pawn records,
      runPawn sampleAssets ((samplePawn .standing).holding buffer) [.tick (1 / 60) 1] =
        .ok (pawn, records) ∧ ∀ record ∈ records, record.followed = none := by
    intro buffer member
    have quiet := idle buffer member
    cases ran : runPawn sampleAssets ((samplePawn .standing).holding buffer) [.tick (1 / 60) 1] with
    | error fault =>
        rw [ran] at quiet
        cases quiet
    | ok result =>
        rw [ran] at quiet
        refine ⟨result.1, result.2, rfl, fun record among => ?_⟩
        exact Option.isNone_iff_eq_none.mp (List.all_eq_true.mp (Option.some.inj quiet) record among)
  obtain ⟨pawn, records, ran, quiet⟩ := ends [oldFrame] List.mem_cons_self
  obtain ⟨pawn', records', ran', quiet'⟩ := ends [] (List.mem_cons_of_mem _ List.mem_cons_self)
  have sampled : (samplePawn .standing).controls.sample (1 / 60) 1 =
      .ok ⟨⟨1, [some (.inl .neutral), some (.inr .up), some (.inr .up)], rfl⟩, 1 / 60, 3 / 4⟩ :=
    sample_ok.mpr ⟨AFGDefaultPawn.frameAtoms_ok.mpr ⟨_, _, _, by decide +kernel, rfl, rfl, rfl⟩,
      rfl, rfl, rfl⟩
  have tick : takeSample (samplePawn .standing).controls (.tick (1 / 60) 1) =
      .ok ((samplePawn .standing).controls.operate (.tick (1 / 60) 1),
        [⟨⟨1, [some (.inl .neutral), some (.inr .up), some (.inr .up)], rfl⟩, 1 / 60, 3 / 4⟩]) := by
    rw [takeSample, sampled]
  have stop : EventRun.run takeSample ((samplePawn .standing).controls.operate (.tick (1 / 60) 1)) [] =
      .ok ((samplePawn .standing).controls.operate (.tick (1 / 60) 1), []) := rfl
  have taken := EventRun.run_cons.mpr ⟨_, _, [], tick, stop, rfl⟩
  refine ⟨pawn, pawn', records, records', ran, ran', ?_⟩
  refine stale_forgotten rfl (by decide +kernel) ?_ ran ran' quiet quiet' taken ?_ ?_ ?_
  · exact fun event member => List.mem_singleton.mp member ▸ trivial
  · refine List.pairwise_pair.mpr ?_
    change (0 : Rat) ≤ 1
    decide +kernel
  · exact List.pairwise_singleton _ _
  · intro frame member
    rw [List.mem_singleton.mp member]
    refine ⟨_, List.mem_singleton_self _, ?_⟩
    change (0 : Rat) + 3 / 4 < 1
    decide +kernel

end SmFighting
