import SmFighting.FighterRuns
import SmFighting.FramePhases
import SmFighting.PlayableFrames

namespace SmFighting

variable {α σ μ : Type} [DecidableEq α] {assets : Assets α σ μ}

section
omit [DecidableEq α]

theorem prune_fresh {expiration currentTime : Rat} {earlier kept : List (InputFrame α)}
    (fresh : ∀ frame ∈ kept, stillFresh expiration currentTime frame.stamp = true) :
    ∃ rest, prune expiration currentTime (earlier ++ kept) = rest ++ kept := by
  cases kept with
  | nil => exact ⟨_, (List.append_nil _).symm⟩
  | cons frame kept =>
      have first : (earlier ++ frame :: kept).findIdx
          (fun frame => stillFresh expiration currentTime frame.stamp) ≤ earlier.length := by
        rw [List.findIdx_append]
        split
        · rename_i inside
          exact inside.le
        · rw [List.findIdx_cons, fresh frame List.mem_cons_self, cond_true, Nat.zero_add]
      rw [prune, List.drop_append_of_le_length first]
      exact ⟨_, rfl⟩

theorem flatMap_atoms_getElem {buffer : List (InputFrame α)} {j slot : Nat} {frame : InputFrame α}
    (found : buffer[j]? = some frame) (inside : slot < 3) :
    (buffer.flatMap InputFrame.atoms)[3 * j + slot]? = frame.atoms[slot]? := by
  obtain ⟨bound, rfl⟩ := List.getElem?_eq_some_iff.mp found
  rw [← List.getElem?_drop, flatMap_atoms_drop, List.drop_eq_getElem_cons bound, List.flatMap_cons,
    List.getElem?_append_left]
  rw [buffer[j].whole]
  exact inside

end

def Lasting (samples : List (Sample α)) : Prop :=
  (∀ sample ∈ samples, 0 ≤ sample.expiration) ∧
    samples.Pairwise (fun earlier later =>
      later.frame.stamp ≤ earlier.frame.stamp + later.expiration)

/-- As long as it follows no link, a fighter keeps the frames that do not expire. -/
theorem quiet_keeps {fighter last : Fighter α μ} {samples : List (Sample α)}
    {followed : List (Option (UFGMoveLink assets.state μ))}
    (fought : Fights assets fighter samples followed last) (quiet : ∀ link ∈ followed, link = none)
    {earlier kept : List (InputFrame α)} (buffer : fighter.buffer = earlier ++ kept)
    (keeps : ∀ frame ∈ kept, ∀ sample ∈ samples,
      sample.frame.stamp ≤ frame.stamp + sample.expiration) (lasting : Lasting samples) :
    last.move = fighter.move ∧
      last.time = fighter.time + (samples.map Sample.deltaSeconds).sum ∧
      ∃ rest, last.buffer = rest ++ (kept ++ samples.map Sample.frame) := by
  induction fought generalizing earlier kept with
  | stay fighter =>
      refine ⟨rfl, (add_zero fighter.time).symm, earlier, ?_⟩
      rw [buffer, List.map_nil, List.append_nil]
  | @act fighter next last sample link samples followed first rest ih =>
      rcases lasting with ⟨nonneg, paired⟩
      obtain ⟨later, paired⟩ := List.pairwise_cons.mp paired
      obtain rfl := quiet link List.mem_cons_self
      cases first with
      | stay shut =>
          have fresh : ∀ frame ∈ kept ++ [sample.frame],
              stillFresh sample.expiration sample.frame.stamp frame.stamp = true := by
            intro frame member
            apply decide_eq_true
            rcases List.mem_append.mp member with held | new
            · exact keeps frame held sample List.mem_cons_self
            · rw [List.mem_singleton.mp new]
              exact le_add_of_nonneg_right (nonneg sample List.mem_cons_self)
          obtain ⟨left, held⟩ := @prune_fresh _ _ _ earlier _ fresh
          have buffer' : fighter.held sample = left ++ (kept ++ [sample.frame]) := by
            rw [Fighter.held, buffer, List.append_assoc]
            exact held
          obtain ⟨move, time, rest', buffer''⟩ := ih
            (fun other member => quiet other (List.mem_cons_of_mem _ member)) buffer'
            (by
              intro frame member other among
              rcases List.mem_append.mp member with held | new
              · exact keeps frame held other (List.mem_cons_of_mem sample among)
              · rw [List.mem_singleton.mp new]
                exact later other among)
            ⟨fun other member => nonneg other (List.mem_cons_of_mem sample member), paired⟩
          refine ⟨move, ?_, rest', ?_⟩
          · rw [time, List.map_cons, List.sum_cons, add_assoc]
          · rw [buffer'', List.map_cons, List.append_assoc kept]
            rfl

/-- Input `m` of a motion is in place in the frame `row m`. -/
structure Spelt (frames : List (List (Option α))) (n : Nat) (acceptable : Nat → List (Option α))
    (row : Nat → Nat) : Prop where
  shown : ∀ m < n, ∃ atoms, frames[row m]? = some atoms ∧ Accepts atoms (acceptable m) (m % 3)
  ordered : ∀ m, m + 1 < n → row m ≤ row (m + 1)
  wraps : ∀ m, m + 1 < n → (m + 1) % 3 = 0 → row m < row (m + 1)

theorem spelt_opens {link : UFGMoveLink assets.state μ} {n : Nat}
    {acceptable : Nat → List (Option α)} (motion : Motion link n acceptable) {timeInMove : Rat}
    (windows : WindowsOpen link timeInMove) {earlier frames : List (InputFrame α)} {row : Nat → Nat}
    (spelt : Spelt (frames.map InputFrame.atoms) n acceptable row) :
    Opens link timeInMove ((earlier ++ frames).flatMap InputFrame.atoms) := by
  rcases motion with ⟨machine, s, found, start, chain⟩
  refine ⟨windows, machine, found, ?_⟩
  rw [← start, chain_accepts chain]
  apply (StridedMatch.occurs_iff_rows (Nat.succ_pos 2)).mpr
  refine ⟨fun m => earlier.length + row m, fun m next => Nat.add_le_add_left (spelt.ordered m next) _,
    fun m next wrapped => Nat.add_lt_add_left (spelt.wraps m next wrapped) _, fun m below => ?_⟩
  obtain ⟨atoms, located, atom, member, read⟩ := spelt.shown m below
  rw [List.getElem?_map] at located
  obtain ⟨frame, there, rfl⟩ := Option.map_eq_some_iff.mp located
  refine ⟨atom, member, ?_⟩
  have place : (earlier ++ frames)[earlier.length + row m]? = some frame := by
    rw [List.getElem?_append_right (Nat.le_add_right _ _), Nat.add_sub_cancel_left]
    exact there
  exact (flatMap_atoms_getElem place (Nat.mod_lt m (Nat.succ_pos 2))).trans read

/-- A fighter that is shown a motion for one of its links, in time for a window, follows a link. -/
theorem fighter_leaves (linked : Linked assets) {fighter last : Fighter α μ} {first : Sample α}
    {samples : List (Sample α)} {followed : List (Option (UFGMoveLink assets.state μ))}
    (fought : Fights assets fighter (first :: samples) followed last) (lasting : Lasting samples)
    {link : UFGMoveLink assets.state μ} (entry : some link ∈ (assets.move fighter.move).linkedMoves)
    {n : Nat} {acceptable : Nat → List (Option α)} (motion : Motion link n acceptable)
    {row : Nat → Nat}
    (spelt : Spelt (samples.map (fun sample => sample.frame.atoms)) n acceptable row)
    (positive : 0 < n) (windows : WindowsOpen link
      (fighter.time + first.deltaSeconds + (samples.dropLast.map Sample.deltaSeconds).sum)) :
    ∃ link ∈ followed, link ≠ none := by
  by_contra never
  push Not at never
  obtain ⟨atoms, located, -⟩ := spelt.shown 0 positive
  rcases List.eq_nil_or_concat' samples with rfl | ⟨front, final, rfl⟩
  · cases located
  rcases lasting with ⟨nonneg, paired⟩
  obtain ⟨lasting, -, unexpired⟩ := List.pairwise_append.mp paired
  rw [List.dropLast_concat] at windows
  cases fought with
  | @act _ next _ _ link' _ followed step rest =>
      obtain rfl := never link' List.mem_cons_self
      have quiet : ∀ link ∈ followed, link = none :=
        fun link member => never link (List.mem_cons_of_mem _ member)
      obtain ⟨there, followed', followed'', ranFront, ranFinal, rfl⟩ := RelationalRun.runs_split rest
      cases step with
      | stay shut =>
          obtain ⟨move, time, kept, buffer⟩ := quiet_keeps ranFront
            (fun link member => quiet link (List.mem_append_left _ member))
            (List.append_nil _).symm (fun frame member => absurd member List.not_mem_nil)
            ⟨fun sample member => nonneg sample (List.mem_append_left _ member), lasting⟩
          rw [List.nil_append] at buffer
          have fresh : ∀ frame ∈ front.map Sample.frame ++ [final.frame],
              stillFresh final.expiration final.frame.stamp frame.stamp = true := by
            intro frame member
            apply decide_eq_true
            rcases List.mem_append.mp member with held | new
            · obtain ⟨sample, inside, rfl⟩ := List.mem_map.mp held
              exact unexpired sample inside final (List.mem_singleton_self final)
            · rw [List.mem_singleton.mp new]
              exact le_add_of_nonneg_right (nonneg final (by simp))
          obtain ⟨left, held⟩ := @prune_fresh _ _ _ kept _ fresh
          have stream : there.stream final = (left ++
              (front ++ [final]).map Sample.frame).flatMap InputFrame.atoms := by
            rw [Fighter.stream, Fighter.held, buffer, List.append_assoc, held, List.map_append]
            rfl
          have opens : Opens link there.time (there.stream final) := by
            rw [stream]
            apply spelt_opens motion
            · rw [time]
              exact windows
            · rw [List.map_map]
              exact spelt
          cases ranFinal with
          | @act _ _ _ _ link'' _ _ last _ =>
              obtain rfl := quiet link'' (List.mem_append_right _ List.mem_cons_self)
              cases last with
              | stay shut' =>
                  rw [← move] at entry
                  obtain ⟨opening, follows⟩ := firstOpening_exists (linked there.move) entry opens
                  exact shut' opening follows

def Event.clock : Event → Option (Rat × Rat)
  | .tick deltaSeconds currentTime => some (deltaSeconds, currentTime)
  | _ => none

theorem run_clock {start pawn : AFGDefaultPawn α μ} {events : List Event}
    {records : List (TickRecord assets)} (ran : runPawn assets start events = .ok (pawn, records)) :
    records.map (fun record => (record.deltaSeconds, record.currentTime)) =
      events.filterMap Event.clock := by
  induction events generalizing start records with
  | nil =>
      obtain ⟨rfl, rfl⟩ := Prod.mk.inj (Except.ok.inj ran)
      rfl
  | cons event events ih =>
      obtain ⟨middle, first, rest, reaction, tail, rfl⟩ := EventRun.run_cons.mp ran
      rw [List.map_append, ih tail]
      cases event with
      | tick deltaSeconds currentTime =>
          obtain ⟨record, ticked, rfl, rfl⟩ := react_tick reaction
          obtain ⟨-, -, rfl, rfl⟩ := tick_complete ticked
          rfl
      | _ =>
          obtain ⟨rfl, rfl⟩ := Prod.mk.inj (Except.ok.inj reaction)
          rfl

omit [DecidableEq α] in
theorem samples_clock {controls final : AFGDefaultPawn α μ} {events : List Event}
    {samples : List (Sample α)} (taken : takeSamples controls events = .ok (final, samples)) :
    samples.map (fun sample => (sample.deltaSeconds, sample.frame.stamp)) =
      events.filterMap Event.clock := by
  induction events generalizing controls samples with
  | nil =>
      obtain ⟨rfl, rfl⟩ := Prod.mk.inj (Except.ok.inj taken)
      rfl
  | cons event events ih =>
      obtain ⟨middle, first, rest, done, tail, rfl⟩ := EventRun.run_cons.mp taken
      rw [List.map_append, ih tail]
      cases event with
      | tick deltaSeconds currentTime =>
          obtain ⟨sample, sampled, rfl, rfl⟩ := takeSample_tick done
          obtain ⟨-, stamp, delta, -⟩ := sample_ok.mp sampled
          rw [List.map_singleton, stamp, delta]
          rfl
      | _ =>
          obtain ⟨rfl, rfl⟩ := Prod.mk.inj (Except.ok.inj done)
          rfl

structure PlannedTick where
  frame : PlayerFrame
  deltaSeconds : Rat
  currentTime : Rat

def AFGDefaultPawn.planned (pawn : AFGDefaultPawn α μ) (plan : PlannedTick) : Sample α :=
  ⟨⟨plan.currentTime, pawn.atomsFor plan.frame, rfl⟩, plan.deltaSeconds, pawn.inputExpirationTime⟩

def PlayerFrame.idle : PlayerFrame := ⟨.neutral, fun _ => .up⟩

omit [DecidableEq α] in
theorem plan_played {pawn : AFGDefaultPawn α μ} (equipped : pawn.Equipped)
    (threshold : 0 < pawn.directionThreshold) (nonneg : 0 ≤ pawn.inputExpirationTime)
    {plan : List PlannedTick}
    (coherent : ∀ button, CoherentHistory (plan.map (fun tick => tick.frame.buttons button)))
    (deltaSeconds currentTime : Rat) :
    ∃ more next, (∀ event ∈ more, event.Clamped) ∧ takeSamples pawn.controls more =
      .ok (next, (⟨.idle, deltaSeconds, currentTime⟩ :: plan).map pawn.planned) := by
  obtain ⟨previous, inHand⟩ := inHand_controls pawn
  have shows : ∀ plan : List PlannedTick,
      List.Forall₂ (Shows pawn) (plan.map pawn.planned) (plan.map PlannedTick.frame) := by
    intro plan
    rw [List.forall₂_map_left_iff, List.forall₂_map_right_iff]
    exact List.forall₂_same.mpr (fun tick _ => ⟨rfl, nonneg⟩)
  apply frames_played equipped threshold inHand (shows _)
  intro button
  rw [List.map_map, List.map_cons, List.isChain_cons_cons]
  constructor
  · exact ⟨fun held => (by cases held), fun pressed => (by cases pressed)⟩
  · exact coherentHistory_chain (coherent button)

/-- A pawn never gets stuck with a motion link. From every state that play can bring it to, and at
whatever frame rate, a motion whose frames can follow each other and do not expire before its last Tick
makes the pawn follow some link, be it back to the same move, if the windows of the motion's link let
it through by then; a first Tick serves to let go of the buttons. -/
theorem never_trapped {region : σ → Prop} {phase : σ → Nat}
    (phased : PhasedAssets assets region phase) (linked : Linked assets)
    {start pawn : AFGDefaultPawn α μ} (spawned : Spawned start) {events : List Event}
    (clamped : ∀ event ∈ events, event.Clamped) {records : List (TickRecord assets)}
    (ran : runPawn assets start events = .ok (pawn, records))
    (threshold : 0 < pawn.directionThreshold) {current : μ} (inMove : pawn.currentMove = some current)
    {link : UFGMoveLink assets.state μ} (entry : some link ∈ (assets.move current).linkedMoves)
    {n : Nat} {acceptable : Nat → List (Option α)} (motion : Motion link n acceptable)
    (positive : 0 < n) {plan : List PlannedTick} {row : Nat → Nat}
    (spelt : Spelt (plan.map (fun tick => pawn.atomsFor tick.frame)) n acceptable row)
    (coherent : ∀ button, CoherentHistory (plan.map (fun tick => tick.frame.buttons button)))
    (lasting : plan.Pairwise (fun earlier later =>
      later.currentTime ≤ earlier.currentTime + pawn.inputExpirationTime))
    (deltaSeconds currentTime : Rat) (windows : WindowsOpen link (pawn.timeInCurrentMove +
      deltaSeconds + (plan.dropLast.map PlannedTick.deltaSeconds).sum)) :
    ∃ more final later, (∀ event ∈ more, event.Clamped) ∧
      runPawn assets pawn more = .ok (final, later) ∧
      later.map (fun record => (record.deltaSeconds, record.currentTime)) =
        (deltaSeconds, currentTime) :: plan.map (fun tick => (tick.deltaSeconds, tick.currentTime)) ∧
      ∃ record ∈ later, record.followed ≠ none := by
  obtain ⟨move, standing⟩ := spawned_stands spawned
  obtain ⟨-, fighter, -, -, stands⟩ := run_fights standing clamped ran
  obtain rfl : current = fighter.move := Option.some.inj (inMove.symm.trans stands.move)
  have guarded := (run_moveInv linked spawned.guards spawned.still ran).guarded
  obtain ⟨more, next, clamped', taken⟩ := plan_played (guarded_equipped guarded) threshold
    stands.nonneg coherent deltaSeconds currentTime
  have clampedAll : ∀ event ∈ events ++ more, event.Clamped :=
    fun event member => (List.mem_append.mp member).elim (clamped event) (clamped' event)
  obtain ⟨final, all, ranAll, -⟩ := phased_runs phased linked spawned (events ++ more) clampedAll
  obtain ⟨reached, earlier, later, before, ran', -⟩ := EventRun.run_append.mp ranAll
  obtain ⟨rfl, rfl⟩ := Prod.mk.inj (Except.ok.inj (ran.symm.trans before))
  obtain ⟨samples, last, sampled, fought, -⟩ := run_fights stands clamped' ran'
  obtain ⟨-, rfl⟩ := Prod.mk.inj (Except.ok.inj (sampled.symm.trans taken))
  refine ⟨more, final, later, clamped', ran', ?_, ?_⟩
  · rw [run_clock ran', ← samples_clock taken, List.map_map]
    rfl
  · rw [List.map_cons] at fought
    have lasting' : Lasting (plan.map pawn.planned) := by
      refine ⟨fun sample member => ?_, List.pairwise_map.mpr lasting⟩
      obtain ⟨tick, -, rfl⟩ := List.mem_map.mp member
      exact stands.nonneg
    have spelt' : Spelt ((plan.map pawn.planned).map (fun sample => sample.frame.atoms)) n acceptable
        row := by
      rw [List.map_map]
      exact spelt
    have windows' : WindowsOpen link (fighter.time + deltaSeconds +
        ((plan.map pawn.planned).dropLast.map Sample.deltaSeconds).sum) := by
      rw [← stands.time, ← List.map_dropLast, List.map_map]
      exact windows
    obtain ⟨link, member, follows⟩ :=
      fighter_leaves linked fought lasting' entry motion spelt' positive windows'
    obtain ⟨record, inside, rfl⟩ := List.mem_map.mp member
    exact ⟨record, inside, follows⟩

def jabFrame : PlayerFrame := ⟨.neutral, fun button => if button = .leftFace then .justPressed else .up⟩

def jabPlan : List PlannedTick := [⟨jabFrame, 1 / 60, 7 / 60⟩]

theorem never_trapped_sample :
    ∃ pawn records, runPawn jabAssets (samplePawn .standing) [.leftButtonPressed, .tick (1 / 60) 0] =
        .ok (pawn, records) ∧ pawn.currentMove = some .jab ∧
      ∃ more final later, (∀ event ∈ more, event.Clamped) ∧
        runPawn jabAssets pawn more = .ok (final, later) ∧
        later.map (fun record => (record.deltaSeconds, record.currentTime)) =
          [(1 / 10, 1 / 10), (1 / 60, 7 / 60)] ∧ ∃ record ∈ later, record.followed ≠ none := by
  have ends : (runPawn jabAssets (samplePawn .standing)
      [.leftButtonPressed, .tick (1 / 60) 0]).toOption.map (fun result =>
        (result.1.currentMove, result.1.directionThreshold, result.1.timeInCurrentMove)) =
      some (some .jab, 1 / 2, 0) := by
    decide +kernel
  have shows : (runPawn jabAssets (samplePawn .standing)
      [.leftButtonPressed, .tick (1 / 60) 0]).toOption.map (fun result =>
        result.1.atomsFor jabFrame) =
      some [some (.inl .neutral), some (.inr .justPressed), some (.inr .up)] := by
    decide +kernel
  cases ran : runPawn jabAssets (samplePawn .standing) [.leftButtonPressed, .tick (1 / 60) 0] with
  | error fault =>
      rw [ran] at ends
      cases ends
  | ok result =>
      rcases result with ⟨pawn, records⟩
      rw [ran] at ends shows
      obtain ⟨move, rest⟩ := Prod.mk.inj (Option.some.inj ends)
      obtain ⟨threshold, time⟩ := Prod.mk.inj rest
      have atoms : pawn.atomsFor jabFrame =
          [some (.inl .neutral), some (.inr .justPressed), some (.inr .up)] := Option.some.inj shows
      have inputs : ∀ m : Fin 3, ∃ atom ∈ jabInputs m, ([some (.inl .neutral),
          some (.inr .justPressed), some (.inr .up)] : List (Option SampleAtom))[m.val % 3]? =
            some atom := by
        decide
      have spelt : Spelt (jabPlan.map (fun tick => pawn.atomsFor tick.frame)) 3 jabInputs
          (fun _ => 0) := {
        shown := fun m below => ⟨_, rfl, by
          change Accepts (pawn.atomsFor jabFrame) (jabInputs m) (m % 3)
          rw [atoms]
          exact inputs ⟨m, below⟩⟩
        ordered := fun _ _ => Nat.le_refl 0
        wraps := fun m next _ => by omega }
      have coherent : ∀ button, CoherentHistory
          (jabPlan.map (fun tick => tick.frame.buttons button)) := by
        intro button
        apply coherentHistory_of_chain
        cases button <;> simp [Succeeds, jabPlan, jabFrame]
      have window : WindowsOpen jabLink (pawn.timeInCurrentMove + 1 / 10 +
          (jabPlan.dropLast.map PlannedTick.deltaSeconds).sum) := by
        refine .inr ⟨⟨1 / 10, 1 / 2⟩, by simp [jabLink], ?_⟩
        change pawn.timeInCurrentMove = 0 at time
        rw [time]
        decide +kernel
      have clamped : ∀ event ∈ ([.leftButtonPressed, .tick (1 / 60) 0] : List Event),
          event.Clamped := by
        simp [Event.Clamped]
      have positive : 0 < pawn.directionThreshold := by
        change pawn.directionThreshold = 1 / 2 at threshold
        rw [threshold]
        decide +kernel
      exact ⟨pawn, records, rfl, move, never_trapped jab_phased jab_linked sample_spawned clamped ran
        positive move List.mem_cons_self jab_motion (Nat.succ_pos 2) spelt coherent
        (List.pairwise_singleton _ _) (1 / 10) (1 / 10) window⟩

end SmFighting
