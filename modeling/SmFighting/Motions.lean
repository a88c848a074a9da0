import SmFighting.CancelWindows
import SmFighting.FrameLedger
import SmFighting.Recognition

/-! From the player's hands to the pawn's moves. A motion asks for one input after the other. The
player performs it in the frames that are still usable, and the pawn follows the first link that has
its motion performed and its cancel windows, if any, open. -/

namespace SmFighting

variable {α σ μ : Type} [DecidableEq α] {assets : Assets α σ μ}

/-- The machine of the link asks for `n` inputs, one after the other. -/
def Motion (link : UFGMoveLink assets.state μ) (n : Nat) (acceptable : Nat → List (Option α)) : Prop :=
  ∃ machine s, link.inputStateMachine = some machine ∧ s 0 = machine.1 ∧
    Chain assets.state .ufgState n s acceptable

def Shown (records : List (TickRecord assets)) (tag : Nat) (acceptable : List (Option α))
    (slot : Nat) : Prop :=
  ∃ recorder : TickRecord assets, records[tag]? = some recorder ∧
    Accepts recorder.atoms acceptable slot

/-- The player has performed a motion by Tick `number`: input `m` is shown in the frame of Tick
`row m`. Inputs go through the places of a frame in turn, and where they start over the frame is a
later one. -/
structure Performed (records : List (TickRecord assets)) (number n : Nat)
    (acceptable : Nat → List (Option α)) (row : Nat → Nat) : Prop where
  usable : ∀ m < n, Usable records number (row m)
  shown : ∀ m < n, Shown records (row m) (acceptable m) (m % 3)
  ordered : ∀ m, m + 1 < n → row m ≤ row (m + 1)
  wraps : ∀ m, m + 1 < n → (m + 1) % 3 = 0 → row m < row (m + 1)

def Ready (records : List (TickRecord assets)) (number : Nat) (link : UFGMoveLink assets.state μ)
    (n : Nat) (acceptable : Nat → List (Option α)) : Prop :=
  WindowsOpen link (timeInMove (records.take number)) ∧
    ∃ row, Performed records number n acceptable row

theorem chain_accepts {β τ : Type} [DecidableEq β] {graph : τ → USMState β τ}
    {stateClass : USMStateClass} {n : Nat} {s : Nat → τ} {acceptable : Nat → List β}
    (chain : Chain graph stateClass n s acceptable) (dataSource : List β) :
    (runState graph dataSource (s 0) 0 (-1)).completionType = .accepted ↔
      ∃ t, StridedMatch.Occurs stateClass.loopStride (fun k => Accepts dataSource (acceptable k))
        n 0 0 t := by
  obtain ⟨result, scan, found, lost⟩ :=
    chain_scan chain dataSource 0 0 (-1) (Nat.zero_le n) (by omega)
  obtain ⟨least, never⟩ := StridedMatch.scan_complete (fun k i => accepts_bound) scan
  cases result with
  | none =>
      exact ⟨fun accepted => absurd accepted (lost rfl), fun occurs => absurd occurs (never rfl)⟩
  | some j =>
      obtain ⟨⟨t, occurs, -⟩, -⟩ := least j rfl
      rw [found j rfl]
      exact ⟨fun _ => ⟨t, occurs⟩, fun _ => rfl⟩

omit [DecidableEq α] in
theorem accepts_shown {records : List (TickRecord assets)} {number : Nat}
    {record : TickRecord assets} (honest : HonestTags records number record)
    (whole : record.seen.inputStream.length = 3 * record.seen.inputTimeStamps.length)
    (acceptable : List (Option α)) {j slot : Nat} (inside : slot < 3) :
    Accepts record.seen.inputStream acceptable (3 * j + slot) ↔
      ∃ tag, (seenTags records number)[j]? = some tag ∧ Shown records tag acceptable slot := by
  rcases honest with ⟨count, names⟩
  have atom : ∀ tag recorder, (seenTags records number)[j]? = some tag →
      (record.seen.inputStream.drop (3 * j)).take 3 = recorder →
      recorder[slot]? = record.seen.inputStream[3 * j + slot]? := by
    rintro tag _ - rfl
    rw [List.getElem?_take_of_lt inside, List.getElem?_drop]
  constructor
  · intro accepts
    have bound := accepts_bound accepts
    have tagged : (seenTags records number)[j]? = some (seenTags records number)[j] :=
      List.getElem?_eq_getElem (by omega)
    obtain ⟨recorder, recorded, -, atoms⟩ := names j _ tagged
    refine ⟨_, tagged, recorder, recorded, ?_⟩
    rw [Accepts, atom _ _ tagged atoms]
    exact accepts
  · intro shown
    rcases shown with ⟨tag, tagged, recorder, recorded, accepts⟩
    obtain ⟨recorder', recorded', -, atoms⟩ := names j tag tagged
    obtain rfl := Option.some.inj (recorded.symm.trans recorded')
    rw [Accepts, ← atom tag _ tagged atoms]
    exact accepts

omit [DecidableEq α] in
theorem rows_performed {records : List (TickRecord assets)} (ledger : LedgerInv records)
    {number : Nat} {record : TickRecord assets} (located : records[number]? = some record)
    (honest : HonestTags records number record) (n : Nat) (acceptable : Nat → List (Option α)) :
    (∃ row, StridedMatch.Rows 3 (fun m => Accepts record.seen.inputStream (acceptable m)) n row) ↔
      ∃ row, Performed records number n acceptable row := by
  have bound := (List.getElem?_eq_some_iff.mp located).1
  obtain ⟨first, length, consecutive⟩ := ledger.consecutive number bound
  have accepts := fun m j => accepts_shown honest (ledger.whole number record located) (acceptable m)
    (j := j) (Nat.mod_lt m (Nat.succ_pos 2))
  rw [consecutive] at accepts
  have usable : ∀ tag, (∃ j, j < length ∧ tag = first + j) ↔ Usable records number tag := by
    intro tag
    rw [← ledger.seen number bound, consecutive, List.mem_range']
    simp only [Nat.one_mul]
  constructor
  · intro found
    rcases found with ⟨row, rows⟩
    have cell : ∀ m < n, row m < length ∧
        Shown records (first + row m) (acceptable m) (m % 3) := by
      intro m below
      obtain ⟨tag, tagged, shown⟩ := (accepts m (row m)).mp (rows.hits m below)
      obtain ⟨inside, rfl⟩ := List.getElem?_eq_some_iff.mp tagged
      rw [List.length_range'] at inside
      rw [List.getElem_range', Nat.one_mul] at shown
      exact ⟨inside, shown⟩
    exact ⟨fun m => first + row m, {
      usable := fun m below => (usable _).mp ⟨row m, (cell m below).1, rfl⟩
      shown := fun m below => (cell m below).2
      ordered := fun m next => Nat.add_le_add_left (rows.ordered m next) first
      wraps := fun m next wrapped => Nat.add_lt_add_left (rows.wraps m next wrapped) first }⟩
  · intro found
    rcases found with ⟨row, performed⟩
    have cell : ∀ m < n, ∃ j, j < length ∧ row m = first + j :=
      fun m below => (usable _).mpr (performed.usable m below)
    refine ⟨fun m => row m - first, fun m next => ?_, fun m next wrapped => ?_, fun m below => ?_⟩
    · have ordered := performed.ordered m next
      omega
    · obtain ⟨j, -, place⟩ := cell m (by omega)
      have later := performed.wraps m next wrapped
      omega
    · obtain ⟨j, inside, place⟩ := cell m below
      have shown := performed.shown m below
      rw [accepts, place, Nat.add_sub_cancel_left]
      rw [place] at shown
      exact ⟨first + j, by rw [List.getElem?_range' inside, Nat.one_mul], shown⟩

/-- Over the stream that a Tick tries its links on, a motion link opens exactly when it is ready. -/
theorem opens_iff_ready {records : List (TickRecord assets)} (ledger : LedgerInv records)
    {number : Nat} {record : TickRecord assets} (located : records[number]? = some record)
    (honest : HonestTags records number record)
    (timed : record.before.timeInCurrentMove = timeInMove (records.take number))
    {link : UFGMoveLink assets.state μ} {n : Nat} {acceptable : Nat → List (Option α)}
    (motion : Motion link n acceptable) :
    Opens link record.before.timeInCurrentMove record.seen.inputStream ↔
      Ready records number link n acceptable := by
  rcases motion with ⟨machine, s, found, start, chain⟩
  have accepted : (∃ machine, link.inputStateMachine = some machine ∧
      (runState assets.state record.seen.inputStream machine.1 0 (-1)).completionType = .accepted) ↔
        ∃ row, Performed records number n acceptable row := by
    rw [← rows_performed ledger located honest, ← StridedMatch.occurs_iff_rows (Nat.succ_pos 2)]
    have occurs := chain_accepts chain record.seen.inputStream
    rw [start] at occurs
    simp only [found, Option.some.injEq, exists_eq_left']
    exact occurs
  rw [Opens, accepted, timed, Ready]

def FirstReady (records : List (TickRecord assets)) (number : Nat)
    (linkedMoves : List (Option (UFGMoveLink assets.state μ)))
    (stages : UFGMoveLink assets.state μ → Nat)
    (acceptable : UFGMoveLink assets.state μ → Nat → List (Option α))
    (link : UFGMoveLink assets.state μ) : Prop :=
  ∃ i : Nat, linkedMoves[i]? = some (some link) ∧
    Ready records number link (stages link) (acceptable link) ∧
    ∀ j < i, ∀ other, linkedMoves[j]? = some (some other) →
      ¬ Ready records number other (stages other) (acceptable other)

theorem followsFirst_iff {record : TickRecord assets} {current : μ}
    (follows : FollowsFirst record current) (link : UFGMoveLink assets.state μ) :
    record.followed = some link ↔
      ∃ i : Nat, (assets.move current).linkedMoves[i]? = some (some link) ∧
        Opens link record.before.timeInCurrentMove record.seen.inputStream ∧
        ∀ j < i, ∀ other, (assets.move current).linkedMoves[j]? = some (some other) →
          ¬ Opens other record.before.timeInCurrentMove record.seen.inputStream := by
  constructor
  · exact follows.least link
  · intro first
    rcases first with ⟨i, entry, opens, before⟩
    have chosen := follows.follows.mpr ⟨link, List.mem_of_getElem? entry, opens⟩
    obtain ⟨link', followed⟩ := Option.ne_none_iff_exists'.mp chosen
    obtain ⟨i', entry', opens', before'⟩ := follows.least link' followed
    rcases Nat.lt_trichotomy i i' with earlier | rfl | later
    · exact absurd opens (before' i earlier link entry)
    · rw [followed, ← Option.some.inj (entry.symm.trans entry')]
    · exact absurd opens' (before i' later link' entry')

/-- With links that ask for motions, the moves of a run are what its player has performed: a Tick
follows the first link that has no cancel windows or an open one and whose motion is performed in
frames that are usable by then, the Tick's own among them. -/
theorem motion_executed {start pawn : AFGDefaultPawn α μ} {events : List Event}
    {records : List (TickRecord assets)} (spawned : Spawned start)
    (clamped : ∀ event ∈ events, event.Clamped)
    (ran : runPawn assets start events = .ok (pawn, records))
    (monotone : (records.map TickRecord.currentTime).Pairwise (· ≤ ·))
    (stages : UFGMoveLink assets.state μ → Nat)
    (acceptable : UFGMoveLink assets.state μ → Nat → List (Option α))
    (motions : ∀ move, ∀ entry ∈ (assets.move move).linkedMoves, ∃ link, entry = some link ∧
      link.move ≠ none ∧ Motion link (stages link) (acceptable link))
    {number : Nat} {record : TickRecord assets} (located : records[number]? = some record) :
    ∃ current, moveAfter start.currentMove (records.take number) = some current ∧
      ∀ link, record.followed = some link ↔
        FirstReady records number (assets.move current).linkedMoves stages acceptable link := by
  have linked : Linked assets := by
    intro move entry member
    obtain ⟨link, same, target, -⟩ := motions move entry member
    exact ⟨link, same, target⟩
  obtain ⟨⟨gone, tags⟩, ledger⟩ := run_ledgerInv spawned.emptyStamps spawned.emptyStream
    spawned.nonneg clamped ran monotone
  obtain ⟨⟨current, found, follows⟩, moved, -⟩ :=
    (run_moveInv linked spawned.guards spawned.still ran).ticks number record located
  obtain ⟨-, timed⟩ := (run_timeInv spawned.still ran).ticks number record located
  refine ⟨current, moved.symm.trans found, fun link => ?_⟩
  have ready : ∀ (j : Nat) other, (assets.move current).linkedMoves[j]? = some (some other) →
      (Opens other record.before.timeInCurrentMove record.seen.inputStream ↔
        Ready records number other (stages other) (acceptable other)) := by
    intro j other entry
    obtain ⟨other', same, -, motion⟩ := motions current _ (List.mem_of_getElem? entry)
    obtain rfl := Option.some.inj same
    exact opens_iff_ready ledger located (tags.honest number record located) timed motion
  rw [followsFirst_iff follows]
  constructor
  · intro first
    rcases first with ⟨i, entry, opens, before⟩
    exact ⟨i, entry, (ready i link entry).mp opens, fun j below other place now =>
      before j below other place ((ready j other place).mpr now)⟩
  · intro first
    rcases first with ⟨i, entry, now, before⟩
    exact ⟨i, entry, (ready i link entry).mpr now, fun j below other place opens =>
      before j below other place ((ready j other place).mp opens)⟩

/-- A left jab as a motion: the stick at rest, the left button fresh, the top button as it may be. -/
def jabInputs : Nat → List (Option SampleAtom)
  | 0 => [some (.inl .neutral)]
  | 1 => [some (.inr .justPressed)]
  | _ => [some (.inr .up), some (.inr .justPressed), some (.inr .heldDown)]

def jabState (k : Fin 4) : USMState (Option SampleAtom) (Fin 4) :=
  if k = 3 then { stateClass := .ufgState, completionType := .accepted, bTerminateImmediately := true }
  else {
    stateClass := .ufgState
    instancedTransitions := [some (.usmTransition (some (k + 1)) false (jabInputs k))] }

def jabLink : UFGMoveLink jabState SampleMove where
  move := some .jab
  cancelWindows := [⟨0, 0⟩, ⟨1 / 10, 1 / 2⟩]
  inputStateMachine := some ⟨0, rfl⟩

def jabAssets : Assets SampleAtom (Fin 4) SampleMove where
  state := jabState
  move _ := { linkedMoves := [some jabLink] }

theorem jab_motion : @Motion _ _ _ jabAssets jabLink 3 jabInputs := by
  refine ⟨⟨0, rfl⟩, Fin.ofNat 4, rfl, rfl, ?_⟩
  exact {
    sameClass := by decide
    waits := by decide
    loops := by decide
    unmarked := by decide
    only := by decide
    terminates := rfl
    accepted := rfl }

theorem jab_motions : ∀ move, ∀ entry ∈ (jabAssets.move move).linkedMoves, ∃ link, entry = some link ∧
    link.move ≠ none ∧ Motion link 3 jabInputs := by
  intro move entry member
  exact ⟨jabLink, List.mem_singleton.mp member, Option.some_ne_none _, jab_motion⟩

theorem jab_linked : Linked jabAssets := by
  intro move entry member
  exact ⟨jabLink, List.mem_singleton.mp member, Option.some_ne_none _⟩

theorem sample_spawned : Spawned (samplePawn .standing) where
  guards := by decide +kernel
  still := rfl
  emptyStamps := rfl
  emptyStream := rfl
  nonneg := by decide +kernel

theorem motion_executed_sample :
    ∃ pawn records record, runPawn jabAssets (samplePawn .standing) sampleEvents =
        .ok (pawn, records) ∧ records[2]? = some record ∧ record.followed ≠ none ∧
      ∃ current, moveAfter (some .standing) (records.take 2) = some current ∧
        ∀ link, record.followed = some link ↔ FirstReady records 2
          (jabAssets.move current).linkedMoves (fun _ => 3) (fun _ => jabInputs) link := by
  have runs : ∃ result, runPawn jabAssets (samplePawn .standing) sampleEvents = .ok result :=
    faultOf_none.mp (by decide +kernel)
  rcases runs with ⟨⟨pawn, records⟩, ran⟩
  have ticks : ((runPawn jabAssets (samplePawn .standing) sampleEvents).toOption.map
      (fun result => result.2.map (fun record => (record.currentTime, record.followed.isSome)))) =
        some [(0, true), (1 / 10, false), (7 / 60, true)] := by
    decide +kernel
  rw [ran] at ticks
  have seen := Option.some.inj ticks
  obtain ⟨first, rest, rfl, one, seen⟩ := List.map_eq_cons_iff.mp seen
  obtain ⟨second, rest, rfl, two, seen⟩ := List.map_eq_cons_iff.mp seen
  obtain ⟨third, rest, rfl, three, seen⟩ := List.map_eq_cons_iff.mp seen
  obtain rfl := List.map_eq_nil_iff.mp seen
  simp only [Prod.mk.injEq] at one two three
  have monotone : ([first, second, third].map TickRecord.currentTime).Pairwise (· ≤ ·) := by
    simp only [List.map_cons, List.map_nil, one.1, two.1, three.1]
    decide +kernel
  refine ⟨pawn, _, third, ran, rfl, Option.isSome_iff_ne_none.mp three.2, ?_⟩
  exact motion_executed sample_spawned sample_clamped ran monotone (fun _ => 3) (fun _ => jabInputs)
    jab_motions rfl

omit [DecidableEq α] in
theorem givenUpTags_quiet {records : List (TickRecord assets)} {number : Nat}
    (quiet : ∀ record : TickRecord assets, records[number]? = some record →
      record.seen.inputTimeStamps = record.after.inputTimeStamps) : givenUpTags records number = [] := by
  rw [givenUpTags]
  split
  · rfl
  · rename_i record located
    rw [quiet record located, Nat.sub_self, List.take_zero]

omit [DecidableEq α] in
theorem usable_later {records : List (TickRecord assets)} {p q tag : Nat} (later : p ≤ q)
    (usable : Usable records p tag) (lasting : ∀ r, p < r → r ≤ q → FreshAt records r tag)
    (quiet : ∀ r, p ≤ r → r < q → givenUpTags records r = []) : Usable records q tag where
  recorded := usable.recorded.trans later
  fresh := fun r low high => by
    rcases Nat.lt_or_ge p r with after | before
    · exact lasting r after high
    · exact usable.fresh r low before
  unspent := fun r below => by
    rcases Nat.lt_or_ge r p with before | after
    · exact usable.unspent r before
    · rw [quiet r after below]
      exact List.not_mem_nil

theorem complete_kept {record : TickRecord assets} (complete : record.Complete)
    (stayed : record.followed = none) : record.seen.inputTimeStamps = record.after.inputTimeStamps := by
  rcases complete.tried with ⟨current, -, -, ending⟩
  rcases ending with ⟨-, link, -, -, -, -, -, followed, -⟩ | ⟨-, -, after⟩
  · rw [stayed] at followed
    cases followed
  · rw [after]

/-- A motion performed before a cancel window of its link opens is not lost: as long as its frames do
not expire and nothing else is followed, the link is there for the Tick at which a window is open,
and that Tick follows it or one before it in the list. -/
theorem early_motion_kept {start pawn : AFGDefaultPawn α μ} {events : List Event}
    {records : List (TickRecord assets)} (spawned : Spawned start)
    (clamped : ∀ event ∈ events, event.Clamped)
    (ran : runPawn assets start events = .ok (pawn, records))
    (monotone : (records.map TickRecord.currentTime).Pairwise (· ≤ ·)) (linked : Linked assets)
    {link : UFGMoveLink assets.state μ} {n : Nat} {acceptable : Nat → List (Option α)}
    (motion : Motion link n acceptable) {p q : Nat} {row : Nat → Nat} (later : p ≤ q)
    (performed : Performed records p n acceptable row)
    (lasting : ∀ m < n, ∀ r, p < r → r ≤ q → FreshAt records r (row m))
    (quiet : ∀ r, p ≤ r → r < q → ∀ record : TickRecord assets, records[r]? = some record →
      record.followed = none)
    {record : TickRecord assets} (located : records[q]? = some record) {current : μ} {i : Nat}
    (inMove : moveAfter start.currentMove (records.take q) = some current)
    (entry : (assets.move current).linkedMoves[i]? = some (some link))
    (windows : WindowsOpen link (timeInMove (records.take q))) :
    ∃ j ≤ i, ∃ first, (assets.move current).linkedMoves[j]? = some (some first) ∧
      record.followed = some first := by
  obtain ⟨⟨gone, tags⟩, ledger⟩ := run_ledgerInv spawned.emptyStamps spawned.emptyStream
    spawned.nonneg clamped ran monotone
  have timeInv := run_timeInv spawned.still ran
  obtain ⟨⟨current', found, follows⟩, moved, -⟩ :=
    (run_moveInv linked spawned.guards spawned.still ran).ticks q record located
  obtain rfl : current = current' := Option.some.inj (inMove.symm.trans (moved.symm.trans found))
  obtain ⟨-, timed⟩ := timeInv.ticks q record located
  have kept : ∀ r, p ≤ r → r < q → givenUpTags records r = [] := by
    intro r low high
    apply givenUpTags_quiet
    intro other there
    exact complete_kept (timeInv.ticks r other there).1 (quiet r low high other there)
  have still : Performed records q n acceptable row := {
    usable := fun m below =>
      usable_later later (performed.usable m below) (lasting m below) kept
    shown := performed.shown
    ordered := performed.ordered
    wraps := performed.wraps }
  have opens := (opens_iff_ready ledger located (tags.honest q record located) timed motion).mpr
    ⟨windows, row, still⟩
  obtain ⟨first, followed⟩ := Option.ne_none_iff_exists'.mp
    (follows.follows.mpr ⟨link, List.mem_of_getElem? entry, opens⟩)
  obtain ⟨j, place, -, before⟩ := follows.least first followed
  refine ⟨j, ?_, first, place, followed⟩
  by_contra behind
  exact before i (Nat.lt_of_not_le behind) link entry opens

def hastyEvents : List Event :=
  [.leftButtonPressed, .tick (1 / 60) 0, .leftButtonReleased, .tick (1 / 60) (1 / 10),
    .leftButtonPressed, .tick (1 / 12) (7 / 60), .tick (1 / 60) (1 / 5)]

theorem early_motion_kept_sample :
    ∃ pawn records record, runPawn jabAssets (samplePawn .standing) hastyEvents =
        .ok (pawn, records) ∧ Performed records 2 3 jabInputs (fun _ => 2) ∧
      (∀ other, records[2]? = some other → other.followed = none) ∧ records[3]? = some record ∧
      ∃ j ≤ 0, ∃ first, (jabAssets.move .jab).linkedMoves[j]? = some (some first) ∧
        record.followed = some first := by
  have runs : ∃ result, runPawn jabAssets (samplePawn .standing) hastyEvents = .ok result :=
    faultOf_none.mp (by decide +kernel)
  rcases runs with ⟨⟨pawn, records⟩, ran⟩
  have ticks : ((runPawn jabAssets (samplePawn .standing) hastyEvents).toOption.map
      (fun result => result.2.map (fun record => (record.currentTime,
        record.before.inputExpirationTime, record.followed.isNone)))) =
      some [(0, 3 / 4, false), (1 / 10, 3 / 4, true), (7 / 60, 3 / 4, true),
        (1 / 5, 3 / 4, false)] := by
    decide +kernel
  have history : ((runPawn jabAssets (samplePawn .standing) hastyEvents).toOption.map
      (fun result => (result.2[2]?.map TickRecord.atoms, seenTags result.2 2))) =
      some (some [some (.inl .neutral), some (.inr .justPressed), some (.inr .up)], [1, 2]) := by
    decide +kernel
  have clock : ((runPawn jabAssets (samplePawn .standing) hastyEvents).toOption.map
      (fun result => (timeInMove (result.2.take 3), moveAfter (some .standing) (result.2.take 3)))) =
      some (1 / 10, some .jab) := by
    decide +kernel
  rw [ran] at ticks history clock
  have seen := Option.some.inj ticks
  obtain ⟨first, rest, rfl, one, seen⟩ := List.map_eq_cons_iff.mp seen
  obtain ⟨second, rest, rfl, two, seen⟩ := List.map_eq_cons_iff.mp seen
  obtain ⟨third, rest, rfl, three, seen⟩ := List.map_eq_cons_iff.mp seen
  obtain ⟨fourth, rest, rfl, four, seen⟩ := List.map_eq_cons_iff.mp seen
  obtain rfl := List.map_eq_nil_iff.mp seen
  simp only [Prod.mk.injEq] at one two three four
  obtain ⟨atoms, tags⟩ := Prod.mk.inj (Option.some.inj history)
  obtain ⟨time, move⟩ := Prod.mk.inj (Option.some.inj clock)
  have monotone : ([first, second, third, fourth].map TickRecord.currentTime).Pairwise (· ≤ ·) := by
    simp only [List.map_cons, List.map_nil, one.1, two.1, three.1, four.1]
    decide +kernel
  have clamped : ∀ event ∈ hastyEvents, event.Clamped := by simp [hastyEvents, Event.Clamped]
  obtain ⟨-, ledger⟩ := run_ledgerInv rfl rfl sample_spawned.nonneg clamped ran monotone
  have usable : Usable [first, second, third, fourth] 2 2 := by
    rw [← ledger.seen 2 (Nat.lt_succ_of_lt (Nat.lt_succ_self 2)), tags]
    decide
  have performed : Performed [first, second, third, fourth] 2 3 jabInputs (fun _ => 2) := {
    usable := fun _ _ => usable
    shown := fun m below => by
      refine ⟨third, rfl, ?_⟩
      have shown : third.atoms = [some (.inl .neutral), some (.inr .justPressed), some (.inr .up)] :=
        Option.some.inj atoms
      have inputs : ∀ m : Fin 3, ∃ atom ∈ jabInputs m, ([some (.inl .neutral),
          some (.inr .justPressed), some (.inr .up)] : List (Option SampleAtom))[m.val % 3]? =
            some atom := by
        decide
      rw [shown]
      exact inputs ⟨m, below⟩
    ordered := fun _ _ => Nat.le_refl 2
    wraps := fun m next _ => by omega }
  have quiet : third.followed = none := Option.isNone_iff_eq_none.mp three.2.2
  have fresh : FreshAt [first, second, third, fourth] 3 2 := by
    refine ⟨third, fourth, rfl, rfl, ?_⟩
    rw [three.1, four.1, four.2.1]
    decide +kernel
  have window : WindowsOpen jabLink (timeInMove [first, second, third]) := by
    refine .inr ⟨⟨1 / 10, 1 / 2⟩, by simp [jabLink], ?_⟩
    change timeInMove [first, second, third] = 1 / 10 at time
    rw [time]
    decide +kernel
  refine ⟨pawn, _, fourth, ran, performed, fun other there => ?_, rfl, ?_⟩
  · rw [← Option.some.inj there, quiet]
  · apply early_motion_kept sample_spawned clamped ran monotone jab_linked jab_motion (Nat.le_succ 2)
      performed _ _ rfl move rfl window
    · intro m below r low high
      obtain rfl : r = 3 := Nat.le_antisymm high low
      exact fresh
    · intro r low high record located
      obtain rfl : r = 2 := Nat.le_antisymm (Nat.le_of_lt_succ high) low
      rw [← Option.some.inj located, quiet]

end SmFighting
