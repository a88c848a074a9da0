import SmFighting.MoveLinks
import SmFighting.Library.EventRun

/-! AFGDefaultPawn::Tick as a whole, the events that reach a pawn and the runs they make up. -/

namespace SmFighting

variable {α σ μ : Type} [DecidableEq α]

variable (assets : Assets α σ μ)

/-- What a Tick went through: the pawn before it, the atoms it recorded, the pawn as TryLinks saw
it, the link it followed with its result, the pawn after it. DoMove is called, with the move after
the Tick, exactly when a link was followed. -/
structure TickRecord where
  deltaSeconds : Rat
  currentTime : Rat
  before : AFGDefaultPawn α μ
  atoms : List (Option α)
  seen : AFGDefaultPawn α μ
  moveLinkToFollow : FFGMoveLinkToFollow assets.state μ
  followed : Option (UFGMoveLink assets.state μ)
  after : AFGDefaultPawn α μ

variable {assets}

def check (condition : Prop) [Decidable condition] : Except Fault Unit :=
  if condition then .ok () else .error .checkFailed

def spendInput (pawn : AFGDefaultPawn α μ) (link : UFGMoveLink assets.state μ)
    (target current : UFGMove assets.state μ) (dataIndex : Nat) :
    Except Fault (AFGDefaultPawn α μ) := do
  if link.bClearInput || target.bClearInputOnEntry || current.bClearInputOnExit then
    return { pawn with inputStream := [], inputTimeStamps := [] }
  else if dataIndex ≠ 0 then
    let _ ← check (dataIndex % (1 + EFGInputButtons.count) = 0)
    let inputTimeStamps ← removeAt pawn.inputTimeStamps 0 (dataIndex / (1 + EFGInputButtons.count))
    let inputStream ← removeAt pawn.inputStream 0 dataIndex
    return { pawn with inputTimeStamps := inputTimeStamps, inputStream := inputStream }
  else
    return pawn

variable (assets)

def tick (pawn : AFGDefaultPawn α μ) (deltaSeconds currentTime : Rat) :
    Except Fault (TickRecord assets) := do
  let atoms ← pawn.frameAtoms
  let seen ← (pawn.recordFrame atoms currentTime).pruneInput currentTime
  let currentMove ← deref seen.currentMove
  let moveLinkToFollow ← tryLinks seen.timeInCurrentMove seen.inputStream 0 (-1)
    (assets.move currentMove).linkedMoves {}
  if moveLinkToFollow.smResult.completionType = .accepted then
    let link ← deref moveLinkToFollow.link
    let target ← deref link.move
    let spent ← spendInput seen link (assets.move target) (assets.move currentMove)
      moveLinkToFollow.smResult.dataIndex
    return {
      deltaSeconds := deltaSeconds, currentTime := currentTime, before := pawn, atoms := atoms,
      seen := seen, moveLinkToFollow := moveLinkToFollow, followed := some link,
      after := { spent with currentMove := some target, timeInCurrentMove := 0 } }
  else
    return {
      deltaSeconds := deltaSeconds, currentTime := currentTime, before := pawn, atoms := atoms,
      seen := seen, moveLinkToFollow := moveLinkToFollow, followed := none,
      after := { seen with timeInCurrentMove := seen.timeInCurrentMove + deltaSeconds } }

/-- What reaches a pawn in play: the bound axes and buttons, an edit of its InputExpirationTime,
and Ticks with the engine's DeltaSeconds and game time. -/
inductive Event
  | readXAxis (value : Rat)
  | readYAxis (value : Rat)
  | leftButtonPressed
  | leftButtonReleased
  | topButtonPressed
  | topButtonReleased
  | editInputExpirationTime (value : Rat)
  | tick (deltaSeconds currentTime : Rat)
  deriving DecidableEq

/-- An edit keeps to the property's ClampMin. -/
def Event.Clamped : Event → Prop
  | .editInputExpirationTime value => 0 ≤ value
  | _ => True

def react (pawn : AFGDefaultPawn α μ) :
    Event → Except Fault (AFGDefaultPawn α μ × List (TickRecord assets))
  | .readXAxis value => .ok (pawn.readXAxis value, [])
  | .readYAxis value => .ok (pawn.readYAxis value, [])
  | .leftButtonPressed => .ok (pawn.leftButtonPressed, [])
  | .leftButtonReleased => .ok (pawn.leftButtonReleased, [])
  | .topButtonPressed => .ok (pawn.topButtonPressed, [])
  | .topButtonReleased => .ok (pawn.topButtonReleased, [])
  | .editInputExpirationTime value => .ok ({ pawn with inputExpirationTime := value }, [])
  | .tick deltaSeconds currentTime =>
      match tick assets pawn deltaSeconds currentTime with
      | .error fault => .error fault
      | .ok record => .ok (record.after, [record])

def runPawn (pawn : AFGDefaultPawn α μ) (events : List Event) :
    Except Fault (AFGDefaultPawn α μ × List (TickRecord assets)) :=
  EventRun.run (react assets) pawn events

variable {assets}

theorem check_ok {condition : Prop} [Decidable condition] {result : Unit} :
    check condition = .ok result ↔ condition := by
  by_cases holds : condition <;> simp [check, holds]

theorem check_error {condition : Prop} [Decidable condition] {fault : Fault} :
    check condition = .error fault ↔ fault = .checkFailed ∧ ¬ condition := by
  by_cases holds : condition
  · simp [check, holds]
  · simp only [check, holds, if_false, Except.error.injEq, not_false_eq_true, and_true]
    exact eq_comm

omit [DecidableEq α] in
/-- The clear and consume steps cut both arrays from the front, by whole frames. -/
theorem spendInput_cases {pawn spent : AFGDefaultPawn α μ} {link : UFGMoveLink assets.state μ}
    {target current : UFGMove assets.state μ} {dataIndex : Nat}
    (done : spendInput pawn link target current dataIndex = .ok spent) :
    ((link.bClearInput || target.bClearInputOnEntry || current.bClearInputOnExit) = true ∧
        spent = { pawn with inputStream := [], inputTimeStamps := [] }) ∨
      (dataIndex % 3 = 0 ∧ dataIndex / 3 ≤ pawn.inputTimeStamps.length ∧
        dataIndex ≤ pawn.inputStream.length ∧
        spent = { pawn with
          inputTimeStamps := pawn.inputTimeStamps.drop (dataIndex / 3)
          inputStream := pawn.inputStream.drop dataIndex }) := by
  rw [spendInput] at done
  split at done
  · rename_i clears
    obtain rfl := Except.ok.inj done
    exact .inl ⟨clears, rfl⟩
  · right
    split at done
    · obtain ⟨_, checked, done⟩ := bind_ok.mp done
      obtain ⟨stamps, cutStamps, done⟩ := bind_ok.mp done
      obtain ⟨stream, cutStream, done⟩ := bind_ok.mp done
      obtain rfl := Except.ok.inj done
      obtain ⟨enoughStamps, rfl⟩ := removeAt_ok.mp cutStamps
      obtain ⟨enoughStream, rfl⟩ := removeAt_ok.mp cutStream
      exact ⟨check_ok.mp checked, enoughStamps, enoughStream, rfl⟩
    · rename_i zero
      obtain rfl := Except.ok.inj done
      obtain rfl := not_not.mp zero
      exact ⟨rfl, Nat.zero_le _, Nat.zero_le _, rfl⟩

omit [DecidableEq α] in
theorem spendInput_error {pawn : AFGDefaultPawn α μ} {link : UFGMoveLink assets.state μ}
    {target current : UFGMove assets.state μ} {dataIndex : Nat} {fault : Fault}
    (failed : spendInput pawn link target current dataIndex = .error fault) :
    (link.bClearInput || target.bClearInputOnEntry || current.bClearInputOnExit) = false ∧
      ((fault = .checkFailed ∧ dataIndex % 3 ≠ 0) ∨
        (fault = .removeAtRange ∧ dataIndex % 3 = 0 ∧
          (pawn.inputTimeStamps.length < dataIndex / 3 ∨ pawn.inputStream.length < dataIndex))) := by
  rw [spendInput] at failed
  split at failed
  · cases failed
  · rename_i keeps
    refine ⟨Bool.eq_false_iff.mpr keeps, ?_⟩
    split at failed
    · rcases bind_error.mp failed with failed | ⟨_, checked, failed⟩
      · exact .inl (check_error.mp failed)
      · have whole : dataIndex % 3 = 0 := check_ok.mp checked
        rcases bind_error.mp failed with failed | ⟨_, -, failed⟩
        · obtain ⟨rfl, short⟩ := removeAt_error.mp failed
          exact .inr ⟨rfl, whole, .inl short⟩
        · rcases bind_error.mp failed with failed | ⟨_, -, failed⟩
          · obtain ⟨rfl, short⟩ := removeAt_error.mp failed
            exact .inr ⟨rfl, whole, .inr short⟩
          · cases failed
    · cases failed

omit [DecidableEq α] in
theorem spendInput_uneven {pawn : AFGDefaultPawn α μ} {link : UFGMoveLink assets.state μ}
    {target current : UFGMove assets.state μ} {dataIndex : Nat}
    (keeps : (link.bClearInput || target.bClearInputOnEntry || current.bClearInputOnExit) = false)
    (uneven : dataIndex % 3 ≠ 0) :
    spendInput pawn link target current dataIndex = .error .checkFailed := by
  have nonzero : dataIndex ≠ 0 := by omega
  have failed : check (dataIndex % (1 + EFGInputButtons.count) = 0) = .error .checkFailed :=
    check_error.mpr ⟨rfl, uneven⟩
  rw [spendInput, keeps, if_neg Bool.false_ne_true, if_pos nonzero, failed]
  rfl

structure TickRecord.Complete (record : TickRecord assets) : Prop where
  recorded : record.before.frameAtoms = .ok record.atoms
  pruned : (record.before.recordFrame record.atoms record.currentTime).pruneInput
    record.currentTime = .ok record.seen
  tried : ∃ current, record.seen.currentMove = some current ∧
    tryLinks record.seen.timeInCurrentMove record.seen.inputStream 0 (-1)
      (assets.move current).linkedMoves {} = .ok record.moveLinkToFollow ∧
    ((record.moveLinkToFollow.smResult.completionType = .accepted ∧
        ∃ link target spent, record.moveLinkToFollow.link = some link ∧ link.move = some target ∧
          spendInput record.seen link (assets.move target) (assets.move current)
            record.moveLinkToFollow.smResult.dataIndex = .ok spent ∧
          record.followed = some link ∧
          record.after = { spent with currentMove := some target, timeInCurrentMove := 0 }) ∨
      (record.moveLinkToFollow.smResult.completionType ≠ .accepted ∧ record.followed = none ∧
        record.after = { record.seen with
          timeInCurrentMove := record.seen.timeInCurrentMove + record.deltaSeconds }))

theorem tick_complete {pawn : AFGDefaultPawn α μ} {deltaSeconds currentTime : Rat}
    {record : TickRecord assets} (done : tick assets pawn deltaSeconds currentTime = .ok record) :
    record.Complete ∧ record.before = pawn ∧ record.deltaSeconds = deltaSeconds ∧
      record.currentTime = currentTime := by
  obtain ⟨atoms, recorded, done⟩ := bind_ok.mp done
  obtain ⟨seen, pruned, done⟩ := bind_ok.mp done
  obtain ⟨current, found, done⟩ := bind_ok.mp done
  obtain ⟨moveLinkToFollow, tried, done⟩ := bind_ok.mp done
  split at done
  · rename_i accepted
    obtain ⟨link, linked, done⟩ := bind_ok.mp done
    obtain ⟨target, targeted, done⟩ := bind_ok.mp done
    obtain ⟨spent, spending, done⟩ := bind_ok.mp done
    obtain rfl := Except.ok.inj done
    exact ⟨⟨recorded, pruned, current, deref_ok.mp found, tried, .inl ⟨accepted, link, target, spent,
      deref_ok.mp linked, deref_ok.mp targeted, spending, rfl, rfl⟩⟩, rfl, rfl, rfl⟩
  · rename_i refused
    obtain rfl := Except.ok.inj done
    exact ⟨⟨recorded, pruned, current, deref_ok.mp found, tried, .inr ⟨refused, rfl, rfl⟩⟩,
      rfl, rfl, rfl⟩

/-- Where a Tick can fail, with how far it came. -/
inductive TickFault (assets : Assets α σ μ) (pawn : AFGDefaultPawn α μ) (currentTime : Rat) :
    Fault → Prop
  | frameAtoms {fault : Fault} (failed : pawn.frameAtoms = .error fault) :
      TickFault assets pawn currentTime fault
  | pruneInput {fault : Fault} {atoms : List (Option α)} (recorded : pawn.frameAtoms = .ok atoms)
      (failed : (pawn.recordFrame atoms currentTime).pruneInput currentTime = .error fault) :
      TickFault assets pawn currentTime fault
  | currentMove {atoms : List (Option α)} {seen : AFGDefaultPawn α μ}
      (recorded : pawn.frameAtoms = .ok atoms)
      (pruned : (pawn.recordFrame atoms currentTime).pruneInput currentTime = .ok seen)
      (null : seen.currentMove = none) : TickFault assets pawn currentTime .nullPointer
  | tryLinks {fault : Fault} {atoms : List (Option α)} {seen : AFGDefaultPawn α μ} {current : μ}
      (recorded : pawn.frameAtoms = .ok atoms)
      (pruned : (pawn.recordFrame atoms currentTime).pruneInput currentTime = .ok seen)
      (found : seen.currentMove = some current)
      (failed : tryLinks seen.timeInCurrentMove seen.inputStream 0 (-1)
        (assets.move current).linkedMoves {} = .error fault) :
      TickFault assets pawn currentTime fault
  | spendInput {fault : Fault} {atoms : List (Option α)} {seen : AFGDefaultPawn α μ}
      {current target : μ} {result : FFGMoveLinkToFollow assets.state μ}
      {link : UFGMoveLink assets.state μ} (recorded : pawn.frameAtoms = .ok atoms)
      (pruned : (pawn.recordFrame atoms currentTime).pruneInput currentTime = .ok seen)
      (found : seen.currentMove = some current)
      (tried : tryLinks seen.timeInCurrentMove seen.inputStream 0 (-1)
        (assets.move current).linkedMoves {} = .ok result)
      (accepted : result.smResult.completionType = .accepted) (linked : result.link = some link)
      (targeted : link.move = some target)
      (failed : spendInput seen link (assets.move target) (assets.move current)
        result.smResult.dataIndex = .error fault) :
      TickFault assets pawn currentTime fault

/-- Behind an accepted result the pointers to the link and its move are never null. -/
theorem tick_error {pawn : AFGDefaultPawn α μ} {deltaSeconds currentTime : Rat} {fault : Fault}
    (failed : tick assets pawn deltaSeconds currentTime = .error fault) :
    TickFault assets pawn currentTime fault := by
  rcases bind_error.mp failed with failed | ⟨atoms, recorded, failed⟩
  · exact .frameAtoms failed
  rcases bind_error.mp failed with failed | ⟨seen, pruned, failed⟩
  · exact .pruneInput recorded failed
  rcases bind_error.mp failed with failed | ⟨current, found, failed⟩
  · obtain ⟨null, rfl⟩ := deref_error.mp failed
    exact .currentMove recorded pruned null
  rw [deref_ok] at found
  rcases bind_error.mp failed with failed | ⟨result, tried, failed⟩
  · exact .tryLinks recorded pruned found failed
  split at failed
  · rename_i accepted
    obtain ⟨link, ⟨-, -, -, -, complete, -⟩, same⟩ := (tryLinks_accepted _ _ _ {} result
      (fun impossible => by cases impossible)).mp ⟨tried, accepted⟩
    have linked : result.link = some link := congrArg FFGMoveLinkToFollow.link same
    obtain ⟨target, targeted⟩ := Option.ne_none_iff_exists'.mp complete
    simp only [linked, targeted, deref, bind_error, Except.ok.injEq, reduceCtorEq, false_or,
      exists_eq_left'] at failed
    rcases failed with failed | ⟨spent, -, impossible⟩
    · exact .spendInput recorded pruned found tried accepted linked targeted failed
    · cases impossible
  · cases failed

theorem seen_frame {record : TickRecord assets} (complete : record.Complete) :
    ∃ stamps stream, record.seen = { record.before with
      inputTimeStamps := stamps
      inputStream := stream
      buttonsDownOld := record.before.buttonsDown } :=
  AFGDefaultPawn.pruneInput_frame complete.pruned

/-- All that a Tick can change: the arrays, the cached buttons, the move and the time in it. -/
theorem after_frame {record : TickRecord assets} (complete : record.Complete) :
    ∃ stamps stream move time, record.after = { record.before with
      inputTimeStamps := stamps
      inputStream := stream
      buttonsDownOld := record.before.buttonsDown
      currentMove := move
      timeInCurrentMove := time } := by
  obtain ⟨stamps, stream, seen⟩ := seen_frame complete
  rcases complete.tried with ⟨current, -, -, ending⟩
  rcases ending with ⟨-, link, target, spent, -, -, spending, -, after⟩ | ⟨-, -, after⟩
  · rcases spendInput_cases spending with ⟨-, rfl⟩ | ⟨-, -, -, rfl⟩
    · rw [after, seen]
      exact ⟨_, _, _, _, rfl⟩
    · rw [after, seen]
      exact ⟨_, _, _, _, rfl⟩
  · rw [after, seen]
    exact ⟨_, _, _, _, rfl⟩

theorem react_tick_eq (pawn : AFGDefaultPawn α μ) (deltaSeconds currentTime : Rat) :
    react assets pawn (.tick deltaSeconds currentTime) =
      match tick assets pawn deltaSeconds currentTime with
      | .error fault => .error fault
      | .ok record => .ok (record.after, [record]) := rfl

theorem react_error {pawn : AFGDefaultPawn α μ} {event : Event} {fault : Fault} :
    react assets pawn event = .error fault ↔ ∃ deltaSeconds currentTime,
      event = .tick deltaSeconds currentTime ∧
        tick assets pawn deltaSeconds currentTime = .error fault := by
  cases event with
  | tick deltaSeconds currentTime =>
      rw [react_tick_eq]
      cases ticked : tick assets pawn deltaSeconds currentTime <;> simp [ticked]
  | _ =>
      constructor
      · intro impossible
        cases impossible
      · intro ticked
        rcases ticked with ⟨_, _, impossible, -⟩
        cases impossible

theorem react_tick {pawn after : AFGDefaultPawn α μ} {deltaSeconds currentTime : Rat}
    {records : List (TickRecord assets)}
    (done : react assets pawn (.tick deltaSeconds currentTime) = .ok (after, records)) :
    ∃ record, tick assets pawn deltaSeconds currentTime = .ok record ∧ after = record.after ∧
      records = [record] := by
  rw [react_tick_eq] at done
  split at done
  · cases done
  · rename_i record ticked
    obtain ⟨rfl, rfl⟩ := Prod.mk.inj (Except.ok.inj done)
    exact ⟨record, ticked, rfl, rfl⟩

/-- All that an event can do: a Tick that completes, or a change of the stick, of the buttons or of
the expiration time, without a record. -/
theorem react_cases {pawn after : AFGDefaultPawn α μ} {event : Event}
    {records : List (TickRecord assets)} (done : react assets pawn event = .ok (after, records)) :
    (∃ record : TickRecord assets, record.Complete ∧ pawn = record.before ∧ after = record.after ∧
        records = [record]) ∨
      ∃ stick buttons expiration, records = [] ∧ after = { pawn with
        directionInput := stick
        buttonsDown := buttons
        inputExpirationTime := expiration } := by
  cases event with
  | tick deltaSeconds currentTime =>
      obtain ⟨record, ticked, rfl, rfl⟩ := react_tick done
      obtain ⟨complete, same, -, -⟩ := tick_complete ticked
      exact .inl ⟨record, complete, same.symm, rfl, rfl⟩
  | _ =>
      obtain ⟨rfl, rfl⟩ := Prod.mk.inj (Except.ok.inj done)
      exact .inr ⟨_, _, _, rfl, rfl⟩

theorem run_lastTick {start after : AFGDefaultPawn α μ} {events : List Event}
    {deltaSeconds currentTime : Rat} {records : List (TickRecord assets)}
    (ran : runPawn assets start (events ++ [.tick deltaSeconds currentTime]) = .ok (after, records)) :
    ∃ pawn before record, runPawn assets start events = .ok (pawn, before) ∧
      tick assets pawn deltaSeconds currentTime = .ok record ∧ after = record.after ∧
      records = before ++ [record] := by
  obtain ⟨pawn, before, rest, ranBefore, last, rfl⟩ := EventRun.run_append.mp ran
  obtain ⟨next, output, tail, reaction, stop, rfl⟩ := EventRun.run_cons.mp last
  obtain ⟨rfl, rfl⟩ := Prod.mk.inj (Except.ok.inj stop)
  obtain ⟨record, ticked, rfl, rfl⟩ := react_tick reaction
  exact ⟨pawn, before, record, ranBefore, ticked, rfl, rfl⟩

theorem run_complete {start pawn : AFGDefaultPawn α μ} {events : List Event}
    {records : List (TickRecord assets)}
    (ran : runPawn assets start events = .ok (pawn, records)) :
    ∀ record ∈ records, record.Complete := by
  apply EventRun.run_invariant (fun _ _ (records : List (TickRecord assets)) =>
    ∀ record ∈ records, record.Complete) (fun _ => True) _ (fun _ _ => trivial) (by simp) ran
  intro done s outputs event t output inv _ reaction record member
  rcases List.mem_append.mp member with before | now
  · exact inv record before
  · rcases react_cases reaction with ⟨ticked, complete, -, -, rfl⟩ | ⟨_, _, _, rfl, -⟩
    · rw [List.mem_singleton.mp now]
      exact complete
    · cases now

/-! A small game to run: standing, a jab on a fresh left button, which can be chained late in the
jab, and a crouch with a link that a single stick atom opens. -/

inductive SampleState
  | neutralStick | leftPressed | topAny | stickOnly | struck
  deriving DecidableEq

inductive SampleMove
  | standing | jab | crouching
  deriving DecidableEq

abbrev SampleAtom : Type := EFGInputDirections ⊕ EFGButtonState

def sampleState : SampleState → USMState (Option SampleAtom) SampleState
  | .neutralStick => {
      stateClass := .ufgState
      instancedTransitions := [some (.usmTransition (some .leftPressed) false [some (.inl .neutral)])] }
  | .leftPressed => {
      stateClass := .ufgState
      instancedTransitions := [some (.usmTransition (some .topAny) false [some (.inr .justPressed)])] }
  | .topAny => {
      stateClass := .ufgState
      sharedTransitions := [some (.usmTransition (some .struck) true [])] }
  | .stickOnly => {
      stateClass := .ufgState
      instancedTransitions := [some (.usmTransition (some .struck) false [some (.inl .neutral)])] }
  | .struck => { stateClass := .ufgState, completionType := .accepted, bTerminateImmediately := true }

def sampleAssets : Assets SampleAtom SampleState SampleMove where
  state := sampleState
  move
    | .standing => {
        linkedMoves := [some { move := some .jab, inputStateMachine := some ⟨.neutralStick, rfl⟩ }] }
    | .jab => {
        linkedMoves := [some {
          move := some .jab, cancelWindows := [⟨1 / 10, 1 / 2⟩]
          inputStateMachine := some ⟨.neutralStick, rfl⟩ }] }
    | .crouching => {
        linkedMoves := [some { move := some .standing, inputStateMachine := some ⟨.stickOnly, rfl⟩ }] }

def samplePawn (currentMove : SampleMove) : AFGDefaultPawn SampleAtom SampleMove where
  currentMove := some currentMove
  directionDownBackAtom := some (.inl .downBack)
  directionDownAtom := some (.inl .down)
  directionDownForwardAtom := some (.inl .downForward)
  directionBackAtom := some (.inl .back)
  directionNeutralAtom := some (.inl .neutral)
  directionForwardAtom := some (.inl .forward)
  directionUpBackAtom := some (.inl .upBack)
  directionUpAtom := some (.inl .up)
  directionUpForwardAtom := some (.inl .upForward)
  buttonAtoms := [some (.inr .up), some (.inr .justPressed), some (.inr .heldDown)]

def sampleEvents : List Event :=
  [.leftButtonPressed, .tick (1 / 60) 0, .leftButtonReleased, .tick (1 / 10) (1 / 10),
    .leftButtonPressed, .tick (1 / 60) (7 / 60)]

theorem sample_clamped : ∀ event ∈ sampleEvents, event.Clamped := by
  simp [sampleEvents, Event.Clamped]

theorem sample_runs :
    ∃ result, runPawn sampleAssets (samplePawn .standing) sampleEvents = .ok result :=
  faultOf_none.mp (by decide +kernel)

theorem sample_unaborted :
    runPawn sampleAssets (samplePawn .standing) sampleEvents ≠ .error .checkFailed := by
  obtain ⟨result, ran⟩ := sample_runs
  rw [ran]
  simp

end SmFighting
