import SmFighting.StateMachine
import Mathlib.Data.Rat.Defs
import Mathlib.Algebra.Order.Ring.Rat
import Mathlib.Tactic.Common

/-! AFGDefaultPawn: its fields, its guards and handlers, and the first half of its Tick, which records
one frame of input and prunes the expired ones. Floats are rationals; the engine's clock and the
DeltaSeconds it passes are inputs. -/

namespace SmFighting

/-- What ends a Tick early: the use of a null pointer, a failing check(), an index outside its
array, a RemoveAt of more elements than there are. -/
inductive Fault
  | nullPointer
  | checkFailed
  | buttonAtomsRange
  | inputTimeStampsRange
  | removeAtRange
  deriving DecidableEq, Repr

def faultOf {β : Type} : Except Fault β → Option Fault
  | .error fault => some fault
  | .ok _ => none

structure FVector2D where
  x : Rat
  y : Rat
  deriving DecidableEq

/-- `α` are the atom assets and `μ` the move assets; every pointer may be null. -/
structure AFGDefaultPawn (α μ : Type) where
  inputExpirationTime : Rat := 3 / 4
  directionThreshold : Rat := 1 / 2
  directionInput : FVector2D := ⟨0, 0⟩
  buttonsDown : BitVec 32 := 0
  buttonsDownOld : BitVec 32 := 0
  timeInCurrentMove : Rat := 0
  currentMove : Option μ := none
  directionDownBackAtom : Option α
  directionDownAtom : Option α
  directionDownForwardAtom : Option α
  directionBackAtom : Option α
  directionNeutralAtom : Option α
  directionForwardAtom : Option α
  directionUpBackAtom : Option α
  directionUpAtom : Option α
  directionUpForwardAtom : Option α
  buttonAtoms : List (Option α)
  inputTimeStamps : List Rat := []
  inputStream : List (Option α) := []

variable {α μ : Type}

def deref {β : Type} : Option β → Except Fault β
  | none => .error .nullPointer
  | some target => .ok target

def removeAt {β : Type} (array : List β) (index count : Nat) : Except Fault (List β) :=
  if index + count ≤ array.length then .ok (array.take index ++ array.drop (index + count))
  else .error .removeAtRange

namespace AFGDefaultPawn

/-- The guards of BeginPlay; a pawn that fails one logs the text and destroys itself. -/
def beginPlay (pawn : AFGDefaultPawn α μ) : Except String Unit :=
  if pawn.currentMove.isNone then .error "No initial move!"
  else if pawn.directionDownBackAtom.isNone || pawn.directionDownAtom.isNone ||
      pawn.directionDownForwardAtom.isNone || pawn.directionBackAtom.isNone ||
      pawn.directionNeutralAtom.isNone || pawn.directionForwardAtom.isNone ||
      pawn.directionUpBackAtom.isNone || pawn.directionUpAtom.isNone ||
      pawn.directionUpForwardAtom.isNone then .error "Missing at least one directional atom!"
  else if (List.range EFGButtonState.count).any
      (fun i => !isValidIndex pawn.buttonAtoms i || (pawn.buttonAtoms[i]?.join).isNone) then
    .error "Not enough button input atoms, or a NULL entry was found in the list."
  else .ok ()

def readXAxis (pawn : AFGDefaultPawn α μ) (value : Rat) : AFGDefaultPawn α μ :=
  { pawn with directionInput := { pawn.directionInput with x := value } }

def readYAxis (pawn : AFGDefaultPawn α μ) (value : Rat) : AFGDefaultPawn α μ :=
  { pawn with directionInput := { pawn.directionInput with y := value } }

def pressButton (button : EFGInputButtons) (pawn : AFGDefaultPawn α μ) : AFGDefaultPawn α μ :=
  { pawn with buttonsDown := pawn.buttonsDown ||| (1#32 <<< button.toNat) }

def releaseButton (button : EFGInputButtons) (pawn : AFGDefaultPawn α μ) : AFGDefaultPawn α μ :=
  { pawn with buttonsDown := pawn.buttonsDown &&& ~~~(1#32 <<< button.toNat) }

def leftButtonPressed : AFGDefaultPawn α μ → AFGDefaultPawn α μ := pressButton .leftFace
def leftButtonReleased : AFGDefaultPawn α μ → AFGDefaultPawn α μ := releaseButton .leftFace
def topButtonPressed : AFGDefaultPawn α μ → AFGDefaultPawn α μ := pressButton .topFace
def topButtonReleased : AFGDefaultPawn α μ → AFGDefaultPawn α μ := releaseButton .topFace

def direction (pawn : AFGDefaultPawn α μ) : EFGInputDirections :=
  if pawn.directionInput.x < -pawn.directionThreshold then
    if pawn.directionInput.y < -pawn.directionThreshold then .downBack
    else if pawn.directionInput.y < pawn.directionThreshold then .back
    else .upBack
  else if pawn.directionInput.x < pawn.directionThreshold then
    if pawn.directionInput.y < -pawn.directionThreshold then .down
    else if pawn.directionInput.y < pawn.directionThreshold then .neutral
    else .up
  else
    if pawn.directionInput.y < -pawn.directionThreshold then .downForward
    else if pawn.directionInput.y < pawn.directionThreshold then .forward
    else .upForward

def directionAtom (pawn : AFGDefaultPawn α μ) : EFGInputDirections → Option α
  | .downBack => pawn.directionDownBackAtom
  | .down => pawn.directionDownAtom
  | .downForward => pawn.directionDownForwardAtom
  | .back => pawn.directionBackAtom
  | .neutral => pawn.directionNeutralAtom
  | .forward => pawn.directionForwardAtom
  | .upBack => pawn.directionUpBackAtom
  | .up => pawn.directionUpAtom
  | .upForward => pawn.directionUpForwardAtom

end AFGDefaultPawn

/-- The test `mask & 1<<i` of Tick's button loop. -/
def bitSet (mask : BitVec 32) (i : Nat) : Bool := mask &&& (1#32 <<< i) != 0#32

def buttonState (buttonsDown buttonsDownOld : BitVec 32) (i : Nat) : EFGButtonState :=
  if bitSet buttonsDown i then
    if bitSet buttonsDownOld i then .heldDown else .justPressed
  else .up

namespace AFGDefaultPawn

def buttonAtom (pawn : AFGDefaultPawn α μ) (i : Nat) : Except Fault (Option α) :=
  match pawn.buttonAtoms[(buttonState pawn.buttonsDown pawn.buttonsDownOld i).toNat]? with
  | some atom => .ok atom
  | none => .error .buttonAtomsRange

/-- The atoms that a Tick adds to the stream: one for the stick, whose Description the log line
reads through the pointer, and one for each button. -/
def frameAtoms (pawn : AFGDefaultPawn α μ) : Except Fault (List (Option α)) := do
  let directional ← deref (pawn.directionAtom pawn.direction)
  let buttons ← (List.range EFGInputButtons.count).mapM pawn.buttonAtom
  return some directional :: buttons

def recordFrame (pawn : AFGDefaultPawn α μ) (atoms : List (Option α)) (currentTime : Rat) :
    AFGDefaultPawn α μ :=
  { pawn with
    inputStream := pawn.inputStream ++ atoms
    buttonsDownOld := pawn.buttonsDown
    inputTimeStamps := pawn.inputTimeStamps ++ [currentTime] }

end AFGDefaultPawn

/-- The prune loop from index `i` on, with `left` rounds to go: the index at which it breaks. -/
def pruneLoop (inputTimeStamps : List Rat) (inputExpirationTime currentTime : Rat) :
    Nat → Nat → Except Fault (Option Nat)
  | 0, _ => .ok none
  | left + 1, i =>
      match inputTimeStamps[i]? with
      | none => .error .inputTimeStampsRange
      | some stamp =>
          if stamp + inputExpirationTime ≥ currentTime then .ok (some i)
          else pruneLoop inputTimeStamps inputExpirationTime currentTime left (i + 1)

namespace AFGDefaultPawn

/-- The loop is bounded by the length of the stream, not of the time stamps that it reads. -/
def pruneInput (pawn : AFGDefaultPawn α μ) (currentTime : Rat) :
    Except Fault (AFGDefaultPawn α μ) := do
  match ← pruneLoop pawn.inputTimeStamps pawn.inputExpirationTime currentTime
      pawn.inputStream.length 0 with
  | none => return pawn
  | some i =>
      if i > 0 then
        let inputTimeStamps ← removeAt pawn.inputTimeStamps 0 i
        let inputStream ← removeAt pawn.inputStream 0 (i * (EFGInputButtons.count + 1))
        return { pawn with inputTimeStamps := inputTimeStamps, inputStream := inputStream }
      else
        return pawn

end AFGDefaultPawn

theorem faultOf_none {β : Type} {result : Except Fault β} :
    faultOf result = none ↔ ∃ value, result = .ok value := by
  cases result <;> simp [faultOf]

theorem faultOf_some {β : Type} {result : Except Fault β} {fault : Fault} :
    faultOf result = some fault ↔ result = .error fault := by
  cases result <;> simp [faultOf]

theorem bind_ok {β γ : Type} {first : Except Fault β} {rest : β → Except Fault γ} {result : γ} :
    (first >>= rest) = .ok result ↔ ∃ value, first = .ok value ∧ rest value = .ok result := by
  cases first with
  | error fault => simp [Bind.bind, Except.bind]
  | ok value => simp [Bind.bind, Except.bind]

theorem bind_error {β γ : Type} {first : Except Fault β} {rest : β → Except Fault γ} {fault : Fault} :
    (first >>= rest) = .error fault ↔
      first = .error fault ∨ ∃ value, first = .ok value ∧ rest value = .error fault := by
  cases first with
  | error fault => simp [Bind.bind, Except.bind]
  | ok value => simp [Bind.bind, Except.bind]

theorem deref_ok {β : Type} {pointer : Option β} {target : β} :
    deref pointer = .ok target ↔ pointer = some target := by
  cases pointer <;> simp [deref]

theorem deref_error {β : Type} {pointer : Option β} {fault : Fault} :
    deref pointer = .error fault ↔ pointer = none ∧ fault = .nullPointer := by
  cases pointer <;> simp [deref, eq_comm]

theorem removeAt_front {β : Type} {array : List β} {count : Nat} (available : count ≤ array.length) :
    removeAt array 0 count = .ok (array.drop count) := by
  simp [removeAt, available]

theorem removeAt_ok {β : Type} {array rest : List β} {count : Nat} :
    removeAt array 0 count = .ok rest ↔ count ≤ array.length ∧ rest = array.drop count := by
  by_cases available : count ≤ array.length
  · simp [removeAt_front available, available, eq_comm]
  · simp [removeAt, available]

theorem removeAt_error {β : Type} {array : List β} {count : Nat} {fault : Fault} :
    removeAt array 0 count = .error fault ↔ fault = .removeAtRange ∧ array.length < count := by
  by_cases available : count ≤ array.length
  · simp [removeAt_front available, available]
  · simp [removeAt, available, eq_comm, Nat.lt_of_not_le available]

theorem AFGDefaultPawn.frameAtoms_ok {pawn : AFGDefaultPawn α μ} {atoms : List (Option α)} :
    pawn.frameAtoms = .ok atoms ↔
      ∃ directional left top, pawn.directionAtom pawn.direction = some directional ∧
        pawn.buttonAtom 0 = .ok left ∧ pawn.buttonAtom 1 = .ok top ∧
        atoms = [some directional, left, top] := by
  have two : List.range EFGInputButtons.count = [0, 1] := rfl
  simp only [AFGDefaultPawn.frameAtoms, two, List.mapM_cons, List.mapM_nil, bind_ok, deref_ok,
    Pure.pure, Except.pure, Except.ok.injEq]
  constructor
  · intro read
    rcases read with
      ⟨directional, found, _, ⟨left, first, _, ⟨top, second, _, rfl, rfl⟩, rfl⟩, rfl⟩
    exact ⟨directional, left, top, found, first, second, rfl⟩
  · intro read
    rcases read with ⟨directional, left, top, found, first, second, rfl⟩
    exact ⟨directional, found, _, ⟨left, first, _, ⟨top, second, _, rfl, rfl⟩, rfl⟩, rfl⟩

theorem AFGDefaultPawn.frameAtoms_error {pawn : AFGDefaultPawn α μ} {fault : Fault}
    (failed : pawn.frameAtoms = .error fault) : fault = .nullPointer ∨ fault = .buttonAtomsRange := by
  have button : ∀ i, pawn.buttonAtom i = .error fault → fault = .buttonAtomsRange := by
    intro i failed
    rw [AFGDefaultPawn.buttonAtom] at failed
    split at failed <;> cases failed
    rfl
  have two : List.range EFGInputButtons.count = [0, 1] := rfl
  simp only [AFGDefaultPawn.frameAtoms, two, List.mapM_cons, List.mapM_nil, bind_error, deref_error,
    Pure.pure, Except.pure, reduceCtorEq, and_false, exists_const, or_false] at failed
  rcases failed with ⟨-, null⟩ | ⟨-, -, failed | ⟨-, -, failed⟩⟩
  · exact .inl null
  · exact .inr (button 0 failed)
  · exact .inr (button 1 failed)

def stillFresh (inputExpirationTime currentTime stamp : Rat) : Bool :=
  decide (stamp + inputExpirationTime ≥ currentTime)

/-- While a fresh stamp lies ahead the loop reads inside its array and breaks at the first one. -/
theorem pruneLoop_breaks (stamps : List Rat) (expiration currentTime : Rat) (left i : Nat)
    (enough : stamps.length ≤ i + left)
    (ahead : ∃ stamp ∈ stamps.drop i, stillFresh expiration currentTime stamp = true) :
    pruneLoop stamps expiration currentTime left i =
      .ok (some (i + (stamps.drop i).findIdx (stillFresh expiration currentTime))) := by
  induction left generalizing i with
  | zero =>
      rcases ahead with ⟨stamp, member, -⟩
      rw [List.drop_eq_nil_of_le (by omega)] at member
      cases member
  | succ left ih =>
      have inside : i < stamps.length := by
        by_contra outside
        rcases ahead with ⟨stamp, member, -⟩
        rw [List.drop_eq_nil_of_le (by omega)] at member
        cases member
      rw [pruneLoop, List.getElem?_eq_getElem inside]
      rw [List.drop_eq_getElem_cons inside] at ahead ⊢
      rw [List.findIdx_cons]
      by_cases fresh : stamps[i] + expiration ≥ currentTime
      · have first : stillFresh expiration currentTime stamps[i] = true := decide_eq_true fresh
        simp [fresh, first]
      · have first : stillFresh expiration currentTime stamps[i] = false := decide_eq_false fresh
        have later : ∃ stamp ∈ stamps.drop (i + 1), stillFresh expiration currentTime stamp = true := by
          rcases ahead with ⟨stamp, member, keeps⟩
          rcases List.mem_cons.mp member with rfl | member
          · rw [first] at keeps
            cases keeps
          · exact ⟨stamp, member, keeps⟩
        simp only [fresh, if_false, ih (i + 1) (by omega) later, first, cond_false]
        congr 2
        omega

namespace AFGDefaultPawn

theorem pruneInput_drops {pawn pruned : AFGDefaultPawn α μ} {currentTime : Rat}
    (done : pawn.pruneInput currentTime = .ok pruned) :
    ∃ i, i * (EFGInputButtons.count + 1) ≤ pawn.inputStream.length ∧ pruned = { pawn with
      inputTimeStamps := pawn.inputTimeStamps.drop i
      inputStream := pawn.inputStream.drop (i * (EFGInputButtons.count + 1)) } := by
  obtain ⟨index, -, rest⟩ := bind_ok.mp done
  have untouched : ∃ i, i * (EFGInputButtons.count + 1) ≤ pawn.inputStream.length ∧ pawn = { pawn with
      inputTimeStamps := pawn.inputTimeStamps.drop i
      inputStream := pawn.inputStream.drop (i * (EFGInputButtons.count + 1)) } :=
    ⟨0, by simp, by simp⟩
  cases index with
  | none =>
      obtain rfl := Except.ok.inj rest
      exact untouched
  | some i =>
      simp only at rest
      split at rest
      · obtain ⟨stamps, cutStamps, rest⟩ := bind_ok.mp rest
        obtain ⟨stream, cutStream, rest⟩ := bind_ok.mp rest
        obtain ⟨-, rfl⟩ := removeAt_ok.mp cutStamps
        obtain ⟨available, rfl⟩ := removeAt_ok.mp cutStream
        obtain rfl := Except.ok.inj rest
        exact ⟨i, available, rfl⟩
      · obtain rfl := Except.ok.inj rest
        exact untouched

theorem pruneInput_frame {pawn pruned : AFGDefaultPawn α μ} {currentTime : Rat}
    (done : pawn.pruneInput currentTime = .ok pruned) :
    ∃ stamps stream, pruned = { pawn with inputTimeStamps := stamps, inputStream := stream } := by
  obtain ⟨i, -, rfl⟩ := pruneInput_drops done
  exact ⟨_, _, rfl⟩

theorem pruneInput_cuts (pawn : AFGDefaultPawn α μ) (currentTime : Rat) (k : Nat)
    (breaks : pruneLoop pawn.inputTimeStamps pawn.inputExpirationTime currentTime
      pawn.inputStream.length 0 = .ok (some k))
    (stamps : k ≤ pawn.inputTimeStamps.length)
    (stream : k * (EFGInputButtons.count + 1) ≤ pawn.inputStream.length) :
    pawn.pruneInput currentTime = .ok { pawn with
      inputTimeStamps := pawn.inputTimeStamps.drop k
      inputStream := pawn.inputStream.drop (k * (EFGInputButtons.count + 1)) } := by
  rw [pruneInput, breaks]
  cases k with
  | zero => simp [Bind.bind, Except.bind, Pure.pure, Except.pure]
  | succ k =>
      simp [Bind.bind, Except.bind, Pure.pure, Except.pure, removeAt_front stamps,
        removeAt_front stream]

end AFGDefaultPawn

end SmFighting
