import SmFighting.Tick
import Mathlib.Algebra.Order.Group.Unbundled.Abs
import Mathlib.Tactic.Linarith

/-! The nine directions of the stick. Each axis is cut into three parts by the threshold, and the
comparisons at its two ends are not mirror images of each other. -/

namespace SmFighting

variable {α σ μ : Type} [DecidableEq α] {assets : Assets α σ μ}

def AFGDefaultPawn.atStick (pawn : AFGDefaultPawn α μ) (x y : Rat) : AFGDefaultPawn α μ :=
  (pawn.readXAxis x).readYAxis y

def EFGInputDirections.mirrorX : EFGInputDirections → EFGInputDirections
  | .downBack => .downForward
  | .down => .down
  | .downForward => .downBack
  | .back => .forward
  | .neutral => .neutral
  | .forward => .back
  | .upBack => .upForward
  | .up => .up
  | .upForward => .upBack

def EFGInputDirections.mirrorY : EFGInputDirections → EFGInputDirections
  | .downBack => .upBack
  | .down => .up
  | .downForward => .upForward
  | .back => .back
  | .neutral => .neutral
  | .forward => .forward
  | .upBack => .downBack
  | .up => .down
  | .upForward => .downForward

def axisPart (threshold value : Rat) : Ordering :=
  if value < -threshold then .lt else if value < threshold then .eq else .gt

def EFGInputDirections.ofAxes : Ordering → Ordering → EFGInputDirections
  | .lt, .lt => .downBack
  | .lt, .eq => .back
  | .lt, .gt => .upBack
  | .eq, .lt => .down
  | .eq, .eq => .neutral
  | .eq, .gt => .up
  | .gt, .lt => .downForward
  | .gt, .eq => .forward
  | .gt, .gt => .upForward

omit [DecidableEq α] in
/-- Tick's comparisons look at one axis after the other. -/
theorem direction_atStick (pawn : AFGDefaultPawn α μ) (x y : Rat) :
    (pawn.atStick x y).direction =
      .ofAxes (axisPart pawn.directionThreshold x) (axisPart pawn.directionThreshold y) := by
  simp only [AFGDefaultPawn.direction, AFGDefaultPawn.atStick, AFGDefaultPawn.readXAxis,
    AFGDefaultPawn.readYAxis, axisPart]
  by_cases back : x < -pawn.directionThreshold <;> by_cases short : x < pawn.directionThreshold <;>
    by_cases down : y < -pawn.directionThreshold <;> by_cases low : y < pawn.directionThreshold <;>
    simp only [back, short, down, low, if_true, if_false, EFGInputDirections.ofAxes]

theorem ofAxes_mirrorX (h v h' : Ordering) :
    EFGInputDirections.ofAxes h' v = (EFGInputDirections.ofAxes h v).mirrorX ↔ h' = h.swap := by
  cases h <;> cases v <;> cases h' <;> decide

theorem ofAxes_mirrorY (h v v' : Ordering) :
    EFGInputDirections.ofAxes h v' = (EFGInputDirections.ofAxes h v).mirrorY ↔ v' = v.swap := by
  cases h <;> cases v <;> cases v' <;> decide

theorem axisPart_lt {threshold value : Rat} :
    axisPart threshold value = .lt ↔ value < -threshold := by
  unfold axisPart
  split_ifs with low high <;> simp [low]

theorem axisPart_gt {threshold value : Rat} (nonneg : 0 ≤ threshold) :
    axisPart threshold value = .gt ↔ threshold ≤ value := by
  unfold axisPart
  split_ifs with low high
  · have below : value < threshold := by linarith
    simp [below]
  · simp [high]
  · simpa using high

/-- Away from the two ends of its middle part an axis is symmetric. -/
theorem axisPart_neg {threshold value : Rat} (nonneg : 0 ≤ threshold) :
    axisPart threshold (-value) = (axisPart threshold value).swap ↔ |value| ≠ threshold := by
  rw [ne_eq, abs_eq nonneg]
  constructor
  · intro symmetric boundary
    rcases boundary with rfl | rfl
    · have high : axisPart value value = .gt := (axisPart_gt nonneg).mpr (le_refl value)
      rw [high] at symmetric
      exact lt_irrefl _ (axisPart_lt.mp symmetric)
    · have high : axisPart threshold threshold = .gt := (axisPart_gt nonneg).mpr (le_refl threshold)
      rw [neg_neg, high] at symmetric
      have low : axisPart threshold (-threshold) = .lt := Ordering.swap_inj.mp symmetric.symm
      exact lt_irrefl _ (axisPart_lt.mp low)
  · intro inside
    cases part : axisPart threshold value with
    | lt =>
        have low := axisPart_lt.mp part
        exact (axisPart_gt nonneg).mpr (by linarith)
    | gt =>
        have high := (axisPart_gt nonneg).mp part
        have beyond : threshold < value := lt_of_le_of_ne high (fun same => inside (.inl same.symm))
        exact axisPart_lt.mpr (by linarith)
    | eq =>
        have low : ¬ value < -threshold := fun low => by rw [axisPart_lt.mpr low] at part; cases part
        have high : ¬ threshold ≤ value := fun high => by
          rw [(axisPart_gt nonneg).mpr high] at part
          cases part
        have above : -threshold < value :=
          lt_of_le_of_ne (not_lt.mp low) (fun same => inside (.inr same.symm))
        have back : ¬ -value < -threshold := by linarith
        have short : -value < threshold := by linarith
        rw [axisPart, if_neg back, if_pos short]
        rfl

def StickSymmetric (pawn : AFGDefaultPawn α μ) (x y : Rat) : Prop :=
  (pawn.atStick (-x) y).direction = (pawn.atStick x y).direction.mirrorX ∧
    (pawn.atStick x (-y)).direction = (pawn.atStick x y).direction.mirrorY

omit [DecidableEq α] in
theorem stickSymmetric_iff (pawn : AFGDefaultPawn α μ) (nonneg : 0 ≤ pawn.directionThreshold)
    (x y : Rat) : StickSymmetric pawn x y ↔
      |x| ≠ pawn.directionThreshold ∧ |y| ≠ pawn.directionThreshold := by
  simp only [StickSymmetric, direction_atStick, ofAxes_mirrorX, ofAxes_mirrorY, axisPart_neg nonneg]

theorem mirrors_fixed (direction : EFGInputDirections) :
    (direction = direction.mirrorX ∧ direction = direction.mirrorY) ↔ direction = .neutral := by
  cases direction <;> decide

omit [DecidableEq α] in
theorem centre_neutral (pawn : AFGDefaultPawn α μ) (nonneg : 0 ≤ pawn.directionThreshold) :
    (pawn.atStick 0 0).direction = .neutral ↔ pawn.directionThreshold ≠ 0 := by
  have centre : StickSymmetric pawn 0 0 ↔ (pawn.atStick 0 0).direction = .neutral := by
    rw [StickSymmetric, neg_zero, mirrors_fixed]
  rw [← centre, stickSymmetric_iff pawn nonneg, abs_zero, and_self]
  exact ne_comm

/-- A Tick records the atom of the direction that the stick is in. Its directions are symmetric
exactly off the boundary lines, and the centre is Neutral exactly when it is off them. -/
theorem stick_symmetric (pawn : AFGDefaultPawn α μ) (nonneg : 0 ≤ pawn.directionThreshold)
    (x y : Rat) :
    (∀ (deltaSeconds currentTime : Rat) (record : TickRecord assets),
      tick assets (pawn.atStick x y) deltaSeconds currentTime = .ok record →
        record.atoms.head? = some (pawn.directionAtom (pawn.atStick x y).direction)) ∧
    (StickSymmetric pawn x y ↔
      |x| ≠ pawn.directionThreshold ∧ |y| ≠ pawn.directionThreshold) ∧
    ((pawn.atStick 0 0).direction = .neutral ↔ pawn.directionThreshold ≠ 0) := by
  refine ⟨?_, stickSymmetric_iff pawn nonneg x y, centre_neutral pawn nonneg⟩
  intro deltaSeconds currentTime record ticked
  obtain ⟨complete, same, -, -⟩ := tick_complete ticked
  have recorded := complete.recorded
  rw [same] at recorded
  obtain ⟨directional, left, top, found, -, -, atoms⟩ := AFGDefaultPawn.frameAtoms_ok.mp recorded
  rw [atoms, List.head?_cons]
  exact congrArg some found.symm

theorem stick_symmetric_sample : StickSymmetric (samplePawn .standing) 1 (-1 / 4) :=
  (@stick_symmetric SampleAtom SampleState SampleMove _ sampleAssets (samplePawn .standing)
    (by decide +kernel) 1 (-1 / 4)).2.1.mpr (by decide +kernel)

def thresholdPawn (directionThreshold : Rat) : AFGDefaultPawn SampleAtom SampleMove :=
  { samplePawn .standing with directionThreshold := directionThreshold }

def recordedDirection (pawn : AFGDefaultPawn SampleAtom SampleMove) : Option (Option SampleAtom) :=
  (tick sampleAssets pawn (1 / 60) 0).toOption.bind (fun record => record.atoms.head?)

/-- At a threshold of 1 a pad that is pushed all the way counts to the right, but not to the left; at
a threshold of 0 the centred stick counts as UpForward. -/
theorem pad_lopsided :
    recordedDirection ((thresholdPawn 1).atStick 1 0) = some (some (.inl .forward)) ∧
      recordedDirection ((thresholdPawn 1).atStick (-1) 0) = some (some (.inl .neutral)) ∧
      ¬ StickSymmetric (thresholdPawn 1) 1 0 ∧
      recordedDirection ((thresholdPawn 0).atStick 0 0) = some (some (.inl .upForward)) ∧
      ¬ StickSymmetric (thresholdPawn 0) 0 0 := by
  refine ⟨by decide +kernel, by decide +kernel, ?_, by decide +kernel, ?_⟩
  · intro symmetric
    have right : ((thresholdPawn 1).atStick 1 0).direction = .forward := by decide +kernel
    have left : ((thresholdPawn 1).atStick (-1) 0).direction = .neutral := by decide +kernel
    have mirrored := symmetric.1
    rw [left, right] at mirrored
    cases mirrored
  · intro symmetric
    have centre : ((thresholdPawn 0).atStick 0 0).direction = .upForward := by decide +kernel
    have mirrored := symmetric.1
    rw [neg_zero, centre] at mirrored
    cases mirrored

end SmFighting
