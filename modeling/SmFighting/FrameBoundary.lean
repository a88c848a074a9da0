import SmFighting.FrameBuffer

namespace SmFighting

variable {α σ μ : Type} [DecidableEq α]

def keepsInput {graph : σ → USMState (Option α) σ} (link : UFGMoveLink graph μ)
    (target current : UFGMove graph μ) : Prop :=
  (link.bClearInput || target.bClearInputOnEntry || current.bClearInputOnExit) = false

variable (assets : Assets α σ μ)

/-- What Tick asserts of the pawn that TryLinks sees. -/
def FrameBoundary (seen : AFGDefaultPawn α μ) : Prop :=
  ∀ current result link target, seen.currentMove = some current →
    tryLinks seen.timeInCurrentMove seen.inputStream 0 (-1) (assets.move current).linkedMoves {} =
      .ok result →
    result.smResult.completionType = .accepted → result.link = some link →
    link.move = some target → keepsInput link (assets.move target) (assets.move current) →
    result.smResult.dataIndex % 3 = 0 ∧ result.smResult.dataIndex ≤ seen.inputStream.length

def AtTick (property : AFGDefaultPawn α μ → Prop) (pawn : AFGDefaultPawn α μ) (currentTime : Rat) :
    Prop :=
  ∀ atoms seen, pawn.frameAtoms = .ok atoms →
    (pawn.recordFrame atoms currentTime).pruneInput currentTime = .ok seen → property seen

variable {assets}

theorem tick_checkFailed {pawn : AFGDefaultPawn α μ} {records : List (TickRecord assets)}
    {history buffer : List (InputFrame α)} {gone : Nat}
    (inv : BufferInv pawn records history gone buffer) (deltaSeconds currentTime : Rat) :
    tick assets pawn deltaSeconds currentTime = .error .checkFailed ↔
      ¬ AtTick (FrameBoundary assets) pawn currentTime := by
  constructor
  · intro failed boundary
    cases tick_error failed with
    | frameAtoms failed => rcases AFGDefaultPawn.frameAtoms_error failed with h | h <;> cases h
    | pruneInput recorded failed =>
        obtain ⟨seen, held, pruned, -⟩ := bufferInv_prunes inv recorded currentTime
        cases failed.symm.trans pruned
    | tryLinks recorded pruned found failed => cases tryLinks_error failed
    | spendInput recorded pruned found tried accepted linked targeted failed =>
        obtain ⟨keeps, ⟨-, uneven⟩ | ⟨impossible, -⟩⟩ := spendInput_error failed
        · exact uneven (boundary _ _ recorded pruned _ _ _ _ found tried accepted linked targeted
            keeps).1
        · cases impossible
  · intro broken
    simp only [AtTick, FrameBoundary, not_forall] at broken
    obtain ⟨atoms, seen, recorded, pruned, current, result, link, target, found, tried, accepted,
      linked, targeted, keeps, ends⟩ := broken
    obtain ⟨held, holds⟩ := bufferInv_seen inv recorded pruned
    have uneven : result.smResult.dataIndex % 3 ≠ 0 := fun whole =>
      ends ⟨whole, (holds_consumes holds tried accepted whole).1⟩
    have spending : spendInput seen link (assets.move target) (assets.move current)
        result.smResult.dataIndex = .error .checkFailed := spendInput_uneven keeps uneven
    simp only [tick, recorded, pruned, found, tried, accepted, linked, targeted, spending, deref,
      Bind.bind, Except.bind, if_true]

/-- A link machine that one stick atom brings to its end: BeginPlay lets the pawn through, and the
first Tick aborts. -/
theorem stick_breaks_frame :
    (samplePawn .crouching).beginPlay = .ok () ∧
    runState sampleState [some (.inl .neutral), some (.inr .up), some (.inr .up)] .stickOnly 0 (-1) =
      ⟨.accepted, some .struck, 1⟩ ∧
    ¬ AtTick (FrameBoundary sampleAssets) (samplePawn .crouching) 0 ∧
    runPawn sampleAssets (samplePawn .crouching) [.tick (1 / 60) 0] = .error .checkFailed := by
  have failed : tick sampleAssets (samplePawn .crouching) (1 / 60) 0 = .error .checkFailed :=
    faultOf_some.mp (by decide +kernel)
  have inv : BufferInv (samplePawn .crouching) ([] : List (TickRecord sampleAssets)) [] 0 [] :=
    bufferInv_start rfl rfl (by decide +kernel)
  exact ⟨by decide +kernel, by decide +kernel, (tick_checkFailed inv (1 / 60) 0).mp failed,
    faultOf_some.mp (by decide +kernel)⟩

end SmFighting
