import SmFighting.Resumption
import SmFighting.BudgetedRun
import SmFighting.Int32Run
import SmFighting.Recognition
import SmFighting.RunSimulation
import SmFighting.IncompleteLinks
import SmFighting.StickDirections
import SmFighting.RemovedInput
import SmFighting.BufferRuns
import SmFighting.FrameBoundary
import SmFighting.SpentFrames
import SmFighting.Buttons
import SmFighting.ButtonHistory
import SmFighting.MoveSequence
import SmFighting.CancelWindows
import SmFighting.FrameLedger
import SmFighting.Motions
import SmFighting.PaidPresses
import SmFighting.FighterRuns
import SmFighting.FramePhases
import SmFighting.PlayBounds
import SmFighting.Registration
import SmFighting.CameraFraming
import SmFighting.FrameOrders
import SmFighting.GameRuns
import SmFighting.SamePlay
import SmFighting.Interleavings
import SmFighting.PlayableFrames
import SmFighting.WayOut
import SmFighting.ShortMotions
import SmFighting.MirroredPlay
import SmFighting.Forgetting
