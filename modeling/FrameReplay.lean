import FrameReplay.Buffer.Faulty
import FrameReplay.Main
import FrameReplay.Buffer.Watched
import FrameReplay.Engine.Lifecycle
import FrameReplay.History
import FrameReplay.Proofs.Abort
import FrameReplay.Proofs.Accounting
import FrameReplay.Proofs.Inspection
import FrameReplay.Proofs.Interleaving
import FrameReplay.Proofs.Replay
import FrameReplay.Proofs.Rotation
import FrameReplay.Proofs.Indistinguishable
import FrameReplay.Proofs.Standing
import FrameReplay.Proofs.FrameSizes
import FrameReplay.Proofs.Lifecycle
import FrameReplay.Proofs.Reimport
import FrameReplay.Proofs.ConfigDocument
import FrameReplay.Proofs.SafeOverwrite
import FrameReplay.Proofs.Verdicts
import FrameReplay.Proofs.Corruption
import FrameReplay.Proofs.Truncation
import FrameReplay.Proofs.Smoothness
import FrameReplay.Proofs.Periodicity
import FrameReplay.Proofs.LastWrite
import FrameReplay.Proofs.LengthFields
import FrameReplay.Buffer.Calls
import FrameReplay.Proofs.BufferWords
import FrameReplay.Proofs.Base64Text
import FrameReplay.Proofs.ResizeRequest
import FrameReplay.Proofs.RateGrowth
import FrameReplay.Proofs.RawText
