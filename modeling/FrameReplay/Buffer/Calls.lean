import FrameReplay.Buffer.Packet
import FrameReplay.Overwrite

/-!
# Calls on a packet buffer

All that may be done with a packet buffer between its making and its end, written down so that whole
runs can be spoken about. A refused call leaves what the operation left.
-/

namespace FrameReplay

/-- Something that is done with a packet buffer. -/
inductive BufferCall where
  | load (frame : ByteArray)
  | reset
  | adjustTail (delta : Int32)
  /-- Bytes are written into the frame, from a place in it on. -/
  | write (offset : Nat) (bytes : ByteArray)
  | overwrite (template : Template)

/-- Why a call is refused. -/
inductive BufferRefusal where
  | buffer (error : BufferError)
  /-- The bytes to write reach beyond the frame. -/
  | outside
  | overwrite (error : OverwriteError)
  deriving DecidableEq, Repr

namespace PacketBuffer

def perform (buffer : PacketBuffer) : BufferCall → Except BufferRefusal Unit × PacketBuffer
  | .load frame =>
    match buffer.load frame with
    | .ok next => (.ok (), next)
    | .error error => (.error (.buffer error), buffer)
  | .reset => (.ok (), buffer.reset)
  | .adjustTail delta =>
    let (answer, next) := buffer.adjustTail delta
    (answer.mapError .buffer, next)
  | .write offset bytes =>
    match FrameBuffer.write? buffer offset bytes with
    | some next => (.ok (), next)
    | none => (.error .outside, buffer)
  | .overwrite template =>
    let (answer, next) := FrameReplay.overwrite template buffer
    ((answer.map fun _ => ()).mapError .overwrite, next)

/-- The buffer after some calls. -/
def after (buffer : PacketBuffer) (calls : List BufferCall) : PacketBuffer :=
  calls.foldl (fun buffer call => (buffer.perform call).2) buffer

end PacketBuffer

end FrameReplay
