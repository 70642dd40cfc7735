import FrameReplay.Limits
import FrameReplay.Octets

/-!
# Frame buffers

A frame buffer holds one frame that can grow and shrink at its tail. `FrameBuffer` is what the
transmit path asks of it: bounds, the bytes of the frame, a resize, and the length that is counted.
Nothing in the interface forces the bounds to agree with the bytes or the length, so whoever writes
into a buffer checks both bounds and bytes.
`LawfulFrameBuffer` says what writing into the frame leaves alone.
-/

namespace FrameReplay

/-- Where a frame lies in its storage, as two 64-bit offsets. -/
structure Bounds where
  start : UInt64
  stop : UInt64
  deriving DecidableEq, Repr, Inhabited

namespace Bounds

/-- Length of the frame, zero if the bounds are the wrong way round. -/
def length (bounds : Bounds) : UInt64 :=
  if bounds.start ≤ bounds.stop then bounds.stop - bounds.start else 0

theorem toNat_length (bounds : Bounds) :
    bounds.length.toNat = bounds.stop.toNat - bounds.start.toNat := by
  unfold length
  split
  · rename_i ordered
    exact UInt64.toNat_sub_of_le _ _ ordered
  · rename_i inverted
    rw [UInt64.le_iff_toNat_le] at inverted
    rw [UInt64.toNat_zero]
    omega

/-- Whether the frame has no bytes. -/
def isEmpty (bounds : Bounds) : Bool := bounds.length == 0

/-- Whether `want` bytes from the start on stay inside the frame, over the integers. -/
def fits (bounds : Bounds) (want : UInt64) : Bool :=
  bounds.start.toNat + want.toNat ≤ bounds.stop.toNat

end Bounds

/-- Why a buffer refuses a frame or a resize. -/
inductive BufferError where
  /-- Growing by `delta` needs more than the bytes behind the frame. -/
  | noTailroom (delta : Int32) (tailroom : Nat)
  /-- Shrinking by `delta` takes more than the frame has. -/
  | underflow (delta : Int32) (length : Nat)
  /-- A frame to load is longer than the storage behind the headroom. -/
  | tooLarge (length room : Nat)
  deriving DecidableEq, Repr

def BufferError.message : BufferError → String
  | .noTailroom delta tailroom =>
    s!"growing by {delta.toInt} bytes exceeds tailroom of {tailroom}"
  | .underflow delta length => s!"shrinking by {delta.toInt} bytes exceeds frame length {length}"
  | .tooLarge length room => s!"frame of {length} bytes does not fit buffer room of {room}"

class FrameBuffer (β : Type) where
  /-- The bounds of the frame as they are now. -/
  bounds : β → Bounds
  /-- The bytes of the frame that can be read and written. -/
  frame : β → ByteArray
  /-- The buffer with other bytes in the place of `frame`, as many as there were. -/
  setFrame : β → ByteArray → β
  /-- Grows (positive) or shrinks (negative) the frame at its tail. A refused resize may still have
  changed the buffer. -/
  adjustTail : β → Int32 → Except BufferError Unit × β
  /-- Length of the frame as it is counted: that of its bounds, unless the buffer says otherwise. -/
  length (buffer : β) : UInt64 := (bounds buffer).length

/-- Writing into the frame changes the bytes written and nothing else. -/
class LawfulFrameBuffer (β : Type) [FrameBuffer β] : Prop where
  /-- Bytes written into the frame are read back. -/
  frame_setFrame (buffer : β) (bytes : ByteArray)
    (h : bytes.size = (FrameBuffer.frame buffer).size) :
    FrameBuffer.frame (FrameBuffer.setFrame buffer bytes) = bytes
  /-- Bounds do not depend on the bytes of the frame. -/
  bounds_setFrame (buffer : β) (bytes : ByteArray) :
    FrameBuffer.bounds (FrameBuffer.setFrame buffer bytes) = FrameBuffer.bounds buffer

/-- Writes `bytes` into the frame from `offset` on, or nothing if they reach beyond the bytes that
can be written. -/
def FrameBuffer.write? {β : Type} [FrameBuffer β] (buffer : β) (offset : Nat)
    (bytes : ByteArray) : Option β :=
  let frame := FrameBuffer.frame buffer
  if offset + bytes.size ≤ frame.size then
    some (FrameBuffer.setFrame buffer (overlay frame offset bytes))
  else none

/-- Either of two kinds of buffer. -/
instance {α β : Type} [FrameBuffer α] [FrameBuffer β] : FrameBuffer (α ⊕ β) where
  bounds
    | .inl a => FrameBuffer.bounds a
    | .inr b => FrameBuffer.bounds b
  frame
    | .inl a => FrameBuffer.frame a
    | .inr b => FrameBuffer.frame b
  setFrame
    | .inl a, bytes => .inl (FrameBuffer.setFrame a bytes)
    | .inr b, bytes => .inr (FrameBuffer.setFrame b bytes)
  adjustTail
    | .inl a, delta => let (answer, a) := FrameBuffer.adjustTail a delta; (answer, .inl a)
    | .inr b, delta => let (answer, b) := FrameBuffer.adjustTail b delta; (answer, .inr b)
  length
    | .inl a => FrameBuffer.length a
    | .inr b => FrameBuffer.length b

instance {α β : Type} [FrameBuffer α] [FrameBuffer β] [LawfulFrameBuffer α] [LawfulFrameBuffer β] :
    LawfulFrameBuffer (α ⊕ β) where
  frame_setFrame
    | .inl a => LawfulFrameBuffer.frame_setFrame a
    | .inr b => LawfulFrameBuffer.frame_setFrame b
  bounds_setFrame
    | .inl a => LawfulFrameBuffer.bounds_setFrame a
    | .inr b => LawfulFrameBuffer.bounds_setFrame b

end FrameReplay
