import FrameReplay.Buffer.Basic

/-!
# Packet buffers

A packet buffer keeps its frame in 4096 bytes of storage, behind a fixed headroom:

    0          headroom          headroom + length          4096
    |          |      frame      |         tailroom         |

The storage outlives the frame: what a shrink cuts off is there again after a grow.
-/

namespace FrameReplay

/-- A buffer with storage of its own. -/
structure PacketBuffer where
  /-- Bytes kept free in front of the frame. -/
  headroom : Nat
  length : Nat
  /-- All bytes, headroom and tailroom included. -/
  storage : ByteArray
  /-- The storage never changes its size. -/
  size_storage : storage.size = storageSize
  /-- The frame lies inside the storage. -/
  inside : headroom + length ≤ storageSize

namespace PacketBuffer

/-- An empty buffer that keeps `headroom` bytes free, or all of its storage if that is less. -/
def withHeadroom (headroom : Nat) : PacketBuffer where
  headroom := min headroom storageSize
  length := 0
  storage := zeroBlock storageSize
  size_storage := size_zeroBlock _
  inside := Nat.min_le_right _ _

/-- An empty buffer with the default headroom. -/
def empty : PacketBuffer := withHeadroom defaultHeadroom

instance : Inhabited PacketBuffer := ⟨empty⟩

/-- Bytes between the frame and the end of the storage. -/
def tailroom (buffer : PacketBuffer) : Nat := storageSize - buffer.headroom - buffer.length

/-- The bytes of the frame. -/
def frame (buffer : PacketBuffer) : ByteArray :=
  buffer.storage.extract buffer.headroom (buffer.headroom + buffer.length)

theorem size_frame (buffer : PacketBuffer) : buffer.frame.size = buffer.length := by
  have := buffer.size_storage
  have := buffer.inside
  simp only [frame, ByteArray.size_extract]
  omega

/-- Drops the frame and keeps the headroom. -/
def reset (buffer : PacketBuffer) : PacketBuffer :=
  { buffer with length := 0, inside := Nat.le_trans (Nat.le_add_right _ _) buffer.inside }

/-- Replaces the frame by a copy of `bytes`. -/
def load (buffer : PacketBuffer) (bytes : ByteArray) : Except BufferError PacketBuffer :=
  if h : buffer.headroom + bytes.size ≤ storageSize then
    let ⟨headroom, _, storage, size_storage, _⟩ := buffer
    .ok {
      headroom
      length := bytes.size
      storage := overlay storage headroom bytes
      size_storage := by rw [size_overlay (by rw [size_storage]; exact h)]; exact size_storage
      inside := h }
  else .error (.tooLarge bytes.size (storageSize - buffer.headroom))

/-- Replaces the bytes of the frame; a patch that would leave the storage changes nothing. -/
def setFrame (buffer : PacketBuffer) (bytes : ByteArray) : PacketBuffer :=
  if h : buffer.headroom + bytes.size ≤ storageSize then
    let ⟨headroom, length, storage, size_storage, inside⟩ := buffer
    { headroom
      length
      storage := overlay storage headroom bytes
      size_storage := by rw [size_overlay (by rw [size_storage]; exact h)]; exact size_storage
      inside }
  else buffer

/-- Grows or shrinks the frame at its tail; a refused resize changes nothing. -/
def adjustTail (buffer : PacketBuffer) (delta : Int32) : Except BufferError Unit × PacketBuffer :=
  let amount := delta.toInt.natAbs
  if 0 ≤ delta.toInt then
    if h : buffer.headroom + (buffer.length + amount) ≤ storageSize then
      (.ok (), { buffer with length := buffer.length + amount, inside := h })
    else (.error (.noTailroom delta buffer.tailroom), buffer)
  else if amount ≤ buffer.length then
    (.ok (), { buffer with
      length := buffer.length - amount
      inside := Nat.le_trans (by omega) buffer.inside })
  else (.error (.underflow delta buffer.length), buffer)

instance : FrameBuffer PacketBuffer where
  bounds buffer :=
    ⟨UInt64.ofNat buffer.headroom, UInt64.ofNat (buffer.headroom + buffer.length)⟩
  frame := frame
  setFrame := setFrame
  adjustTail := adjustTail

/-- All bytes of the storage after the frame was replaced by as many others. -/
theorem octets_storage_setFrame (buffer : PacketBuffer) (bytes : ByteArray)
    (h : bytes.size = buffer.length) :
    octets (buffer.setFrame bytes).storage =
      (octets buffer.storage).take buffer.headroom ++ octets bytes ++
        (octets buffer.storage).drop (buffer.headroom + buffer.length) := by
  have inside := buffer.inside
  rw [setFrame, dif_pos (by omega), octets_overlay, h]

theorem octets_frame (buffer : PacketBuffer) :
    octets buffer.frame = ((octets buffer.storage).drop buffer.headroom).take buffer.length := by
  rw [frame, octets_extract, Nat.add_sub_cancel_left]

theorem headroom_setFrame (buffer : PacketBuffer) (bytes : ByteArray) :
    (buffer.setFrame bytes).headroom = buffer.headroom := by
  unfold setFrame
  split <;> rfl

theorem length_setFrame (buffer : PacketBuffer) (bytes : ByteArray) :
    (buffer.setFrame bytes).length = buffer.length := by
  unfold setFrame
  split <;> rfl

instance : LawfulFrameBuffer PacketBuffer where
  frame_setFrame buffer bytes h := by
    have h : bytes.size = buffer.length := h.trans buffer.size_frame
    have size := buffer.size_storage
    have inside := buffer.inside
    apply octets_inj
    change octets (buffer.setFrame bytes).frame = octets bytes
    rw [octets_frame, headroom_setFrame, length_setFrame, octets_storage_setFrame _ _ h,
      List.append_assoc, List.drop_append_of_le_length, List.drop_eq_nil_of_le, List.nil_append,
      List.take_append_of_le_length, List.take_of_length_le] <;>
      simp only [List.length_take, length_octets] <;> omega
  bounds_setFrame buffer bytes := by
    simp only [FrameBuffer.bounds, FrameBuffer.setFrame, headroom_setFrame, length_setFrame]

end PacketBuffer

end FrameReplay
