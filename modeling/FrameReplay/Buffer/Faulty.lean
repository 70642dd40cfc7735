import FrameReplay.Buffer.Basic

/-!
# Faulty buffers

A buffer that need not keep its promises: its bounds are set freely, it may show only part of its
bytes, and its resize may do nothing, fail, or overshoot. Writing into any buffer has to be safe on
this one too.
-/

namespace FrameReplay

/-- What a faulty buffer does when it is asked to resize. -/
inductive ResizePolicy where
  /-- Resizes its bytes as asked, with slack on top. -/
  | comply
  | ignore
  /-- Reports that there is no room. -/
  | fail
  deriving DecidableEq, Repr

/-- A buffer whose bounds, bytes and resizes need not agree. -/
structure FaultyBuffer where
  data : ByteArray
  bounds : Bounds
  /-- How many of its bytes it shows, if not all. -/
  visible : Option Nat
  /-- Bytes that a resize adds on top, and the room that a failing one claims to have. -/
  slack : Nat
  /-- What it does when it is asked to resize. -/
  policy : ResizePolicy

namespace FaultyBuffer

/-- How many bytes it shows. -/
def shown (buffer : FaultyBuffer) : Nat :=
  match buffer.visible with
  | some n => min n buffer.data.size
  | none => buffer.data.size

/-- Bytes cut off or filled up with zeros to length `n`. -/
def resized (data : ByteArray) (n : Nat) : ByteArray :=
  data.extract 0 n ++ zeroBlock (n - data.size)

/-- What the buffer does on a request to resize. -/
def adjustTail (buffer : FaultyBuffer) (delta : Int32) : Except BufferError Unit × FaultyBuffer :=
  match buffer.policy with
  | .ignore => (.ok (), buffer)
  | .fail => (.error (.noTailroom delta buffer.slack), buffer)
  | .comply =>
    let length := ((buffer.data.size : Int) + delta.toInt).toNat + buffer.slack
    (.ok (), { buffer with
      data := resized buffer.data length
      bounds := ⟨buffer.bounds.start, buffer.bounds.start + UInt64.ofNat length⟩ })

instance : FrameBuffer FaultyBuffer where
  bounds := FaultyBuffer.bounds
  frame buffer := buffer.data.extract 0 buffer.shown
  setFrame buffer bytes := { buffer with data := overlay buffer.data 0 bytes }
  adjustTail := adjustTail

theorem shown_le (buffer : FaultyBuffer) : buffer.shown ≤ buffer.data.size := by
  unfold shown
  split
  · exact Nat.min_le_right _ _
  · exact Nat.le_refl _

theorem size_frame (buffer : FaultyBuffer) : (FrameBuffer.frame buffer).size = buffer.shown := by
  have := buffer.shown_le
  change (buffer.data.extract 0 buffer.shown).size = _
  rw [ByteArray.size_extract]
  omega

instance : LawfulFrameBuffer FaultyBuffer where
  frame_setFrame buffer bytes h := by
    have h : bytes.size = buffer.shown := h.trans buffer.size_frame
    have le := buffer.shown_le
    have size : (overlay buffer.data 0 bytes).size = buffer.data.size := size_overlay (by omega)
    have shown : (FrameBuffer.setFrame buffer bytes).shown = bytes.size := by
      rw [h]
      simp only [FaultyBuffer.shown, FrameBuffer.setFrame, size]
    apply octets_inj
    change octets ((overlay buffer.data 0 bytes).extract 0 _) = _
    rw [shown, octets_extract, octets_overlay, List.take_zero, List.nil_append, List.drop_zero,
      Nat.sub_zero, List.take_append_of_le_length, List.take_of_length_le] <;>
      simp only [length_octets, Nat.le_refl]
  bounds_setFrame _ _ := rfl

end FaultyBuffer

end FrameReplay
