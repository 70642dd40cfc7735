import FrameReplay.Buffer.Basic
import FrameReplay.Template.Basic

/-!
# Resize and overwrite

`overwrite` turns whatever frame a buffer holds into a copy of a template. It asks for one resize,
by the signed difference of the lengths, and for none if the lengths agree; then it reads the
bounds anew, checks that the template fits between them, and copies no byte past the bytes that the
buffer shows.
-/

namespace FrameReplay

/-- Why a frame could not be overwritten. -/
inductive OverwriteError where
  /-- The difference of the lengths does not fit 32 bits. -/
  | deltaOverflow (current : UInt64) (target : Nat)
  | resize (delta : Int32) (cause : BufferError)
  /-- The bounds after the resize do not hold the template. -/
  | shortFrame (bounds : Bounds) (required : Nat)
  /-- The bytes that can be written end before the template does. -/
  | outOfBounds (offset length : Nat)
  deriving DecidableEq, Repr

def OverwriteError.message : OverwriteError → String
  | .deltaOverflow current target =>
    s!"length change {current.toNat} -> {target} is not representable"
  | .resize delta cause => s!"resize by {delta.toInt} bytes failed: {cause.message}"
  | .shortFrame bounds required =>
    s!"frame bounds {bounds.start.toNat}..{bounds.stop.toNat} cannot hold {required} bytes after resize"
  | .outOfBounds offset length => s!"write at offset {offset} outside frame of {length} bytes"

/-- The resize that leads from one length to another. Both lengths are read as signed 64-bit
numbers and subtracted as such, and the difference has to fit 32 bits. The subtraction wraps, as it
does where overflow goes unchecked; a check would stop it for current lengths from `2 ^ 63` up to
`2 ^ 63 + target`, which are read as numbers near the least. -/
def resizeDelta? (current : UInt64) (target : Nat) : Option Int32 :=
  let delta := (UInt64.ofNat target).toInt64 - current.toInt64
  if Int32.minValue.toInt ≤ delta.toInt ∧ delta.toInt ≤ Int32.maxValue.toInt then
    some delta.toInt32
  else none

/-- Resizes the frame to `target` bytes, if it has another length. -/
def resizeTo {β : Type} [FrameBuffer β] (target : Nat) (buffer : β) :
    Except OverwriteError Unit × β :=
  let current := (FrameBuffer.bounds buffer).length
  if current.toNat = target then (.ok (), buffer)
  else
    match resizeDelta? current target with
    | none => (.error (.deltaOverflow current target), buffer)
    | some delta =>
      match FrameBuffer.adjustTail buffer delta with
      | (.error cause, buffer) => (.error (.resize delta cause), buffer)
      | (.ok (), buffer) => (.ok (), buffer)

section

variable {β : Type} [FrameBuffer β] (buffer : β)

theorem resizeTo_of_same {target : Nat} (same : (FrameBuffer.bounds buffer).length.toNat = target) :
    resizeTo target buffer = (.ok (), buffer) := if_pos same

theorem resizeTo_of_none {target : Nat} (other : (FrameBuffer.bounds buffer).length.toNat ≠ target)
    (unfit : resizeDelta? (FrameBuffer.bounds buffer).length target = none) :
    resizeTo target buffer =
      (.error (.deltaOverflow (FrameBuffer.bounds buffer).length target), buffer) := by
  unfold resizeTo
  simp only [if_neg other, unfit]

theorem resizeTo_of_some {target : Nat} (other : (FrameBuffer.bounds buffer).length.toNat ≠ target)
    {delta : Int32} (found : resizeDelta? (FrameBuffer.bounds buffer).length target = some delta) :
    resizeTo target buffer =
      ((FrameBuffer.adjustTail buffer delta).1.mapError (.resize delta),
        (FrameBuffer.adjustTail buffer delta).2) := by
  unfold resizeTo
  simp only [if_neg other, found]
  rcases FrameBuffer.adjustTail buffer delta with ⟨_ | ⟨⟩, after⟩ <;> rfl

end

/-- Copies the frame of a template over the first bytes of the buffer's frame, and no further than
that frame goes. -/
def copyFrame {β : Type} [FrameBuffer β] (template : Template) (buffer : β) :
    Except OverwriteError Nat × β :=
  let target := template.effectiveLength
  let frame := FrameBuffer.frame buffer
  let size := frame.size
  let written := template.payload.extract 0 (min target size)
  let buffer := FrameBuffer.setFrame buffer (overlay frame 0 written)
  if target ≤ size then (.ok target, buffer) else (.error (.outOfBounds size size), buffer)

/-- Resizes the frame to the template's effective length and copies the template into it; gives the
number of bytes written. -/
def overwrite {β : Type} [FrameBuffer β] (template : Template) (buffer : β) :
    Except OverwriteError Nat × β :=
  match resizeTo template.effectiveLength buffer with
  | (.error cause, buffer) => (.error cause, buffer)
  | (.ok (), buffer) =>
    let bounds := FrameBuffer.bounds buffer
    if bounds.fits (UInt64.ofNat template.effectiveLength) then copyFrame template buffer
    else (.error (.shortFrame bounds template.effectiveLength), buffer)

end FrameReplay
