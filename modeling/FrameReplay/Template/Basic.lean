import FrameReplay.Limits
import FrameReplay.Octets

/-!
# Templates

A template is a frame to send: a declared length and a payload of fixed size. Whoever writes a
template may declare any length; every use goes through `effectiveLength`, which cuts it off at the
size of the payload.
-/

namespace FrameReplay

/-- Why a template or a table of templates cannot be made. -/
inductive TemplateError where
  /-- The frame is longer than the payload of a template. -/
  | frameTooLarge (length : Nat)
  /-- A table has at least one slot and at most as many as a 32-bit index reaches. -/
  | invalidCapacity (capacity : Nat)
  deriving DecidableEq, Repr

def TemplateError.message : TemplateError → String
  | .frameTooLarge length => s!"frame of {length} bytes exceeds template limit of {templateSize}"
  | .invalidCapacity capacity =>
    s!"table capacity must be between 1 and {maxSlots}, got {capacity}"

structure Template where
  /-- The length that the writer declared. -/
  declared : UInt32
  /-- The payload, bytes behind the length included. -/
  payload : ByteArray
  size_payload : payload.size = templateSize

namespace Template

/-- A payload of fixed size that begins with `bytes`. -/
def pad (bytes : Octets) : ByteArray :=
  (bytes ++ List.replicate (templateSize - bytes.length) 0).toByteArray

theorem size_pad {bytes : Octets} (h : bytes.length ≤ templateSize) :
    (pad bytes).size = templateSize := by
  simp only [pad, List.size_toByteArray, List.length_append, List.length_replicate]
  omega

/-- A template that declares any length over a payload filled up with zeros; a payload that is too
long has none. -/
def ofRaw? (declared : UInt32) (payload : Octets) : Option Template :=
  if h : payload.length ≤ templateSize then some ⟨declared, pad payload, size_pad h⟩ else none

/-- The template that carries exactly `frame`. -/
def ofFrame (frame : Octets) : Except TemplateError Template :=
  if h : frame.length ≤ templateSize then
    .ok ⟨UInt32.ofNat frame.length, pad frame, size_pad h⟩
  else .error (.frameTooLarge frame.length)

/-- The declared length, cut off at the size of the payload. -/
def effectiveLength (template : Template) : Nat := min template.declared.toNat templateSize

/-- The frame that is sent. -/
def frame (template : Template) : ByteArray :=
  template.payload.extract 0 template.effectiveLength

theorem octets_pad (bytes : Octets) :
    octets (pad bytes) = bytes ++ List.replicate (templateSize - bytes.length) 0 :=
  octets_toByteArray _

theorem octets_frame (template : Template) :
    octets template.frame = (octets template.payload).take template.effectiveLength := by
  rw [frame, octets_extract, List.drop_zero, Nat.sub_zero]

/-- A frame keeps its length as a template. -/
theorem effectiveLength_ofFrame {frame : Octets} {template : Template}
    (h : ofFrame frame = .ok template) : template.effectiveLength = frame.length := by
  unfold ofFrame at h
  split at h
  · rename_i fits
    cases h
    unfold effectiveLength
    rw [UInt32.toNat_ofNat']
    simp only [templateSize] at fits ⊢
    omega
  · cases h

theorem size_frame (template : Template) : template.frame.size = template.effectiveLength := by
  have := template.size_payload
  simp only [frame, effectiveLength, ByteArray.size_extract]
  omega

/-- The template as it is shown in diagnostics: the declared length and the first sixteen octets of
the frame. -/
def describe (template : Template) : String :=
  let head := (octets template.frame).take 16
  let items := ", ".intercalate (head.map fun octet => toString octet.toNat)
  s!"Template \x7b length: {template.declared.toNat}, head: [{items}] \x7d"

end Template

end FrameReplay
