import FrameReplay.Generator.Config
import FrameReplay.Text.Base64
import FrameReplay.Text.Blank
import FrameReplay.Text.Escaped
import FrameReplay.Text.Hex

/-!
# Frames written out as text

`RawTemplate.decode` reads the data of one template and cuts it off at the declared length. Blanks
are skipped everywhere in hexadecimal data and at both ends of base64 data.
-/

namespace FrameReplay

/-- Why a frame is unfit for a template. -/
inductive FrameFault where
  /-- The declared length is longer than a template. -/
  | lengthTooLarge (length : UInt64)
  /-- There is less data than the declared length. -/
  | shortData (decoded : Nat) (length : UInt64)
  /-- A UDP payload does not fit a packet. -/
  | payloadTooLarge (length : Nat)
  /-- A generated frame is longer than a template. -/
  | frameTooLarge (length : Nat)
  deriving DecidableEq, Repr

def FrameFault.detail : FrameFault → String
  | .lengthTooLarge length => s!"length {length.toNat} exceeds {templateSize}"
  | .shortData decoded length =>
    s!"decoded {decoded} bytes, declared length is {length.toNat}"
  | .payloadTooLarge length => s!"UDP payload of {length} bytes is too large"
  | .frameTooLarge length => s!"generated frame of {length} bytes exceeds {templateSize}"

/-- Why the data of a template cannot be read. -/
inductive DataFault where
  | hex (fault : Text.Hex.Fault)
  | base64 (fault : Text.Base64.Fault)
  deriving DecidableEq, Repr

/-- The text of the fault. An octet that is no digit is shown as the character with its number. -/
def DataFault.detail : DataFault → String
  | .hex .oddLength => "hex: Odd number of digits"
  | .hex (.badDigit octet position) =>
    let shown := Text.quoteChar (Char.ofNat octet.toNat)
    s!"hex: Invalid character {shown} at position {position}"
  | .base64 (.badOctet octet offset) =>
    s!"base64: Invalid byte {octet.toNat}, offset {offset}."
  | .base64 .badLength => "base64: Encoded text cannot have a 6-bit remainder."
  | .base64 (.badLastSymbol octet offset) =>
    s!"base64: Invalid last symbol {octet.toNat}, offset {offset}."
  | .base64 .badPadding => "base64: Invalid padding"

/-- Why no frames are made. -/
inductive GenerateError where
  | config (cause : ConfigError)
  /-- A frame is unfit for a template. -/
  | frame (fault : FrameFault)
  /-- The data of a template cannot be read. -/
  | data (fault : DataFault)
  deriving DecidableEq, Repr

def GenerateError.message : GenerateError → String
  | .config cause => cause.message
  | .frame fault => s!"invalid template: {fault.detail}"
  | .data fault => s!"template encoding error: {fault.detail}"

namespace RawTemplate

/-- The octets of a text. -/
def textOctets (text : List Char) : Octets := octets (String.ofList text).toUTF8

/-- What the data stands for, before it is cut off. -/
def decodeData (template : RawTemplate) : Except DataFault Octets :=
  match template.encoding with
  | .zeros => .ok (List.replicate template.length.toNat 0)
  | .hex => (Text.Hex.decode (textOctets (Text.squeeze template.data.toList))).mapError .hex
  | .base64 => (Text.Base64.decode (textOctets (Text.strip template.data.toList))).mapError .base64

/-- The frame that a template stands for. The declared length is checked before the data is read. -/
def decode (template : RawTemplate) : Except GenerateError Octets :=
  if templateSize < template.length.toNat then .error (.frame (.lengthTooLarge template.length))
  else
    match template.decodeData with
    | .error fault => .error (.data fault)
    | .ok data =>
      if data.length < template.length.toNat then
        .error (.frame (.shortData data.length template.length))
      else .ok (data.take template.length.toNat)

end RawTemplate

end FrameReplay
