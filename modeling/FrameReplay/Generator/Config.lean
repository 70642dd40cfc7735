import FrameReplay.Engine.Config
import FrameReplay.Frame.Udp

/-!
# Generator configuration

What frames a set of templates is made of: one UDP frame, UDP frames of mixed sizes, or frames
written out as text. `validate` checks what can be checked before any frame is made.
-/

namespace FrameReplay

/-- Why a configuration is refused. -/
inductive ConfigError where
  /-- The text is no MAC address. -/
  | badMac (text : String)
  /-- A UDP payload makes a frame longer than a template. -/
  | payloadTooLarge (size : UInt64)
  /-- A frame size of a mix is too small for the headers or too large for a template. -/
  | mixedSize (size : UInt16)
  /-- No pattern of a mix is ever sent. -/
  | mixWithoutWeight
  /-- A mix has more frames than a table has slots. -/
  | mixTooHeavy (total : Nat)
  /-- There is no frame to send. -/
  | noRawTemplates
  /-- There are more frames than a table has slots. -/
  | tooManyRawTemplates (count : Nat)
  /-- The declared length of a frame is longer than a template. -/
  | rawTemplateTooLong (index : Nat) (length : UInt64)
  /-- The seed does not fit a worker's buffer. -/
  | inboundTooLong (length : UInt64)
  /-- The contexts and packets cannot be run. -/
  | engine (cause : EngineConfigError)
  /-- The name of the file says nothing about its format. -/
  | unsupportedFormat (path : String)
  deriving DecidableEq, Repr

/-- The text of the error behind its heading. -/
def ConfigError.detail : ConfigError → String
  | .badMac text => s!"invalid MAC address '{text}'"
  | .payloadTooLarge size => s!"payload_size {size.toNat} exceeds maximum of {maxPayload}"
  | .mixedSize size =>
    s!"imix size {size.toNat} must be between {headerBytes} and {templateSize}"
  | .mixWithoutWeight => "imix needs at least one pattern with non-zero weight"
  | .mixTooHeavy total => s!"imix total weight {total} exceeds table capacity {defaultSlots}"
  | .noRawTemplates => "raw generator needs at least one template"
  | .tooManyRawTemplates count => s!"{count} raw templates exceed table capacity {defaultSlots}"
  | .rawTemplateTooLong index length =>
    s!"template {index} length {length.toNat} exceeds maximum of {templateSize}"
  | .inboundTooLong length =>
    s!"inbound_len {length.toNat} exceeds buffer room of {seedRoom}"
  | .engine cause => s!"configuration error: {cause.message}"
  | .unsupportedFormat path =>
    s!"unsupported config format: {path} (expected .json, .yaml or .yml)"

def ConfigError.message (error : ConfigError) : String := s!"config error: {error.detail}"

/-- One frame size of a mix and its share. -/
structure ImixPattern where
  /-- Size of the frame, headers included. -/
  size : UInt16
  /-- How many frames of the mix have this size. -/
  weight : UInt32
  deriving DecidableEq, Repr, Inhabited

/-- A mix of frame sizes. -/
structure ImixConfig where
  /-- The sizes in the order in which they take precedence. -/
  patterns : List ImixPattern
  deriving DecidableEq, Repr, Inhabited

namespace ImixConfig

/-- Sum of all weights, which is the number of frames in the mix.  It is taken in a word of 64 bits
and not checked: weights that add up to more, as those of more than `2 ^ 32` patterns can, lose what
is beyond the word. -/
def totalWeight (imix : ImixConfig) : Nat :=
  let total : UInt64 :=
    imix.patterns.foldl (fun total pattern => total + pattern.weight.toUInt64) 0
  total.toNat

/-- Checks the sizes first, whatever their weight, then the number of frames. -/
def validate (imix : ImixConfig) : Except ConfigError Unit :=
  match imix.patterns.find? fun p => p.size.toNat < headerBytes || templateSize < p.size.toNat with
  | some pattern => .error (.mixedSize pattern.size)
  | none =>
    if imix.totalWeight = 0 then .error .mixWithoutWeight
    else if defaultSlots < imix.totalWeight then .error (.mixTooHeavy imix.totalWeight)
    else .ok ()

end ImixConfig

/-- Settings of the UDP generator. -/
structure UdpConfig extends UdpHeaders where
  /-- Payload of the one frame, if there is no mix. -/
  payloadSize : UInt64
  imix : Option ImixConfig
  deriving DecidableEq, Repr

namespace UdpConfig

/-- One frame with a kilobyte of payload to all stations of a local network. -/
def default : UdpConfig where
  sourceMac := Mac.local
  destinationMac := Mac.broadcast
  sourceIp := ⟨192, 168, 1, 1⟩
  destinationIp := ⟨192, 168, 1, 2⟩
  sourcePort := 1234
  destinationPort := 5678
  ttl := 64
  payloadSize := 1024
  imix := none

instance : Inhabited UdpConfig := ⟨default⟩

/-- Checks the mix, or the payload if there is none. -/
def validate (udp : UdpConfig) : Except ConfigError Unit :=
  match udp.imix with
  | some imix => imix.validate
  | none =>
    if maxPayload < udp.payloadSize.toNat then .error (.payloadTooLarge udp.payloadSize)
    else .ok ()

end UdpConfig

/-- How the data of a raw template is written. -/
inductive Encoding where
  | hex
  | base64
  /-- No data: the frame is all zeros. -/
  | zeros
  deriving DecidableEq, Repr, Inhabited

/-- A frame written out as text. -/
structure RawTemplate where
  encoding : Encoding
  data : String
  /-- Length of the frame; more data is cut off. -/
  length : UInt64
  deriving DecidableEq, Repr, Inhabited

/-- Settings of the raw generator. -/
structure RawConfig where
  templates : List RawTemplate
  deriving DecidableEq, Repr, Inhabited

/-- Checks the number of frames first, then their declared lengths in order. -/
def RawConfig.validate (raw : RawConfig) : Except ConfigError Unit :=
  if raw.templates.isEmpty then .error .noRawTemplates
  else if defaultSlots < raw.templates.length then
    .error (.tooManyRawTemplates raw.templates.length)
  else
    let index := raw.templates.findIdx fun t => templateSize < t.length.toNat
    match raw.templates[index]? with
    | some template => .error (.rawTemplateTooLong index template.length)
    | none => .ok ()

/-- Where the frames come from. -/
inductive GeneratorConfig where
  | udp (config : UdpConfig)
  | raw (config : RawConfig)
  deriving DecidableEq, Repr

namespace GeneratorConfig

def default : GeneratorConfig := .udp UdpConfig.default

instance : Inhabited GeneratorConfig := ⟨default⟩

def validate : GeneratorConfig → Except ConfigError Unit
  | .udp config => config.validate
  | .raw config => config.validate

end GeneratorConfig

end FrameReplay
