import FrameReplay.Generator.Imix
import FrameReplay.Generator.Raw

/-!
# Generating frames

`generate` makes the frames that a set of settings describes, in the order in which they are sent.
Every frame fits a template.
-/

namespace FrameReplay

/-- The UDP frame that carries `payload`. -/
def udpFrame (headers : UdpHeaders) (payload : Octets) : Except GenerateError Octets :=
  match Frame.ofUdp? headers payload with
  | some frame => .ok frame
  | none => .error (.frame (.payloadTooLarge payload.length))

/-- The UDP frame with a counting payload of `length` octets. -/
def countingFrame (headers : UdpHeaders) (length : Nat) : Except GenerateError Octets :=
  udpFrame headers (Frame.countingPayload length)

/-- The UDP frames of some settings. -/
def UdpConfig.frames (config : UdpConfig) : Except GenerateError (List Octets) :=
  match config.imix with
  | none => do
    return [← countingFrame config.toUdpHeaders config.payloadSize.toNat]
  | some imix => do
    let sizes ← (Imix.schedule imix).mapError .config
    sizes.mapM fun size => countingFrame config.toUdpHeaders (size.toNat - headerBytes)

/-- The frames that the settings describe, before their sizes are checked. -/
def GeneratorConfig.frames : GeneratorConfig → Except GenerateError (List Octets)
  | .udp config => config.frames
  | .raw config => config.templates.mapM RawTemplate.decode

/-- Checks the settings, makes the frames, and makes sure that each fits a template. -/
def generate (config : GeneratorConfig) : Except GenerateError (List Octets) := do
  config.validate.mapError .config
  let frames ← config.frames
  match frames.find? fun frame => templateSize < frame.length with
  | some frame => throw (.frame (.frameTooLarge frame.length))
  | none => return frames

end FrameReplay
