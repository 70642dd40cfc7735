import FrameReplay.Document.Schema
import FrameReplay.Generator.Config

/-!
# Generator settings in documents

How generator settings stand in a document. Which generator is meant stands under the key `kind`,
anywhere in the record, or first in a list; all other parts are held back until it is known. These
are the rules that are commonly derived for a choice whose tag stands inside the record.
-/

namespace FrameReplay

def Codec.mac : Codec Mac where
  read _
    | .text text =>
      match Mac.ofText? text with
      | some mac => .ok mac
      | none => .error (.data (.refused (ConfigError.badMac text).message))
    | node => .error (node.mismatch "a string")
  write mac := .text mac.toText

def Codec.ipv4 : Codec Ipv4 where
  read _
    | .text text =>
      match Ipv4.ofText? text with
      | some ip => .ok ip
      | none => .error (.data .badIpv4)
    | node => .error (node.mismatch "IPv4 address")
  write ip := .text ip.toText

/-- One frame size of a mix. -/
def ImixPattern.schema : Schema ImixPattern where
  name := "ImixPattern"
  fields := [
    Codec.u16.field "size" true ImixPattern.size fun size p => { p with size },
    Codec.u32.field "weight" true ImixPattern.weight fun weight p => { p with weight }]
  start := default

/-- A mix of frame sizes. -/
def ImixConfig.schema : Schema ImixConfig where
  name := "ImixConfig"
  fields := [
    (Codec.list ImixPattern.schema.codec).field "patterns" true ImixConfig.patterns
      fun patterns imix => { imix with patterns }]
  start := default

/-- Settings of the UDP generator, none of them required. -/
def UdpConfig.schema : Schema UdpConfig where
  name := "UdpConfig"
  fields := [
    Codec.mac.field "src_mac" false (·.sourceMac) fun sourceMac c => { c with sourceMac },
    Codec.mac.field "dst_mac" false (·.destinationMac)
      fun destinationMac c => { c with destinationMac },
    Codec.ipv4.field "src_ip" false (·.sourceIp) fun sourceIp c => { c with sourceIp },
    Codec.ipv4.field "dst_ip" false (·.destinationIp)
      fun destinationIp c => { c with destinationIp },
    Codec.u16.field "src_port" false (·.sourcePort) fun sourcePort c => { c with sourcePort },
    Codec.u16.field "dst_port" false (·.destinationPort)
      fun destinationPort c => { c with destinationPort },
    Codec.u8.field "ttl" false (·.ttl) fun ttl c => { c with ttl },
    Codec.usize.field "payload_size" false (·.payloadSize)
      fun payloadSize c => { c with payloadSize },
    (Codec.option ImixConfig.schema.codec).field "imix" false (·.imix)
      fun imix c => { c with imix }]
  start := UdpConfig.default

/-- The names of the encodings. -/
def Encoding.names : List (String × Encoding) :=
  [("hex", .hex), ("base64", .base64), ("zeros", .zeros)]

/-- The name of an encoding. -/
def Encoding.name : Encoding → String
  | .hex => "hex"
  | .base64 => "base64"
  | .zeros => "zeros"

def Codec.encoding : Codec Encoding where
  read := Codec.choiceOrRecord Encoding.names
  write encoding := .text encoding.name

/-- A frame written out as text; only its length is required. -/
def RawTemplate.schema : Schema RawTemplate where
  name := "RawTemplate"
  fields := [
    Codec.encoding.field "encoding" false RawTemplate.encoding
      fun encoding t => { t with encoding },
    Codec.text.field "data" false RawTemplate.data fun data t => { t with data },
    Codec.usize.field "length" true RawTemplate.length fun length t => { t with length }]
  start := ⟨.hex, "", 0⟩

/-- Settings of the raw generator. -/
def RawConfig.schema : Schema RawConfig where
  name := "RawConfig"
  fields := [
    (Codec.list RawTemplate.schema.codec).field "templates" true RawConfig.templates
      fun templates raw => { raw with templates }]
  start := default

namespace GeneratorConfig

inductive Kind where
  | udp
  | raw
  deriving DecidableEq, Repr

/-- The names of the generators. -/
def kinds : List (String × Kind) := [("udp", .udp), ("raw", .raw)]

/-- The key under which the name of the generator stands. -/
def kindKey : String := "kind"

/-- Reads the settings of one kind of generator from parts that were held back. -/
def readAs (kept : Node) : Kind → Except DocumentError GeneratorConfig
  | .udp => (UdpConfig.schema.read .kept kept).map .udp
  | .raw => (RawConfig.schema.read .kept kept).map .raw

/-- A record while its entries are sorted. -/
structure Sorting where
  /-- The kind, once it was met. -/
  kind : Option Kind
  /-- The other entries, last one first. -/
  others : List (Node × Node)

/-- Whether an entry holds the kind. -/
def isKindKey : Node → Bool
  | .text key => key == kindKey
  | _ => false

/-- Takes in one entry of a record. -/
def sortEntry (origin : Origin) (sorting : Sorting) (entry : Node × Node) :
    Except DocumentError Sorting := do
  if isKindKey entry.1 then
    if sorting.kind.isSome then
      throw (.data (.duplicateField kindKey))
    return { sorting with kind := some (← Codec.choice kinds origin.inner entry.2) }
  else
    let key ← origin.inner.keep entry.1
    let value ← origin.inner.keep entry.2
    return { sorting with others := (key, value) :: sorting.others }

def read (origin : Origin) : Node → Except DocumentError GeneratorConfig
  | .record entries => do
    let sorting ← entries.foldlM (sortEntry origin) ⟨none, []⟩
    match sorting.kind with
    | some kind => readAs (.record sorting.others.reverse) kind
    | none => throw (.data (.missingField kindKey))
  | .list [] => .error (.data (.missingField kindKey))
  | .list (first :: items) => do
    let kind ← Codec.choice kinds origin.inner first
    let items ← items.mapM origin.inner.keep
    readAs (.list items) kind
  | node => .error (node.mismatch "internally tagged enum GeneratorConfig")

/-- The record for settings, with the kind first. -/
def toNode : GeneratorConfig → Node
  | .udp config => .record ((.text kindKey, .text "udp") :: UdpConfig.schema.entries config)
  | .raw config => .record ((.text kindKey, .text "raw") :: RawConfig.schema.entries config)

def codec : Codec GeneratorConfig := ⟨read, toNode⟩

end GeneratorConfig

end FrameReplay
