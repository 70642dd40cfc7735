import FrameReplay.Frame.Summary
import FrameReplay.Generator.Basic
import FrameReplay.Json.Printer
import FrameReplay.Text.Table
import FrameReplay.Yaml.Printer

/-!
# Template reports

What the templates of a configuration look like: a report for every frame, with its place, what its
headers say and, if asked for, all of its octets. Reports are shown as a table, as JSON or as YAML.
-/

namespace FrameReplay

/-- What an IPv4 layer is written as. -/
def Ipv4Summary.toNode (ip : Ipv4Summary) : Node :=
  .record [
    (.text "src", .text ip.source.toText),
    (.text "dst", .text ip.destination.toText),
    (.text "ttl", .int ip.ttl.toNat),
    (.text "protocol", .int ip.protocol.toNat),
    (.text "total_len", .int ip.totalLength.toNat),
    (.text "checksum_ok", .bool ip.checksumOk)]

/-- What a UDP layer is written as. -/
def UdpSummary.toNode (udp : UdpSummary) : Node :=
  .record [
    (.text "src_port", .int udp.sourcePort.toNat),
    (.text "dst_port", .int udp.destinationPort.toNat),
    (.text "len", .int udp.length.toNat),
    (.text "checksum_ok", .bool udp.checksumOk)]

/-- A value, or null where there is none. -/
def Node.ofOption : Option Node → Node
  | some node => node
  | none => .null

/-- What a summary is written as; a missing layer is null. -/
def FrameSummary.toNode (summary : FrameSummary) : Node :=
  .record [
    (.text "len", .int summary.length),
    (.text "ethertype", .ofOption (summary.etherType.map fun t => .int t.toNat)),
    (.text "ipv4", .ofOption (summary.ipv4.map Ipv4Summary.toNode)),
    (.text "udp", .ofOption (summary.udp.map UdpSummary.toNode))]

/-- One template as it is reported. -/
structure TemplateReport where
  /-- Place in the order of sending. -/
  index : Nat
  summary : FrameSummary
  /-- The whole frame in hexadecimal digits, if asked for. -/
  hex : Option String
  deriving DecidableEq, Repr

namespace TemplateReport

/-- The report on a frame. -/
def ofFrame (withHex : Bool) (index : Nat) (frame : Octets) : TemplateReport where
  index
  summary := FrameSummary.ofFrame frame
  hex := if withHex then some (Text.Hex.toText frame) else none

/-- The reports on frames in the order of sending. -/
def ofFrames (withHex : Bool) (frames : List Octets) : List TemplateReport :=
  frames.mapIdx (ofFrame withHex)

/-- The reports on all frames of a generator. -/
def describe (config : GeneratorConfig) (withHex : Bool) :
    Except GenerateError (List TemplateReport) :=
  (generate config).map (ofFrames withHex)

/-- What a report is written as; the digits are left out if they were not asked for. -/
def toNode (report : TemplateReport) : Node :=
  .record ([
    (.text "index", .int report.index),
    (.text "summary", report.summary.toNode)] ++
    report.hex.toList.map fun hex => (.text "hex", .text hex))

/-- Address and port of one end, as far as they are known. -/
def endpoint (ip : Option Ipv4) (port : Option UInt16) : String :=
  match ip, port with
  | some ip, some port => ip.toText ++ ":" ++ toString port.toNat
  | some ip, none => ip.toText
  | none, _ => "-"

/-- The verdict on the checksums; without an IPv4 layer there is none. -/
def verdict (summary : FrameSummary) : String :=
  if summary.ipv4.isNone then "-" else if summary.checksumsOk then "ok" else "BAD"

/-- The names of the columns. -/
def columns : List String := ["#", "len", "src", "dst", "ttl", "checksums"]

/-- The row of a report. -/
def row (report : TemplateReport) : List String :=
  let summary := report.summary
  [toString report.index,
    toString summary.length,
    endpoint (summary.ipv4.map (·.source)) (summary.udp.map (·.sourcePort)),
    endpoint (summary.ipv4.map (·.destination)) (summary.udp.map (·.destinationPort)),
    (summary.ipv4.map fun ip => toString ip.ttl.toNat).getD "-",
    verdict summary]

/-- The line that shows the octets of a frame, its number set flush right in five columns. -/
def hexLine (report : TemplateReport) : Option String :=
  report.hex.map fun hex =>
    let index := toString report.index
    String.ofList (List.replicate (5 - index.length) ' ') ++ index ++ "  " ++ hex

end TemplateReport

inductive ReportFormat where
  /-- A table, with the octets of the frames below it. -/
  | table
  /-- JSON with an item per line. -/
  | json
  | yaml
  deriving DecidableEq, Repr, Inhabited

/-- The text that shows reports, line end included. -/
def ReportFormat.render (format : ReportFormat) (reports : List TemplateReport) : String :=
  match format with
  | .table =>
    let table := Text.Table.render (TemplateReport.columns :: reports.map TemplateReport.row)
    String.join ((table :: reports.filterMap TemplateReport.hexLine).map (· ++ "\n"))
  | .json => Json.pretty (.list (reports.map TemplateReport.toNode)) ++ "\n"
  | .yaml => Yaml.render (.list (reports.map TemplateReport.toNode))

end FrameReplay
