import FrameReplay.Frame.Udp

/-!
# Frame summaries

What the headers of a frame say, layer by layer, as far as the frame is long enough: a layer whose
header is cut off is missing from the summary, and so is every layer behind it. The IPv4 header is
taken to be at least 20 octets long whatever its length field says.
-/

namespace FrameReplay

/-- What an IPv4 header says. -/
structure Ipv4Summary where
  source : Ipv4
  destination : Ipv4
  ttl : UInt8
  protocol : UInt8
  totalLength : UInt16
  /-- Whether the checksum field holds the checksum of the header. -/
  checksumOk : Bool
  deriving DecidableEq, Repr

/-- What a UDP header says. -/
structure UdpSummary where
  sourcePort : UInt16
  destinationPort : UInt16
  length : UInt16
  /-- Whether the datagram is all there and its checksum, if it has one, is right. -/
  checksumOk : Bool
  deriving DecidableEq, Repr

/-- What the headers of a frame say. -/
structure FrameSummary where
  length : Nat
  /-- EtherType, if the Ethernet header is complete. -/
  etherType : Option UInt16
  /-- The IPv4 layer, if there is one and its header is complete. -/
  ipv4 : Option Ipv4Summary
  /-- The UDP layer, if there is one and its header is complete. -/
  udp : Option UdpSummary
  deriving DecidableEq, Repr

namespace FrameSummary

/-- The EtherType of a frame whose Ethernet header is complete. -/
def readEtherType? (data : Octets) : Option UInt16 :=
  match slice? data 0 14 with
  | some [_, _, _, _, _, _, _, _, _, _, _, _, high, low] => some (word16 high low)
  | _ => none

/-- The IPv4 header that stands behind the Ethernet header, options included. -/
def ipv4Header? (data : Octets) : Option Octets := do
  let first ← (← slice? data 14 34).head?
  slice? data 14 (14 + max (first.toNat % 16 * 4) 20)

/-- What an IPv4 header says, and the verdict on its checksum. -/
def readIpv4? (header : Octets) : Option Ipv4Summary :=
  match header with
  | _ :: _ :: lengthHigh :: lengthLow :: _ :: _ :: _ :: _ :: ttl :: protocol ::
      sumHigh :: sumLow :: s0 :: s1 :: s2 :: s3 :: d0 :: d1 :: d2 :: d3 :: _ =>
    some {
      source := ⟨s0, s1, s2, s3⟩
      destination := ⟨d0, d1, d2, d3⟩
      ttl
      protocol
      totalLength := word16 lengthHigh lengthLow
      checksumOk := Checksum.ipv4 header == word16 sumHigh sumLow }
  | _ => none

/-- What the UDP header at `start` says. A checksum field of zero means that the sender computed
none, so it is not compared. -/
def readUdp? (data : Octets) (start : Nat) (ip : Ipv4Summary) : Option UdpSummary :=
  match slice? data start (start + 8) with
  | some [sourceHigh, sourceLow, destHigh, destLow, lengthHigh, lengthLow, sumHigh, sumLow] =>
    let length := word16 lengthHigh lengthLow
    let stored := word16 sumHigh sumLow
    some {
      sourcePort := word16 sourceHigh sourceLow
      destinationPort := word16 destHigh destLow
      length
      checksumOk :=
        match slice? data start (start + length.toNat) with
        | some segment => stored == 0 || Checksum.udp ip.source ip.destination segment == stored
        | none => false }
  | _ => none

/-- Reads the headers of a frame. -/
def ofFrame (data : Octets) : FrameSummary :=
  let etherType := readEtherType? data
  let header := if etherType = some Frame.etherTypeIpv4 then ipv4Header? data else none
  let ipv4 := header.bind readIpv4?
  let udp :=
    match header, ipv4 with
    | some header, some ip =>
      if ip.protocol = Checksum.udpProtocol then readUdp? data (14 + header.length) ip else none
    | _, _ => none
  ⟨data.length, etherType, ipv4, udp⟩

/-- Whether every checksum that was read is right. -/
def checksumsOk (summary : FrameSummary) : Bool :=
  summary.ipv4.all (·.checksumOk) && summary.udp.all (·.checksumOk)

end FrameSummary

end FrameReplay
