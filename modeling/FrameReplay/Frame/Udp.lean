import FrameReplay.Limits
import FrameReplay.Address.Mac
import FrameReplay.Checksum

/-!
# UDP frames

An Ethernet frame that carries one UDP datagram over IPv4 without options: 14 octets of Ethernet,
20 of IPv4, 8 of UDP, then the payload. Both checksums are filled in.
-/

namespace FrameReplay

/-- Addressing of one UDP flow. -/
structure UdpHeaders where
  sourceMac : Mac
  destinationMac : Mac
  sourceIp : Ipv4
  destinationIp : Ipv4
  sourcePort : UInt16
  destinationPort : UInt16
  /-- Hops that the packet may take. -/
  ttl : UInt8
  deriving DecidableEq, Repr, Inhabited

namespace Frame

def etherTypeIpv4 : UInt16 := 0x0800

/-- The octets `0, 1, 2, …`, beginning again at zero after 255. -/
def countingPayload (length : Nat) : Octets := (List.range length).map UInt8.ofNat

/-- Ethernet header of an IPv4 packet. -/
def ethernetHeader (headers : UdpHeaders) : Octets :=
  headers.destinationMac.toOctets ++ headers.sourceMac.toOctets ++ be16 etherTypeIpv4

/-- IPv4 header without options, with `checksum` in its checksum field. -/
def ipv4Header (headers : UdpHeaders) (totalLength checksum : UInt16) : Octets :=
  [0x45, 0] ++ be16 totalLength ++ [0, 0, 0, 0] ++ [headers.ttl, Checksum.udpProtocol] ++
    be16 checksum ++ headers.sourceIp.toOctets ++ headers.destinationIp.toOctets

/-- UDP header, with `checksum` in its checksum field. -/
def udpHeader (headers : UdpHeaders) (length checksum : UInt16) : Octets :=
  be16 headers.sourcePort ++ be16 headers.destinationPort ++ be16 length ++ be16 checksum

/-- The longest UDP payload that an IPv4 packet can carry. -/
abbrev maxUdpPayload : Nat := 65535 - 28

/-- The whole frame for `payload`, or nothing if the packet would be longer than its 16-bit length
field can say. -/
def ofUdp? (headers : UdpHeaders) (payload : Octets) : Option Octets :=
  if payload.length ≤ maxUdpPayload then
    let udpLength := UInt16.ofNat (8 + payload.length)
    let totalLength := UInt16.ofNat (28 + payload.length)
    let ipSum := Checksum.ipv4 (ipv4Header headers totalLength 0)
    let udpSum :=
      Checksum.udp headers.sourceIp headers.destinationIp (udpHeader headers udpLength 0 ++ payload)
    some (ethernetHeader headers ++ ipv4Header headers totalLength ipSum ++
      udpHeader headers udpLength udpSum ++ payload)
  else none

/-- The flow of the frames that stand in for received traffic. -/
def sampleHeaders : UdpHeaders where
  sourceMac := Mac.local
  destinationMac := Mac.zero
  sourceIp := Ipv4.loopback
  destinationIp := Ipv4.loopback
  sourcePort := 8080
  destinationPort := 8081
  ttl := 64

/-- A frame of `length` octets that stands in for received traffic: a UDP frame filled up with the
letter x, or zeros where no UDP frame has that length. -/
def sample (length : Nat) : Octets :=
  if length < headerBytes then List.replicate length 0
  else
    (ofUdp? sampleHeaders (List.replicate (length - headerBytes) 120)).getD
      (List.replicate length 0)

end Frame

end FrameReplay
