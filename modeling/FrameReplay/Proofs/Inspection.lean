import FrameReplay.Frame.Summary
import FrameReplay.Proofs.Generation

/-!
# Inspected frames

The builder of UDP frames and the reader of headers agree: whatever the builder puts into a frame
is read out of it again, and both checksums are found right (`udpFrame_inspection`).  The lemmas
follow the frame from the front, one reader for every layer, each for any octets behind its layer.
-/

namespace FrameReplay

/-! ## Pieces of a frame -/

theorem slice?_append {front middle back : Octets} {start stop : Nat}
    (begins : front.length = start) (ends : front.length + middle.length = stop) :
    slice? (front ++ (middle ++ back)) start stop = some middle := by
  subst begins ends
  unfold slice?
  rw [if_pos (by simp only [List.length_append]; omega), List.drop_left, Nat.add_sub_cancel_left,
    List.take_left]

theorem Mac.toOctets_inj {a b : Mac} (h : a.toOctets = b.toOctets) : a = b := by
  cases a
  cases b
  simp only [Mac.toOctets, List.cons.injEq, and_true] at h
  obtain ⟨rfl, rfl, rfl, rfl, rfl, rfl⟩ := h
  rfl

namespace Frame

section Layers

variable (headers : UdpHeaders)

/-- The IPv4 header in front of a datagram with `payload`. -/
def packetHeader (payload : Octets) : Octets :=
  let totalLength := UInt16.ofNat (28 + payload.length)
  ipv4Header headers totalLength (Checksum.ipv4 (ipv4Header headers totalLength 0))

/-- The UDP datagram that carries `payload`. -/
def datagram (payload : Octets) : Octets :=
  let length := UInt16.ofNat (8 + payload.length)
  udpHeader headers length (Checksum.udp headers.sourceIp headers.destinationIp
    (udpHeader headers length 0 ++ payload)) ++ payload

theorem ofUdp?_of_le {payload : Octets} (fits : payload.length ≤ maxUdpPayload) :
    ofUdp? headers payload = some
      (ethernetHeader headers ++ (packetHeader headers payload ++ datagram headers payload)) := by
  unfold ofUdp? packetHeader datagram
  rw [if_pos fits]
  simp only [List.append_assoc]

theorem ofUdp?_of_lt {payload : Octets} (large : maxUdpPayload < payload.length) :
    ofUdp? headers payload = none := by
  unfold ofUdp?
  rw [if_neg (by omega)]

/-- The checksum field of an IPv4 header does not count. -/
theorem ipv4_ipv4Header (totalLength checksum other : UInt16) :
    Checksum.ipv4 (ipv4Header headers totalLength checksum) =
      Checksum.ipv4 (ipv4Header headers totalLength other) := rfl

/-- The checksum field of a UDP header does not count. -/
theorem udp_udpHeader (source destination : Ipv4) (length checksum other : UInt16)
    (payload : Octets) :
    Checksum.udp source destination (udpHeader headers length checksum ++ payload) =
      Checksum.udp source destination (udpHeader headers length other ++ payload) := rfl

end Layers

end Frame

/-! ## Layer by layer -/

namespace FrameSummary

open FrameReplay.Frame

section Readers

variable (headers : UdpHeaders)

theorem readEtherType?_ethernetHeader (packet : Octets) :
    readEtherType? (ethernetHeader headers ++ packet) = some etherTypeIpv4 := by
  have cut : slice? ([] ++ (ethernetHeader headers ++ packet)) 0 14 =
      some (ethernetHeader headers) := slice?_append rfl rfl
  rw [List.nil_append] at cut
  unfold readEtherType?
  rw [cut]
  exact congrArg some (word16_be16 etherTypeIpv4)

theorem ipv4Header?_ethernetHeader (totalLength checksum : UInt16) (rest : Octets) :
    ipv4Header? (ethernetHeader headers ++ (ipv4Header headers totalLength checksum ++ rest)) =
      some (ipv4Header headers totalLength checksum) := by
  have cut : slice? (ethernetHeader headers ++ (ipv4Header headers totalLength checksum ++ rest))
      14 34 = some (ipv4Header headers totalLength checksum) := slice?_append rfl rfl
  unfold ipv4Header?
  rw [cut]
  -- The first octet says five words, so the header is cut where it was cut to read that octet.
  exact cut

theorem readIpv4?_ipv4Header (totalLength checksum : UInt16) :
    readIpv4? (ipv4Header headers totalLength checksum) = some {
      source := headers.sourceIp
      destination := headers.destinationIp
      ttl := headers.ttl
      protocol := Checksum.udpProtocol
      totalLength
      checksumOk := Checksum.ipv4 (ipv4Header headers totalLength 0) == checksum } := by
  change some (Ipv4Summary.mk _ _ _ _ (word16 _ _) (_ == word16 _ _)) = _
  rw [word16_be16, word16_be16, ipv4_ipv4Header headers totalLength checksum 0]

theorem readIpv4?_packetHeader (payload : Octets) :
    readIpv4? (packetHeader headers payload) = some {
      source := headers.sourceIp
      destination := headers.destinationIp
      ttl := headers.ttl
      protocol := Checksum.udpProtocol
      totalLength := UInt16.ofNat (28 + payload.length)
      checksumOk := true } := by
  unfold packetHeader
  simp only [readIpv4?_ipv4Header, beq_self_eq_true]

theorem readUdp?_udpHeader (front payload : Octets) {start : Nat} (ip : Ipv4Summary)
    {length : UInt16} (checksum : UInt16) (begins : front.length = start)
    (covers : length.toNat = 8 + payload.length) :
    readUdp? (front ++ (udpHeader headers length checksum ++ payload)) start ip = some {
      sourcePort := headers.sourcePort
      destinationPort := headers.destinationPort
      length
      checksumOk := checksum == 0 || Checksum.udp ip.source ip.destination
        (udpHeader headers length 0 ++ payload) == checksum } := by
  have cut : slice? (front ++ (udpHeader headers length checksum ++ payload)) start (start + 8) =
      some (udpHeader headers length checksum) :=
    slice?_append begins (congrArg (· + 8) begins)
  have whole : slice? (front ++ ((udpHeader headers length checksum ++ payload) ++ [])) start
      (start + length.toNat) = some (udpHeader headers length checksum ++ payload) := by
    refine slice?_append begins ?_
    rw [covers, List.length_append, begins]
    rfl
  rw [List.append_nil] at whole
  -- Both sides are brought down to single octets, so that the reader sees all eight of the header.
  rw [udp_udpHeader headers _ _ _ 0 checksum]
  unfold readUdp?
  rw [cut]
  simp only [udpHeader, be16, List.cons_append, List.nil_append] at whole ⊢
  simp only [word16_be16, whole]

theorem readUdp?_datagram (front : Octets) {payload : Octets} {start : Nat} {ip : Ipv4Summary}
    (begins : front.length = start) (fits : payload.length ≤ maxUdpPayload)
    (source : ip.source = headers.sourceIp) (destination : ip.destination = headers.destinationIp) :
    readUdp? (front ++ datagram headers payload) start ip = some {
      sourcePort := headers.sourcePort
      destinationPort := headers.destinationPort
      length := UInt16.ofNat (8 + payload.length)
      checksumOk := true } := by
  have covers : (UInt16.ofNat (8 + payload.length)).toNat = 8 + payload.length := by
    rw [UInt16.toNat_ofNat']
    unfold maxUdpPayload at fits
    omega
  unfold datagram
  rw [readUdp?_udpHeader headers front payload ip _ begins covers, source, destination,
    beq_self_eq_true, Bool.or_true]

/-- What the reader makes of a whole frame. -/
theorem ofFrame_datagram {payload : Octets} (fits : payload.length ≤ maxUdpPayload) :
    ofFrame (ethernetHeader headers ++ (packetHeader headers payload ++ datagram headers payload)) =
      { length := headerBytes + payload.length
        etherType := some etherTypeIpv4
        ipv4 := some {
          source := headers.sourceIp
          destination := headers.destinationIp
          ttl := headers.ttl
          protocol := Checksum.udpProtocol
          totalLength := UInt16.ofNat (28 + payload.length)
          checksumOk := true }
        udp := some {
          sourcePort := headers.sourcePort
          destinationPort := headers.destinationPort
          length := UInt16.ofNat (8 + payload.length)
          checksumOk := true } } := by
  have built := length_ofUdp? (ofUdp?_of_le headers fits)
  have front : (ethernetHeader headers ++ packetHeader headers payload).length = 34 := rfl
  have header : ipv4Header? (ethernetHeader headers ++
      (packetHeader headers payload ++ datagram headers payload)) =
        some (packetHeader headers payload) := ipv4Header?_ethernetHeader headers _ _ _
  unfold ofFrame
  simp only [built, readEtherType?_ethernetHeader, if_true, header, Option.bind_some,
    readIpv4?_packetHeader]
  -- The datagram stands behind both headers, which the last reader takes as one.
  change FrameSummary.mk _ _ _ (readUdp? _ 34 _) = _
  rw [← List.append_assoc, readUdp?_datagram headers _ front fits rfl rfl]

end Readers

end FrameSummary

/-! ## Whole frames -/

theorem le_of_udpFrame_eq_ok {headers : UdpHeaders} {payload frame : Octets}
    (h : udpFrame headers payload = .ok frame) : payload.length ≤ Frame.maxUdpPayload := by
  by_contra large
  unfold udpFrame at h
  rw [Frame.ofUdp?_of_lt headers (Nat.lt_of_not_le large)] at h
  cases h

theorem udpFrame_of_le (headers : UdpHeaders) {payload : Octets}
    (fits : payload.length ≤ Frame.maxUdpPayload) :
    udpFrame headers payload = .ok (Frame.ethernetHeader headers ++
      (Frame.packetHeader headers payload ++ Frame.datagram headers payload)) := by
  unfold udpFrame
  rw [Frame.ofUdp?_of_le headers fits]

/-- No frame is built from two different flows or two different payloads. -/
theorem udpFrame_inj {headers headers' : UdpHeaders} {payload payload' frame : Octets}
    (h : udpFrame headers payload = .ok frame) (h' : udpFrame headers' payload' = .ok frame) :
    headers = headers' ∧ payload = payload' := by
  have fits := le_of_udpFrame_eq_ok h
  have fits' := le_of_udpFrame_eq_ok h'
  rw [udpFrame_of_le headers fits, ← h', udpFrame_of_le headers' fits', Except.ok.injEq] at h
  have destination : headers.destinationMac = headers'.destinationMac :=
    Mac.toOctets_inj (congrArg (List.take 6) h)
  have source : headers.sourceMac = headers'.sourceMac :=
    Mac.toOctets_inj (congrArg (fun frame => (List.drop 6 frame).take 6) h)
  have payloads : payload = payload' := congrArg (List.drop 42) h
  have summaries := congrArg FrameSummary.ofFrame h
  rw [FrameSummary.ofFrame_datagram headers fits, FrameSummary.ofFrame_datagram headers' fits']
    at summaries
  simp only [FrameSummary.mk.injEq, Option.some.injEq, Ipv4Summary.mk.injEq, UdpSummary.mk.injEq]
    at summaries
  obtain ⟨-, -, ⟨sourceIp, destinationIp, ttl, -⟩, sourcePort, destinationPort, -⟩ := summaries
  cases headers
  cases headers'
  simp only at destination source sourceIp destinationIp ttl sourcePort destinationPort
  subst destination source sourceIp destinationIp ttl sourcePort destinationPort
  exact ⟨rfl, payloads⟩

/-- Every payload up to 65507 octets is built into a frame that says, layer by layer, what it was
built from, with both checksums right, and that no other headers or payload are built into.  A
longer payload is refused. -/
theorem udpFrame_inspection (headers : UdpHeaders) (payload : Octets) :
    (payload.length ≤ 65507 → ∃ frame ip udp,
      udpFrame headers payload = .ok frame ∧
      frame.length = 42 + payload.length ∧
      frame.take 6 = headers.destinationMac.toOctets ∧
      (frame.drop 6).take 6 = headers.sourceMac.toOctets ∧
      frame.drop 42 = payload ∧
      FrameSummary.ofFrame frame = ⟨42 + payload.length, some 0x0800, some ip, some udp⟩ ∧
      (ip.source = headers.sourceIp ∧ ip.destination = headers.destinationIp ∧
        ip.ttl = headers.ttl ∧ ip.protocol = 17 ∧ ip.totalLength.toNat = 28 + payload.length ∧
        ip.checksumOk = true) ∧
      (udp.sourcePort = headers.sourcePort ∧ udp.destinationPort = headers.destinationPort ∧
        udp.length.toNat = 8 + payload.length ∧ udp.checksumOk = true) ∧
      ∀ headers' payload', udpFrame headers' payload' = .ok frame →
        headers' = headers ∧ payload' = payload) ∧
    (65507 < payload.length →
      udpFrame headers payload = .error (.frame (.payloadTooLarge payload.length))) := by
  constructor
  · intro fits
    have built := udpFrame_of_le headers fits
    have summary := FrameSummary.ofFrame_datagram headers fits
    refine ⟨_, _, _, built, Frame.length_ofUdp? (Frame.ofUdp?_of_le headers fits), rfl, rfl, rfl,
      summary, ⟨rfl, rfl, rfl, rfl, ?_, rfl⟩, ⟨rfl, rfl, ?_, rfl⟩, ?_⟩
    · rw [UInt16.toNat_ofNat']
      omega
    · rw [UInt16.toNat_ofNat']
      omega
    · intro headers' payload' same
      exact udpFrame_inj same built
  · intro large
    unfold udpFrame
    rw [Frame.ofUdp?_of_lt headers large]

theorem udpFrame_inspection_oddPayload :
    ∃ frame ip udp, udpFrame Frame.sampleHeaders [1, 2, 3] = .ok frame ∧
      frame.drop 42 = [1, 2, 3] ∧
      FrameSummary.ofFrame frame = ⟨45, some 0x0800, some ip, some udp⟩ ∧
      ip.totalLength.toNat = 31 ∧ udp.length.toNat = 11 ∧
      udpFrame Frame.sampleHeaders (List.replicate 65508 0) =
        .error (.frame (.payloadTooLarge 65508)) := by
  have long : (List.replicate 65508 (0 : UInt8)).length = 65508 := List.length_replicate
  obtain ⟨frame, ip, udp, built, -, -, -, payload, summary, ⟨-, -, -, -, total, -⟩,
    ⟨-, -, length, -⟩, -⟩ :=
    (udpFrame_inspection Frame.sampleHeaders [1, 2, 3]).1 (by decide)
  have refused := (udpFrame_inspection Frame.sampleHeaders (List.replicate 65508 0)).2 (by
    rw [long]
    decide)
  rw [long] at refused
  exact ⟨frame, ip, udp, built, payload, summary, total, length, refused⟩

end FrameReplay
