import FrameReplay.Proofs.Inspection
import FrameReplay.Proofs.Verdicts

/-!
# Corrupted frames

Words that sum to all ones are worth a multiple of 65535.  One wrong octet moves their sum by less
than that, in the high half of a word, in the low half or in front of the padding, and it does move
it.  So no single wrong octet gets past a checksum that covers it (`carrySum_set_ne_ones`), as long
as the checksum is looked for in the same place (`ipv4_rejects_set`, `Checksummed.rejects_set`).
-/

namespace FrameReplay

/-! ## One octet replaced -/

section Replaced

variable {data : Octets} {p : Nat} (octet : UInt8)

theorem octetAt_set_of_ne {i : Nat} (other : i ≠ p) :
    octetAt (data.set p octet) i = octetAt data i := by
  unfold octetAt
  rw [List.getD_eq_getElem?_getD, List.getElem?_set_ne other.symm, ← List.getD_eq_getElem?_getD]

theorem wordAt_set_of_ne {i : Nat} (high : i ≠ p) (low : i + 1 ≠ p) :
    wordAt (data.set p octet) i = wordAt data i := by
  unfold wordAt
  rw [octetAt_set_of_ne octet high, octetAt_set_of_ne octet low]

theorem addressAt_set_of_le {i : Nat} (behind : i + 4 ≤ p) :
    addressAt (data.set p octet) i = addressAt data i := by
  unfold addressAt
  rw [octetAt_set_of_ne octet (by omega), octetAt_set_of_ne octet (by omega),
    octetAt_set_of_ne octet (by omega), octetAt_set_of_ne octet (by omega)]

theorem take_drop_set {start : Nat} (n : Nat) (from_start : start ≤ p) :
    ((data.set p octet).drop start).take n =
      ((data.drop start).take n).set (p - start) octet := by
  rw [List.drop_set, if_neg (by omega), List.take_set]

end Replaced

namespace Checksum

/-- What an octet at place `i` is worth in a sum of words: it is the high half of a word or the
low one. -/
def placeValue (i : Nat) : Nat := if i % 2 = 0 then 256 else 1

theorem wordSum_set {data : Octets} {i : Nat} (octet : UInt8) (inside : i < data.length) :
    wordSum (data.set i octet) + placeValue i * (octetAt data i).toNat =
      wordSum data + placeValue i * octet.toNat := by
  fun_induction wordSum data generalizing i with
  | case1 high low rest ih =>
    cases i with
    | zero =>
      change (word16 octet low).toNat + wordSum rest + 256 * high.toNat = _ + 256 * octet.toNat
      rw [toNat_word16, toNat_word16]
      omega
    | succ i =>
      cases i with
      | zero =>
        change (word16 high octet).toNat + wordSum rest + 1 * low.toNat = _ + 1 * octet.toNat
        rw [toNat_word16, toNat_word16]
        omega
      | succ i =>
        have behind := ih (Nat.lt_of_add_lt_add_right (n := 2) inside)
        have place : placeValue (i + 2) = placeValue i := by
          unfold placeValue
          rw [Nat.add_mod_right]
        change (word16 high low).toNat + wordSum (rest.set i octet) +
          placeValue (i + 2) * (octetAt rest i).toNat = _
        rw [place]
        omega
  | case2 last =>
    obtain rfl : i = 0 := Nat.lt_one_iff.1 inside
    change octet.toNat * 256 + 256 * last.toNat = last.toNat * 256 + 256 * octet.toNat
    omega
  | case3 => cases inside

/-- One wrong octet spoils a sum of all ones. -/
theorem carrySum_set_ne_ones {data : Octets} {i : Nat} {octet : UInt8} (inside : i < data.length)
    (wrong : octet ≠ octetAt data i) (ones : carrySum data = 0xFFFF) :
    carrySum (data.set i octet) ≠ 0xFFFF := by
  have moved := wordSum_set octet inside
  have before := (octetAt data i).toNat_lt
  have after := octet.toNat_lt
  have wrong : octet.toNat ≠ (octetAt data i).toNat := fun same => wrong (UInt8.toNat_inj.1 same)
  rw [carrySum_eq_ones_iff, foldCarries_eq] at ones
  rw [Ne, carrySum_eq_ones_iff, foldCarries_eq]
  -- Both sums would be multiples of 65535, at a distance of at most 255 times 256.
  unfold placeValue at moved
  split at moved <;> split at ones <;> split <;> omega

theorem carrySum_append_set_ne_ones {front data : Octets} {i : Nat} {octet : UInt8}
    (inside : i < data.length) (wrong : octet ≠ octetAt data i)
    (ones : carrySum (front ++ data) = 0xFFFF) : carrySum (front ++ data.set i octet) ≠ 0xFFFF := by
  have place : octetAt (front ++ data) (front.length + i) = octetAt data i := by
    unfold octetAt
    rw [List.getD_append_right _ _ _ _ (Nat.le_add_right _ _), Nat.add_sub_cancel_left]
  have spoiled := carrySum_set_ne_ones (i := front.length + i)
    (by rw [List.length_append]; omega) (place ▸ wrong) ones
  rwa [List.set_append_right _ _ (Nat.le_add_right _ _), Nat.add_sub_cancel_left] at spoiled

end Checksum

/-! ## Verdicts on a frame with a wrong octet -/

namespace FrameSummary

open Checksum

section Wrong

variable {data : Octets} {p start : Nat} {octet : UInt8} {length : UInt16}

theorem transportStart_set (behind : 14 < p) :
    transportStart (data.set p octet) = transportStart data := by
  unfold transportStart headerLength
  rw [octetAt_set_of_ne octet behind.ne]

theorem HasIpv4.set (present : HasIpv4 data) (behind : 14 < p) : HasIpv4 (data.set p octet) := by
  obtain ⟨etherType, whole⟩ := present
  constructor
  · rw [wordAt_set_of_ne octet (by omega) (by omega), etherType]
  · rwa [transportStart_set behind, List.length_set]

theorem HasUdp.set (present : HasUdp data) (behind : transportStart data ≤ p) :
    HasUdp (data.set p octet) := by
  obtain ⟨ip, protocol, room⟩ := present
  have least := le_transportStart data
  refine ⟨ip.set (by omega), ?_, ?_⟩
  · rw [octetAt_set_of_ne octet (by omega), protocol]
  · rwa [transportStart_set (by omega), List.length_set]

theorem ipv4_rejects_set (present : HasIpv4 data) (accepted : (ipv4At data).checksumOk = true)
    (behind : 14 < p) (covered : p < transportStart data) (wrong : octet ≠ octetAt data p) :
    (ipv4At (data.set p octet)).checksumOk = false := by
  have kept : HasIpv4 (data.set p octet) := present.set behind
  have inside : p - 14 < headerLength data := by
    unfold transportStart at covered
    omega
  -- The octet that gives the length of the header is not the wrong one, so the header is cut alike.
  have replaced : headerOctets (data.set p octet) = (headerOctets data).set (p - 14) octet := by
    unfold headerOctets headerLength
    rw [octetAt_set_of_ne octet behind.ne, take_drop_set octet _ (by omega)]
  have place : octetAt (headerOctets data) (p - 14) = octetAt data p := by
    unfold headerOctets
    rw [octetAt_take_drop _ _ inside, Nat.add_sub_cancel' (by omega)]
  have ones := ((checksumOk_ipv4At_iff_carrySum present.2).1 accepted).1
  have spoiled : carrySum ((headerOctets data).set (p - 14) octet) ≠ 0xFFFF :=
    carrySum_set_ne_ones (by rwa [length_headerOctets present.2]) (place ▸ wrong) ones
  rw [Bool.eq_false_iff]
  intro ok
  have sums := ((checksumOk_ipv4At_iff_carrySum kept.2).1 ok).1
  rw [replaced] at sums
  exact spoiled sums

/-- A UDP segment of `length` octets, its own header among them, begins at `start` and comes with a
checksum. -/
structure Checksummed (data : Octets) (start : Nat) (length : UInt16) : Prop where
  begins : transportStart data = start
  field : wordAt data (start + 4) = length
  covers : 8 ≤ length.toNat
  given : wordAt data (start + 6) ≠ 0

theorem Checksummed.ok_iff (segment : Checksummed data start length) :
    (udpAt data).checksumOk = true ↔ start + length.toNat ≤ data.length ∧
      carrySum (pseudoHeader (addressAt data 26) (addressAt data 30) length ++
        (data.drop start).take length.toNat) = 0xFFFF := by
  obtain ⟨begins, field, covers, given⟩ := segment
  rw [checksumOk_udpAt_iff begins (congrArg UInt16.toNat field) rfl]
  refine and_congr_right fun whole => ?_
  exact (or_iff_right given).trans (udp_segment_eq_iff _ _ covers whole given)

theorem Checksummed.set (segment : Checksummed data start length) (behind : start ≤ p)
    (apart : p < start + 4 ∨ start + 8 ≤ p) : Checksummed (data.set p octet) start length := by
  obtain ⟨begins, field, covers, given⟩ := segment
  have least := le_transportStart data
  refine ⟨?_, ?_, covers, ?_⟩
  · rw [transportStart_set (by omega), begins]
  · rw [wordAt_set_of_ne octet (by omega) (by omega), field]
  · rwa [wordAt_set_of_ne octet (by omega) (by omega)]

theorem Checksummed.rejects_set (segment : Checksummed data start length)
    (accepted : (udpAt data).checksumOk = true) (behind : start ≤ p)
    (covered : p < start + length.toNat) (apart : p < start + 4 ∨ start + 8 ≤ p)
    (wrong : octet ≠ octetAt data p) : (udpAt (data.set p octet)).checksumOk = false := by
  have least := le_transportStart data
  rw [segment.begins] at least
  obtain ⟨whole, ones⟩ := segment.ok_iff.1 accepted
  have place : octetAt ((data.drop start).take length.toNat) (p - start) = octetAt data p := by
    rw [octetAt_take_drop _ _ (by omega), Nat.add_sub_cancel' behind]
  have inside : p - start < ((data.drop start).take length.toNat).length := by
    rw [List.length_take, List.length_drop]
    omega
  have spoiled := carrySum_append_set_ne_ones inside (place ▸ wrong) ones
  rw [Bool.eq_false_iff]
  intro ok
  -- Neither the addresses nor the length are touched, so the pseudo header is the same.
  have sums := ((segment.set behind apart).ok_iff.1 ok).2
  rw [addressAt_set_of_le octet (by omega), addressAt_set_of_le octet (by omega),
    take_drop_set octet _ behind] at sums
  exact spoiled sums

theorem checksumsOk_of_ipv4_wrong {ip : Ipv4Summary} (present : (ofFrame data).ipv4 = some ip)
    (wrong : ip.checksumOk = false) : (ofFrame data).checksumsOk = false := by
  unfold checksumsOk
  rw [present, Option.all_some, wrong, Bool.false_and]

theorem checksumsOk_of_udp_wrong {udp : UdpSummary} (present : (ofFrame data).udp = some udp)
    (wrong : udp.checksumOk = false) : (ofFrame data).checksumsOk = false := by
  unfold checksumsOk
  rw [present, Option.all_some, wrong, Bool.and_false]

end Wrong

end FrameSummary

/-! ## Frames as they are built -/

namespace FrameSummary

open FrameReplay.Frame

/-- Both layers of a built frame stand in their usual places with their checksums right. -/
theorem covered_datagram (headers : UdpHeaders) {payload frame : Octets}
    (fits : payload.length ≤ maxUdpPayload)
    (built : ethernetHeader headers ++ (packetHeader headers payload ++ datagram headers payload) =
      frame) :
    (HasIpv4 frame ∧ (ipv4At frame).checksumOk = true) ∧
    (HasUdp frame ∧ (udpAt frame).checksumOk = true) ∧
    Checksummed frame 34 (UInt16.ofNat (8 + payload.length)) := by
  have summary := ofFrame_datagram headers fits
  rw [built] at summary
  obtain ⟨ip, ip_read⟩ := ipv4_eq_some_iff.1 (congrArg FrameSummary.ipv4 summary)
  obtain ⟨udp, udp_read⟩ := udp_eq_some_iff.1 (congrArg FrameSummary.udp summary)
  refine ⟨⟨ip, ?_⟩, ⟨udp, ?_⟩, ?_, ?_, ?_, ?_⟩
  · rw [← ip_read]
  · rw [← udp_read]
  · have first : octetAt frame 14 = 0x45 := by
      rw [← built]
      rfl
    unfold transportStart headerLength
    rw [first]
    rfl
  · rw [← built]
    exact word16_be16 _
  · unfold maxUdpPayload at fits
    rw [UInt16.toNat_ofNat']
    omega
  · have stored : wordAt frame 40 = Checksum.udp headers.sourceIp headers.destinationIp
        (udpHeader headers (UInt16.ofNat (8 + payload.length)) 0 ++ payload) := by
      rw [← built]
      exact word16_be16 _
    rw [stored, Checksum.udp_eq]
    exact Checksum.complementSent_ne_zero _

end FrameSummary

open FrameSummary in
/-- Every octet of the IPv4 header of a built frame but the first, every octet of its UDP ports and
every octet of its payload is covered by a checksum: replaced by any other octet, it makes that
checksum come out wrong. -/
theorem udpFrame_corruption_detected (headers : UdpHeaders) {payload : Octets}
    (fits : payload.length ≤ 65507) :
    ∃ frame, udpFrame headers payload = .ok frame ∧ frame.length = 42 + payload.length ∧
      ∀ (p : Nat) (octet : UInt8), frame[p]? ≠ some octet →
        let summary := ofFrame (frame.set p octet)
        (15 ≤ p ∧ p < 38 ∨ 42 ≤ p ∧ p < frame.length → summary.checksumsOk = false) ∧
        (15 ≤ p ∧ p < 34 → ∃ ip, summary.ipv4 = some ip ∧ ip.checksumOk = false) ∧
        (34 ≤ p ∧ p < 38 ∨ 42 ≤ p ∧ p < frame.length →
          ∃ udp, summary.udp = some udp ∧ udp.checksumOk = false) := by
  have made := udpFrame_of_le headers fits
  obtain ⟨frame, built⟩ : ∃ frame, Frame.ethernetHeader headers ++
    (Frame.packetHeader headers payload ++ Frame.datagram headers payload) = frame := ⟨_, rfl⟩
  have size : frame.length = 42 + payload.length :=
    built ▸ Frame.length_ofUdp? (Frame.ofUdp?_of_le headers fits)
  obtain ⟨⟨ip, ip_ok⟩, ⟨udp, udp_ok⟩, segment⟩ := covered_datagram headers fits built
  rw [built] at made
  refine ⟨frame, made, size, fun p octet different => ?_⟩
  intro summary
  have covers : (UInt16.ofNat (8 + payload.length)).toNat = 8 + payload.length := by
    rw [UInt16.toNat_ofNat']
    omega
  have wrong (inside : p < frame.length) : octet ≠ octetAt frame p := by
    intro same
    apply different
    rw [same, octetAt, List.getD_eq_getElem _ _ inside, List.getElem?_eq_getElem inside]
  have in_header (covered : 15 ≤ p ∧ p < 34) :
      ∃ ip, summary.ipv4 = some ip ∧ ip.checksumOk = false := by
    have least := le_transportStart frame
    have rejects := ipv4_rejects_set ip ip_ok (by omega) (by omega) (wrong (by omega))
    exact ⟨_, ipv4_eq_some_iff.2 ⟨ip.set (by omega), rfl⟩, rejects⟩
  have in_segment (covered : 34 ≤ p ∧ p < 38 ∨ 42 ≤ p ∧ p < frame.length) :
      ∃ udp, summary.udp = some udp ∧ udp.checksumOk = false := by
    have begins := segment.begins
    have rejects := segment.rejects_set udp_ok (by omega) (by omega) (by omega) (wrong (by omega))
    exact ⟨_, udp_eq_some_iff.2 ⟨udp.set (by omega), rfl⟩, rejects⟩
  refine ⟨fun covered => ?_, in_header, in_segment⟩
  -- One wrong layer is enough, whatever became of the other.
  by_cases header : 15 ≤ p ∧ p < 34
  · obtain ⟨ip, present, bad⟩ := in_header header
    exact checksumsOk_of_ipv4_wrong present bad
  · obtain ⟨udp, present, bad⟩ := in_segment (by omega)
    exact checksumsOk_of_udp_wrong present bad

/-- The last octet of an odd payload, and the protocol, which hides the UDP layer. -/
theorem udpFrame_corruption_detected_tailAndProtocol :
    ∃ frame, udpFrame Frame.sampleHeaders [1, 2, 3] = .ok frame ∧
      frame[44]? = some 3 ∧ (FrameSummary.ofFrame (frame.set 44 4)).checksumsOk = false ∧
      frame[23]? = some 17 ∧ (FrameSummary.ofFrame (frame.set 23 6)).checksumsOk = false := by
  have fits : ([1, 2, 3] : Octets).length ≤ 65507 := by decide
  obtain ⟨frame, built, size, detects⟩ := udpFrame_corruption_detected Frame.sampleHeaders fits
  have same := (udpFrame_of_le Frame.sampleHeaders fits).symm.trans built
  have tail : frame[44]? = some 3 := by
    cases same
    rfl
  have protocol : frame[23]? = some 17 := by
    cases same
    rfl
  have inside : 42 ≤ 44 ∧ 44 < frame.length := by
    rw [size]
    decide
  have header : 15 ≤ 23 ∧ 23 < 38 := by decide
  have differ_tail : frame[44]? ≠ some 4 := by
    rw [tail]
    decide
  have differ_protocol : frame[23]? ≠ some 6 := by
    rw [protocol]
    decide
  exact ⟨frame, built, tail, (detects 44 4 differ_tail).1 (.inr inside), protocol,
    (detects 23 6 differ_protocol).1 (.inl header)⟩

end FrameReplay
