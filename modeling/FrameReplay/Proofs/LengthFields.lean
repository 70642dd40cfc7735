import FrameReplay.Proofs.Verdicts

/-!
# Verdicts over wrong length fields

A verdict on a checksum says nothing about the length field of its layer.  An IPv4 header that
claims to be shorter than 20 octets is summed up over 20, and a UDP datagram that claims to be
shorter than its own header over the octets that it claims to have.  What a summary calls right lies
inside of the frame all the same (`verdicts_of_lengths`).
-/

namespace FrameReplay

namespace Checksum

/-- A UDP checksum over a segment that ends before its checksum field does.  The stored word counts
beside the octets in front of the field, as far as the segment has them. -/
theorem udp_eq_iff_of_short (source destination : Ipv4) {segment : Octets}
    (short : segment.length < 8) {stored : UInt16} (given : stored ≠ 0) :
    udp source destination segment = stored ↔
      carrySum (pseudoHeader source destination (UInt16.ofNat segment.length) ++ be16 stored ++
        segment.take 6) = 0xFFFF := by
  have length : (UInt16.ofNat segment.length).toNat = segment.length := by
    rw [UInt16.toNat_ofNat']
    omega
  have value := (udp?_eq source destination (show segment.length ≤ 65535 by omega)).2
  have positive := udpSum_pos source destination segment
  have behind : segment.drop 8 = [] := List.drop_eq_nil_of_le (by omega)
  have sum : udpSum source destination segment + stored.toNat =
      pseudoSum source destination segment.length +
        (stored.toNat + wordSum (segment.take 6)) := by
    unfold udpSum
    rw [behind, wordSum]
    omega
  rw [udp_eq, complementSent_eq_iff (by omega) given, carrySum_eq_ones_iff, value,
    List.append_assoc, wordSum_pseudoHeader_append, wordSum_append (by rw [length_be16]),
    wordSum_be16, length, sum]

end Checksum

namespace FrameSummary

open Checksum

/-- A summary calls an IPv4 checksum right only if the header lies inside of the frame and sums to
all ones, and a UDP checksum only if the datagram lies inside of the frame.  A header is taken to be
at least 20 octets long, whatever its length field says, and a datagram to be as long as it says,
even if that is less than its header: then its checksum is right if the field is zero, or if it
completes the sum of the pseudo header and of the octets in front of the field. -/
theorem verdicts_of_lengths (data : Octets) :
    let headerLength := 4 * max ((octetAt data 14).toNat % 16) 5
    let start := 14 + headerLength
    let length := wordAt data (start + 4)
    let stored := wordAt data (start + 6)
    (∀ ip, (ofFrame data).ipv4 = some ip → ip.checksumOk = true →
      start ≤ data.length ∧ carrySum ((data.drop 14).take headerLength) = 0xFFFF) ∧
    ∀ udp, (ofFrame data).udp = some udp →
      udp.length = length ∧
      (udp.checksumOk = true → start + length.toNat ≤ data.length) ∧
      (length.toNat < 8 → (udp.checksumOk = true ↔ stored = 0 ∨
        carrySum (pseudoHeader (addressAt data 26) (addressAt data 30) length ++ be16 stored ++
          (data.drop start).take (min length.toNat 6)) = 0xFFFF)) := by
  intro headerLength start length stored
  have header : FrameSummary.headerLength data = headerLength := by
    unfold FrameSummary.headerLength
    omega
  have begins : transportStart data = start := congrArg (14 + ·) header
  constructor
  · intro ip present ok
    obtain ⟨⟨-, whole⟩, rfl⟩ := ipv4_eq_some_iff.1 present
    have accepted := ((checksumOk_ipv4At_iff_carrySum whole).1 ok).1
    rw [headerOctets, header] at accepted
    exact ⟨begins ▸ whole, accepted⟩
  · intro udp present
    obtain ⟨⟨-, -, whole⟩, rfl⟩ := udp_eq_some_iff.1 present
    have verdict := checksumOk_udpAt_iff begins rfl rfl
    refine ⟨congrArg (wordAt data <| · + 4) begins, fun ok => (verdict.1 ok).1, fun short => ?_⟩
    -- The frame has room for a UDP header, so it has room for less than that.
    have inside : start + length.toNat ≤ data.length := by omega
    have size : ((data.drop start).take length.toNat).length = length.toNat := by
      rw [List.length_take, List.length_drop]
      omega
    rw [verdict, and_iff_right inside]
    by_cases unchecked : stored = 0
    · exact ⟨fun _ => .inl unchecked, fun _ => .inl unchecked⟩
    · rw [udp_eq_iff_of_short _ _ (size.trans_lt short) unchecked, size, UInt16.ofNat_toNat,
        List.take_take, Nat.min_comm]

/-- Both checksums of this frame are called right, although the IPv4 header claims to have no octets
and the UDP datagram claims to end behind its length field. -/
theorem verdicts_vouch_for_short_lengths :
    let data : Octets := List.replicate 12 0 ++ [8, 0] ++
      [0x40, 0, 0, 0x1C, 0, 0, 0, 0, 0x40, 0x11, 0x81, 0xCF, 0x7F, 0, 0, 1, 0x7F, 0, 0, 1] ++
      [0x1F, 0x90, 0x1F, 0x91, 0, 4, 0xC2, 0xC6]
    ∃ ip udp, (ofFrame data).ipv4 = some ip ∧ ip.checksumOk = true ∧
      (octetAt data 14).toNat % 16 = 0 ∧
      (ofFrame data).udp = some udp ∧ udp.checksumOk = true ∧ udp.length = 4 := by
  intro data
  have header : HasIpv4 data := by decide
  have datagram : HasUdp data := by decide
  have ipVerdict := checksumOk_ipv4At_iff_carrySum header.2
  have udpVerdict : (udpAt data).checksumOk = true ↔ _ := checksumOk_udpAt_iff rfl rfl rfl
  refine ⟨ipv4At data, udpAt data, ipv4_eq_some_iff.2 ⟨header, rfl⟩, ipVerdict.2 (by decide),
    by decide, udp_eq_some_iff.2 ⟨datagram, rfl⟩, udpVerdict.2 ⟨by decide, .inr ?_⟩, by decide⟩
  exact (udp_eq_iff_of_short _ _ (by decide) (by decide)).2 (by decide)

end FrameSummary

end FrameReplay
