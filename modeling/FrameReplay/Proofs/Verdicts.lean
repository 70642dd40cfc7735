import FrameReplay.Proofs.HeaderFields
import FrameReplay.Proofs.OnesComplement

/-!
# Verdicts on checksums

A receiver adds up all 16-bit words that a checksum covers, the stored checksum among them, and
accepts all ones.  A summary computes the checksum anew and compares.  For UDP both come to the same
(`udp_verdict_iff`), since a sum of zero is sent as all ones.  For IPv4 they do unless the field
holds all ones behind words that sum to all ones already (`ipv4_verdict_iff`).
-/

namespace FrameReplay

theorem be16_word16 (high low : UInt8) : be16 (word16 high low) = [high, low] := by
  have := high.toNat_lt
  have := low.toNat_lt
  unfold be16
  rw [toNat_word16, List.cons.injEq, List.cons.injEq, ← UInt8.toNat_inj, ← UInt8.toNat_inj,
    UInt8.toNat_ofNat', UInt8.toNat_ofNat']
  exact ⟨by omega, by omega, rfl⟩

namespace Checksum

/-- Writing a word where it stands already changes nothing. -/
theorem putWord_wordAt {data : Octets} {offset : Nat} (inside : offset + 2 ≤ data.length) :
    putWord data offset (wordAt data offset) = data := by
  have word : be16 (wordAt data offset) = (data.drop offset).take 2 := by
    rw [take_drop_eq_map inside]
    exact be16_word16 _ _
  unfold putWord
  rw [word, List.append_assoc, ← List.drop_drop, List.take_append_drop, List.take_append_drop]

/-- All ones stand for zero, so they do not spoil a sum that is all ones. -/
theorem carrySum_putWord_ones {data : Octets} {offset : Nat} (even : offset % 2 = 0)
    (inside : offset ≤ data.length) (h : carrySum (putWord data offset 0) = 0xFFFF) :
    carrySum (putWord data offset 0xFFFF) = 0xFFFF := by
  have zero : (0 : UInt16).toNat = 0 := rfl
  have ones : (0xFFFF : UInt16).toNat = 65535 := rfl
  rw [carrySum_eq_ones_iff, wordSum_putWord even inside, foldCarries_eq] at h ⊢
  split at h <;> split <;> omega

end Checksum

namespace FrameSummary

open Checksum

/-! ## IPv4 -/

theorem wordAt_headerOctets {data : Octets} : wordAt (headerOctets data) 10 = wordAt data 24 := by
  have ⟨least, _⟩ := headerLength_bounds data
  unfold wordAt headerOctets
  rw [octetAt_take_drop _ _ (by omega), octetAt_take_drop _ _ (by omega)]

theorem checksumOk_ipv4At_iff_carrySum {data : Octets}
    (whole : transportStart data ≤ data.length) :
    (ipv4At data).checksumOk = true ↔ carrySum (headerOctets data) = 0xFFFF ∧
      ¬ (wordAt data 24 = 0xFFFF ∧ carrySum (putWord (headerOctets data) 10 0) = 0xFFFF) := by
  have length := length_headerOctets whole
  have ⟨least, most⟩ := headerLength_bounds data
  rw [checksumOk_ipv4At_iff, ipv4_eq_iff (by omega) (by omega), ← wordAt_headerOctets,
    putWord_wordAt (by omega)]

/-- The exception is one: there a receiver accepts. -/
theorem carrySum_headerOctets_of_ones {data : Octets} (whole : transportStart data ≤ data.length)
    (ones : wordAt data 24 = 0xFFFF)
    (others : carrySum (putWord (headerOctets data) 10 0) = 0xFFFF) :
    carrySum (headerOctets data) = 0xFFFF := by
  have length := length_headerOctets whole
  have ⟨least, _⟩ := headerLength_bounds data
  have filled := carrySum_putWord_ones rfl (by omega) others
  have same := putWord_wordAt (show 10 + 2 ≤ (headerOctets data).length by omega)
  rw [wordAt_headerOctets, ones] at same
  rw [same] at filled
  exact filled

/-- A header that a summary calls right is one that a receiver accepts.  The two agree on all
headers but those whose checksum field holds all ones while the other words sum to all ones, which
a receiver accepts as well. -/
theorem ipv4_verdict_iff {data : Octets} {ip : Ipv4Summary}
    (present : (ofFrame data).ipv4 = some ip) :
    let header := (data.drop 14).take (max ((octetAt data 14).toNat % 16 * 4) 20)
    let accepted := carrySum header = 0xFFFF
    let exception := wordAt data 24 = 0xFFFF ∧ carrySum (putWord header 10 0) = 0xFFFF
    (ip.checksumOk = true → accepted) ∧ ((ip.checksumOk = true ↔ accepted) ↔ ¬ exception) := by
  intro header accepted exception
  obtain ⟨⟨-, whole⟩, rfl⟩ := ipv4_eq_some_iff.1 present
  have verdict : (ipv4At data).checksumOk = true ↔ accepted ∧ ¬ exception :=
    checksumOk_ipv4At_iff_carrySum whole
  have accepts : exception → accepted := fun ⟨ones, others⟩ =>
    carrySum_headerOctets_of_ones whole ones others
  constructor
  · intro ok
    exact (verdict.1 ok).1
  · constructor
    · intro agree exceptional
      exact (verdict.1 (agree.2 (accepts exceptional))).2 exceptional
    · intro regular
      exact ⟨fun ok => (verdict.1 ok).1, fun sums => verdict.2 ⟨sums, regular⟩⟩

/-- Ones over a header of zeros, which is not the exception. -/
theorem ipv4_verdict_iff_zeroHeader :
    let data : Octets :=
      List.replicate 12 0 ++ [8, 0] ++ List.replicate 10 0 ++ [0xFF, 0xFF] ++ List.replicate 8 0
    (ofFrame data).ipv4 = some (ipv4At data) ∧ (ipv4At data).checksumOk = true ∧
      wordAt data 24 = 0xFFFF := by
  intro data
  have present : (ofFrame data).ipv4 = some (ipv4At data) :=
    ipv4_eq_some_iff.2 ⟨by decide, rfl⟩
  obtain ⟨-, agree⟩ := ipv4_verdict_iff present
  exact ⟨present, (agree.2 (by decide)).2 (by decide), by decide⟩

/-- A header that a receiver accepts and a summary calls wrong: the words besides the checksum sum
to all ones, and the field holds all ones too. -/
theorem ipv4_verdict_differs :
    let data : Octets := List.replicate 12 0 ++ [8, 0] ++ [0x45, 0, 0, 0x14, 0x7C, 0xD7, 0, 0,
      0x40, 0x11, 0xFF, 0xFF, 0x7F, 0, 0, 1, 0x7F, 0, 0, 1]
    ∃ ip, (ofFrame data).ipv4 = some ip ∧ ip.checksumOk = false ∧
      carrySum ((data.drop 14).take (max ((octetAt data 14).toNat % 16 * 4) 20)) = 0xFFFF := by
  intro data
  have present : HasIpv4 data := by decide
  have verdict := checksumOk_ipv4At_iff_carrySum present.2
  refine ⟨ipv4At data, ipv4_eq_some_iff.2 ⟨present, rfl⟩, ?_, by decide⟩
  rw [Bool.eq_false_iff]
  intro ok
  exact (verdict.1 ok).2 (by decide)

/-! ## UDP -/

/-- A stored UDP checksum is the one computed anew exactly if a receiver accepts the segment. -/
theorem udp_segment_eq_iff (source destination : Ipv4) {data : Octets} {start : Nat}
    {length : UInt16} (covers : 8 ≤ length.toNat) (whole : start + length.toNat ≤ data.length)
    (given : wordAt data (start + 6) ≠ 0) :
    let segment := (data.drop start).take length.toNat
    Checksum.udp source destination segment = wordAt data (start + 6) ↔
      carrySum (pseudoHeader source destination length ++ segment) = 0xFFFF := by
  intro segment
  have size : segment.length = length.toNat := by
    rw [List.length_take, List.length_drop]
    omega
  have field : wordAt segment 6 = wordAt data (start + 6) := by
    unfold wordAt
    rw [octetAt_take_drop _ _ (by omega), octetAt_take_drop _ _ (by omega)]
  have described : UInt16.ofNat segment.length = length := by
    rw [size, UInt16.ofNat_toNat]
  have short := length.toNat_lt
  rw [udp_eq_iff source destination (by omega) (by omega) given, described, ← field,
    putWord_wordAt (by omega)]

/-- A UDP checksum is found right exactly if the whole segment is there and either its checksum
field is zero or a receiver accepts it: the pseudo header and the segment, the stored checksum among
them, sum to all ones. -/
theorem udp_verdict_iff {data : Octets} {udp : UdpSummary}
    (present : (ofFrame data).udp = some udp) (covers : 8 ≤ udp.length.toNat) :
    let start := 14 + max ((octetAt data 14).toNat % 16 * 4) 20
    let segment := (data.drop start).take udp.length.toNat
    udp.length = wordAt data (start + 4) ∧
    (udp.checksumOk = true ↔ start + udp.length.toNat ≤ data.length ∧
      (wordAt data (start + 6) = 0 ∨
        carrySum (pseudoHeader (addressAt data 26) (addressAt data 30) udp.length ++ segment) =
          0xFFFF)) := by
  intro start segment
  obtain ⟨-, rfl⟩ := udp_eq_some_iff.1 present
  refine ⟨rfl, (checksumOk_udpAt_iff rfl rfl rfl).trans (and_congr_right fun whole => ?_)⟩
  by_cases unchecked : wordAt data (start + 6) = 0
  · exact ⟨fun _ => .inl unchecked, fun _ => .inl unchecked⟩
  · exact or_congr_right (udp_segment_eq_iff _ _ covers whole unchecked)

/-- A segment of odd length behind IPv4 options and in front of padding, whose sum comes out zero
and is sent as all ones. -/
theorem udp_verdict_iff_zeroSum :
    let data : Octets := List.replicate 12 0 ++ [8, 0] ++
      [0x46, 0, 0, 0x21, 0, 0, 0, 0, 0x40, 0x11, 0x63, 0xC9, 10, 0, 0, 1, 10, 0, 0, 2, 1, 1, 1, 0] ++
      [4, 0xD2, 0xE2, 7, 0, 9, 0xFF, 0xFF, 5] ++ [0xAA, 0xBB]
    (ofFrame data).udp = some (udpAt data) ∧ (udpAt data).length = 9 ∧
      (udpAt data).checksumOk = true := by
  intro data
  have present : (ofFrame data).udp = some (udpAt data) :=
    udp_eq_some_iff.2 ⟨by decide, rfl⟩
  obtain ⟨-, verdict⟩ := udp_verdict_iff present (by decide)
  exact ⟨present, by decide, verdict.2 (by decide)⟩

end FrameSummary

end FrameReplay
