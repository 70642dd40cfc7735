import FrameReplay.Frame.Summary
import Mathlib.Data.List.GetD
import Mathlib.Tactic

/-!
# Where the fields of a frame stand

The reader of headers takes a frame apart slice by slice.  This file says what comes of it by place:
which octets every field is read from, and how long a frame has to be for each layer to be there
(`ofFrame_eq`).  Proofs about summaries use that and open none of the readers.
-/

namespace FrameReplay

/-! ## Octets by place -/

/-- The octet at place `i`, or zero behind the end. -/
def octetAt (data : Octets) (i : Nat) : UInt8 := data.getD i 0

/-- The 16-bit word whose octets stand at `i` and `i + 1`. -/
def wordAt (data : Octets) (i : Nat) : UInt16 := word16 (octetAt data i) (octetAt data (i + 1))

/-- The address whose octets stand from `i` on. -/
def addressAt (data : Octets) (i : Nat) : Ipv4 :=
  ⟨octetAt data i, octetAt data (i + 1), octetAt data (i + 2), octetAt data (i + 3)⟩

/-- A piece of a frame, octet by octet. -/
theorem take_drop_eq_map {data : Octets} {start n : Nat} (h : start + n ≤ data.length) :
    (data.drop start).take n = (List.range n).map fun i => octetAt data (start + i) := by
  apply List.ext_getElem
  · rw [List.length_take, List.length_drop, List.length_map, List.length_range]
    omega
  · intro i hi _
    rw [List.length_take] at hi
    rw [List.getElem_take, List.getElem_drop, List.getElem_map, List.getElem_range, octetAt,
      List.getD_eq_getElem _ _ (by omega)]

theorem octetAt_take_drop (data : Octets) (start : Nat) {n i : Nat} (h : i < n) :
    octetAt ((data.drop start).take n) i = octetAt data (start + i) := by
  unfold octetAt
  rw [List.getD_eq_getElem?_getD, List.getD_eq_getElem?_getD, List.getElem?_take_of_lt h,
    List.getElem?_drop]

theorem slice?_of_le {data : Octets} {start n : Nat} (h : start + n ≤ data.length) :
    slice? data start (start + n) = some ((data.drop start).take n) := by
  unfold slice?
  rw [if_pos ⟨Nat.le_add_right _ _, h⟩, Nat.add_sub_cancel_left]

theorem slice?_of_lt {data : Octets} {start stop : Nat} (h : data.length < stop) :
    slice? data start stop = none := if_neg (by omega)

namespace FrameSummary

/-! ## Layer by layer -/

theorem readEtherType?_eq (data : Octets) :
    readEtherType? data = if 14 ≤ data.length then some (wordAt data 12) else none := by
  unfold readEtherType?
  split_ifs with long
  · rw [show (14 : Nat) = 0 + 14 from rfl, slice?_of_le (by omega), take_drop_eq_map (by omega)]
    rfl
  · rw [slice?_of_lt (by omega)]

/-- Octets of the IPv4 header, at least 20 whatever its length field says. -/
def headerLength (data : Octets) : Nat := max ((octetAt data 14).toNat % 16 * 4) 20

/-- The IPv4 header of a frame, options included. -/
def headerOctets (data : Octets) : Octets := (data.drop 14).take (headerLength data)

/-- Where the IPv4 header ends and the transport layer begins. -/
def transportStart (data : Octets) : Nat := 14 + headerLength data

theorem headerLength_bounds (data : Octets) : 20 ≤ headerLength data ∧ headerLength data ≤ 60 := by
  unfold headerLength
  omega

theorem le_transportStart (data : Octets) : 34 ≤ transportStart data :=
  Nat.add_le_add_left (headerLength_bounds data).1 14

theorem length_headerOctets {data : Octets} (whole : transportStart data ≤ data.length) :
    (headerOctets data).length = headerLength data := by
  unfold headerOctets transportStart at *
  rw [List.length_take, List.length_drop]
  omega

theorem ipv4Header?_eq (data : Octets) :
    ipv4Header? data =
      if transportStart data ≤ data.length then some (headerOctets data) else none := by
  have least := le_transportStart data
  unfold ipv4Header?
  by_cases long : 34 ≤ data.length
  · rw [show (34 : Nat) = 14 + 20 from rfl, slice?_of_le (by omega), take_drop_eq_map (by omega)]
    change slice? data 14 (14 + headerLength data) = _
    split_ifs with whole
    · exact slice?_of_le whole
    · exact slice?_of_lt (Nat.lt_of_not_le whole)
  · rw [slice?_of_lt (by omega), if_neg (by omega)]
    rfl

/-- The reader looks at the first twenty octets, and the checksum at all. -/
theorem readIpv4?_map_append (f : Nat → UInt8) (rest : Octets) :
    readIpv4? ((List.range 20).map f ++ rest) = some {
      source := ⟨f 12, f 13, f 14, f 15⟩
      destination := ⟨f 16, f 17, f 18, f 19⟩
      ttl := f 8
      protocol := f 9
      totalLength := word16 (f 2) (f 3)
      checksumOk := Checksum.ipv4 ((List.range 20).map f ++ rest) == word16 (f 10) (f 11) } := rfl

/-- What the IPv4 layer of a frame says, if there is one. -/
def ipv4At (data : Octets) : Ipv4Summary where
  source := addressAt data 26
  destination := addressAt data 30
  ttl := octetAt data 22
  protocol := octetAt data 23
  totalLength := wordAt data 16
  checksumOk := Checksum.ipv4 (headerOctets data) == wordAt data 24

theorem readIpv4?_headerOctets {data : Octets} (whole : transportStart data ≤ data.length) :
    readIpv4? (headerOctets data) = some (ipv4At data) := by
  have ⟨least, _⟩ := headerLength_bounds data
  have front : (headerOctets data).take 20 =
      (List.range 20).map fun i => octetAt data (14 + i) := by
    unfold headerOctets transportStart at *
    rw [List.take_take, Nat.min_eq_left least, take_drop_eq_map (by omega)]
  have read := readIpv4?_map_append (fun i => octetAt data (14 + i)) ((headerOctets data).drop 20)
  rw [← front, List.take_append_drop] at read
  exact read

/-- What the UDP layer of a frame says, if there is one. -/
def udpAt (data : Octets) : UdpSummary :=
  let start := transportStart data
  let length := wordAt data (start + 4)
  let stored := wordAt data (start + 6)
  { sourcePort := wordAt data start
    destinationPort := wordAt data (start + 2)
    length
    checksumOk :=
      match slice? data start (start + length.toNat) with
      | some segment =>
        stored == 0 || Checksum.udp (addressAt data 26) (addressAt data 30) segment == stored
      | none => false }

theorem readUdp?_eq (data : Octets) :
    readUdp? data (transportStart data) (ipv4At data) =
      if transportStart data + 8 ≤ data.length then some (udpAt data) else none := by
  unfold readUdp?
  split_ifs with long
  · rw [slice?_of_le long, take_drop_eq_map long]
    rfl
  · rw [slice?_of_lt (by omega)]

/-- Whether a frame has an IPv4 layer. -/
def HasIpv4 (data : Octets) : Prop :=
  wordAt data 12 = Frame.etherTypeIpv4 ∧ transportStart data ≤ data.length

/-- Whether a frame has a UDP layer. -/
def HasUdp (data : Octets) : Prop :=
  HasIpv4 data ∧ octetAt data 23 = Checksum.udpProtocol ∧ transportStart data + 8 ≤ data.length

instance (data : Octets) : Decidable (HasIpv4 data) := inferInstanceAs (Decidable (_ ∧ _))

instance (data : Octets) : Decidable (HasUdp data) := inferInstanceAs (Decidable (_ ∧ _))

theorem header?_eq (data : Octets) :
    (if readEtherType? data = some Frame.etherTypeIpv4 then ipv4Header? data else none) =
      if HasIpv4 data then some (headerOctets data) else none := by
  have least := le_transportStart data
  rw [readEtherType?_eq, ipv4Header?_eq]
  unfold HasIpv4
  by_cases long : 14 ≤ data.length
  · by_cases ip : wordAt data 12 = Frame.etherTypeIpv4
    · simp only [long, ip, if_true, true_and]
    · simp only [long, ip, if_true, Option.some.injEq, if_false, false_and]
  · have short : ¬ transportStart data ≤ data.length := by omega
    simp only [long, short, if_false, reduceCtorEq, and_false]

/-- The whole summary by place. -/
theorem ofFrame_eq (data : Octets) : ofFrame data = {
    length := data.length
    etherType := if 14 ≤ data.length then some (wordAt data 12) else none
    ipv4 := if HasIpv4 data then some (ipv4At data) else none
    udp := if HasUdp data then some (udpAt data) else none } := by
  unfold ofFrame
  simp only [header?_eq]
  rw [readEtherType?_eq]
  -- Without an IPv4 layer there is none behind it; with one, its header ends where UDP begins.
  by_cases ip : HasIpv4 data
  · have whole := ip.2
    have ends : 14 + (headerOctets data).length = transportStart data :=
      congrArg (14 + ·) (length_headerOctets whole)
    have protocol : (ipv4At data).protocol = octetAt data 23 := rfl
    simp only [ip, if_true, Option.bind_some, readIpv4?_headerOctets whole, ends, readUdp?_eq,
      protocol, HasUdp, true_and, ite_and]
  · have udp : ¬ HasUdp data := fun udp => ip udp.1
    simp only [ip, udp, if_false, Option.bind_none]

theorem etherType_eq_some_iff {data : Octets} {type : UInt16} :
    (ofFrame data).etherType = some type ↔ 14 ≤ data.length ∧ type = wordAt data 12 := by
  rw [ofFrame_eq]
  by_cases long : 14 ≤ data.length
  · simp only [long, if_true, true_and, Option.some.injEq, eq_comm]
  · simp only [long, if_false, false_and, reduceCtorEq]

theorem ipv4_eq_some_iff {data : Octets} {ip : Ipv4Summary} :
    (ofFrame data).ipv4 = some ip ↔ HasIpv4 data ∧ ip = ipv4At data := by
  rw [ofFrame_eq]
  by_cases ip : HasIpv4 data
  · simp only [ip, if_true, true_and, Option.some.injEq, eq_comm]
  · simp only [ip, if_false, false_and, reduceCtorEq]

theorem udp_eq_some_iff {data : Octets} {udp : UdpSummary} :
    (ofFrame data).udp = some udp ↔ HasUdp data ∧ udp = udpAt data := by
  rw [ofFrame_eq]
  by_cases udp : HasUdp data
  · simp only [udp, if_true, true_and, Option.some.injEq, eq_comm]
  · simp only [udp, if_false, false_and, reduceCtorEq]

theorem checksumOk_ipv4At_iff (data : Octets) :
    (ipv4At data).checksumOk = true ↔ Checksum.ipv4 (headerOctets data) = wordAt data 24 :=
  beq_iff_eq

theorem checksumOk_udpAt_iff {data : Octets} {start length : Nat} {stored : UInt16}
    (begins : transportStart data = start) (covers : (wordAt data (start + 4)).toNat = length)
    (field : wordAt data (start + 6) = stored) :
    (udpAt data).checksumOk = true ↔ start + length ≤ data.length ∧ (stored = 0 ∨
      Checksum.udp (addressAt data 26) (addressAt data 30) ((data.drop start).take length) =
        stored) := by
  subst begins covers field
  unfold udpAt
  by_cases whole : transportStart data + (wordAt data (transportStart data + 4)).toNat ≤ data.length
  · simp only [slice?_of_le whole, whole, true_and, Bool.or_eq_true, beq_iff_eq]
  · simp only [slice?_of_lt (Nat.lt_of_not_le whole), whole, false_and, Bool.false_eq_true]

end FrameSummary
end FrameReplay
