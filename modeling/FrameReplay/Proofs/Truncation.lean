import FrameReplay.Proofs.HeaderFields

/-!
# Truncated and padded frames

Whatever a summary says of a frame it has read from a prefix of it.  More octets behind that prefix
bring further layers, but they change none that is there already, with one exception: the
verdict on a UDP segment is bad news until the segment is all there.  So a summary of a prefix is
the summary of the whole as far as it goes (`ofFrame_take`).
-/

namespace FrameReplay

/-! ## Octets in front -/

section Front

variable {front : Octets} (rest : Octets)

theorem octetAt_append {i : Nat} (inside : i < front.length) :
    octetAt (front ++ rest) i = octetAt front i := List.getD_append _ _ _ _ inside

theorem wordAt_append {i : Nat} (inside : i + 1 < front.length) :
    wordAt (front ++ rest) i = wordAt front i := by
  unfold wordAt
  rw [octetAt_append rest (by omega), octetAt_append rest inside]

theorem addressAt_append {i : Nat} (inside : i + 3 < front.length) :
    addressAt (front ++ rest) i = addressAt front i := by
  unfold addressAt
  rw [octetAt_append rest (by omega), octetAt_append rest (by omega),
    octetAt_append rest (by omega), octetAt_append rest inside]

theorem take_drop_append {start n : Nat} (inside : start + n ≤ front.length) :
    ((front ++ rest).drop start).take n = (front.drop start).take n := by
  have enough : n ≤ (front.drop start).length := by
    rw [List.length_drop]
    omega
  rw [List.drop_append_of_le_length (by omega), List.take_append_of_le_length enough]

end Front

namespace FrameSummary

/-! ## Layers in front -/

section Layers

variable {front : Octets} (rest : Octets)

theorem transportStart_append (long : 14 < front.length) :
    transportStart (front ++ rest) = transportStart front := by
  unfold transportStart headerLength
  rw [octetAt_append rest long]

theorem ipv4At_append (whole : transportStart front ≤ front.length) :
    ipv4At (front ++ rest) = ipv4At front := by
  have least := le_transportStart front
  have header : headerOctets (front ++ rest) = headerOctets front := by
    unfold headerOctets headerLength
    rw [octetAt_append rest (by omega)]
    exact take_drop_append rest whole
  unfold ipv4At
  rw [header, octetAt_append rest (by omega), octetAt_append rest (by omega),
    wordAt_append rest (by omega), wordAt_append rest (by omega),
    addressAt_append rest (by omega), addressAt_append rest (by omega)]

theorem HasIpv4.append (present : HasIpv4 front) : HasIpv4 (front ++ rest) := by
  obtain ⟨etherType, whole⟩ := present
  have least := le_transportStart front
  refine ⟨?_, ?_⟩
  · rw [wordAt_append rest (by omega), etherType]
  · rw [transportStart_append rest (by omega), List.length_append]
    omega

theorem HasUdp.append (present : HasUdp front) : HasUdp (front ++ rest) := by
  obtain ⟨ip, protocol, room⟩ := present
  have least := le_transportStart front
  refine ⟨ip.append rest, ?_, ?_⟩
  · rw [octetAt_append rest (by omega), protocol]
  · rw [transportStart_append rest (by omega), List.length_append]
    omega

theorem udpAt_append (present : HasUdp front) :
    udpAt (front ++ rest) =
      { udpAt front with checksumOk := (udpAt (front ++ rest)).checksumOk } := by
  obtain ⟨-, -, room⟩ := present
  have least := le_transportStart front
  have begins := transportStart_append rest (show 14 < front.length by omega)
  have fields (i : Nat) (inside : i + 1 < 8) :
      wordAt (front ++ rest) (transportStart (front ++ rest) + i) =
        wordAt front (transportStart front + i) := by
    rw [begins, wordAt_append rest (by omega)]
  unfold udpAt
  simp only [UdpSummary.mk.injEq, and_true]
  exact ⟨fields 0 (by decide), fields 2 (by decide), fields 4 (by decide)⟩

/-- More octets do not change a verdict on a segment that is all there, and no verdict is good on
one that is not. -/
theorem checksumOk_udpAt_append (present : HasUdp front) :
    (udpAt front).checksumOk = true ↔
      transportStart front + (udpAt front).length.toNat ≤ front.length ∧
      (udpAt (front ++ rest)).checksumOk = true := by
  obtain ⟨-, -, room⟩ := present
  have least := le_transportStart front
  have begins := transportStart_append rest (show 14 < front.length by omega)
  have length : wordAt (front ++ rest) (transportStart front + 4) = (udpAt front).length :=
    wordAt_append rest (by omega)
  have stored : wordAt (front ++ rest) (transportStart front + 6) = _ :=
    wordAt_append rest (by omega)
  rw [checksumOk_udpAt_iff rfl rfl rfl,
    checksumOk_udpAt_iff begins (congrArg UInt16.toNat length) stored,
    addressAt_append rest (by omega), addressAt_append rest (by omega)]
  -- Where the segment is all there, both are the verdict on the same octets.
  refine and_congr_right fun whole => ?_
  have room : transportStart front + (udpAt front).length.toNat ≤ (front ++ rest).length := by
    rw [List.length_append]
    exact Nat.le_add_right_of_le whole
  have segment : ((front ++ rest).drop (transportStart front)).take (udpAt front).length.toNat =
      (front.drop (transportStart front)).take (udpAt front).length.toNat :=
    take_drop_append rest whole
  rw [segment]
  exact (and_iff_right room).symm

/-- A frame whose segment is all there says the same whatever octets follow. -/
theorem ofFrame_append (present : HasUdp front)
    (covered : transportStart front + (udpAt front).length.toNat ≤ front.length) :
    ofFrame (front ++ rest) = { ofFrame front with length := front.length + rest.length } := by
  have ⟨ip, _, _⟩ := present
  have least := le_transportStart front
  have verdict : (udpAt (front ++ rest)).checksumOk = (udpAt front).checksumOk :=
    Bool.eq_iff_iff.2 ((checksumOk_udpAt_append rest present).trans (and_iff_right covered)).symm
  have udp : udpAt (front ++ rest) = udpAt front := by
    rw [udpAt_append rest present, verdict]
  have long : 14 ≤ front.length := by omega
  have longer : 14 ≤ front.length + rest.length := by omega
  have etherType : wordAt (front ++ rest) 12 = wordAt front 12 := wordAt_append rest (by omega)
  rw [ofFrame_eq, ofFrame_eq]
  simp only [present, present.append rest, ip, ip.append rest, long, longer, if_true, udp,
    etherType, ipv4At_append rest ip.2, List.length_append]

theorem transportStart_append_le_iff (front rest : Octets) (n : Nat) :
    transportStart (front ++ rest) + n ≤ front.length ↔
      transportStart front + n ≤ front.length := by
  by_cases long : 14 < front.length
  · rw [transportStart_append rest long]
  · -- The octet that gives the length is cut off, and no header ends as early.
    have least := le_transportStart front
    have least' := le_transportStart (front ++ rest)
    omega

end Layers

/-! ## Summaries of a prefix -/

section Parts

variable {front : Octets} (rest : Octets)

theorem etherType_append {type : UInt16} (read : (ofFrame front).etherType = some type) :
    (ofFrame (front ++ rest)).etherType = some type := by
  obtain ⟨long, rfl⟩ := etherType_eq_some_iff.1 read
  refine etherType_eq_some_iff.2 ⟨?_, ?_⟩
  · rw [List.length_append]
    omega
  · rw [wordAt_append rest (by omega)]

theorem ipv4_append {ip : Ipv4Summary} (read : (ofFrame front).ipv4 = some ip) :
    (ofFrame (front ++ rest)).ipv4 = some ip := by
  obtain ⟨present, rfl⟩ := ipv4_eq_some_iff.1 read
  exact ipv4_eq_some_iff.2 ⟨present.append rest, (ipv4At_append rest present.2).symm⟩

theorem udp_append {udp : UdpSummary} (read : (ofFrame front).udp = some udp) :
    ∃ ok, (ofFrame (front ++ rest)).udp = some { udp with checksumOk := ok } ∧
      (udp.checksumOk = true → ok = true) := by
  obtain ⟨present, rfl⟩ := udp_eq_some_iff.1 read
  refine ⟨_, udp_eq_some_iff.2 ⟨present.append rest, (udpAt_append rest present).symm⟩, ?_⟩
  exact fun ok => ((checksumOk_udpAt_append rest present).1 ok).2

theorem isSome_etherType_iff (data : Octets) :
    (ofFrame data).etherType.isSome ↔ 14 ≤ data.length := by
  simp only [Option.isSome_iff_exists, etherType_eq_some_iff, exists_and_left, exists_eq,
    and_true]

theorem isSome_ipv4_iff (front rest : Octets) : (ofFrame front).ipv4.isSome ↔
    (ofFrame front).etherType = some Frame.etherTypeIpv4 ∧
      transportStart (front ++ rest) ≤ front.length := by
  have least := le_transportStart front
  have ends := transportStart_append_le_iff front rest 0
  rw [Nat.add_zero, Nat.add_zero] at ends
  simp only [Option.isSome_iff_exists, ipv4_eq_some_iff, exists_and_left, exists_eq, and_true,
    etherType_eq_some_iff, ends]
  constructor
  · rintro ⟨etherType, whole⟩
    exact ⟨⟨by omega, etherType.symm⟩, whole⟩
  · rintro ⟨⟨-, etherType⟩, whole⟩
    exact ⟨etherType.symm, whole⟩

theorem isSome_udp_iff (front rest : Octets) : (ofFrame front).udp.isSome ↔
    (∃ ip, (ofFrame front).ipv4 = some ip ∧ ip.protocol = Checksum.udpProtocol) ∧
      transportStart (front ++ rest) + 8 ≤ front.length := by
  simp only [Option.isSome_iff_exists, udp_eq_some_iff, exists_and_left, exists_eq, and_true,
    ipv4_eq_some_iff, transportStart_append_le_iff]
  constructor
  · rintro ⟨ip, protocol, room⟩
    exact ⟨⟨_, ⟨ip, rfl⟩, protocol⟩, room⟩
  · rintro ⟨⟨_, ⟨ip, rfl⟩, protocol⟩, room⟩
    exact ⟨ip, protocol, room⟩

end Parts

/-- What is read from the first `n` octets of a frame is what is read from all of them, as far as
it goes: a layer is missing from the prefix exactly if its header does not end within it, and is
the layer of the whole otherwise.  Only a UDP verdict may turn from bad to good.  Where the UDP
segment ends within the prefix, octets behind it change nothing but the length. -/
theorem ofFrame_take (data : Octets) {n : Nat} (within : n ≤ data.length) :
    let whole := ofFrame data
    let part := ofFrame (data.take n)
    let start := 14 + max ((octetAt data 14).toNat % 16 * 4) 20
    (part.etherType = none ∨ part.etherType = whole.etherType) ∧
    (part.ipv4 = none ∨ part.ipv4 = whole.ipv4) ∧
    (∀ udp, part.udp = some udp → ∃ ok, whole.udp = some { udp with checksumOk := ok } ∧
      (udp.checksumOk = true → ok = true)) ∧
    (part.etherType.isSome ↔ 14 ≤ n) ∧
    (part.ipv4.isSome ↔ part.etherType = some 0x0800 ∧ start ≤ n) ∧
    (part.udp.isSome ↔ (∃ ip, part.ipv4 = some ip ∧ ip.protocol = 17) ∧ start + 8 ≤ n) ∧
    (∀ udp, part.udp = some udp → start + udp.length.toNat ≤ n →
      whole = { part with length := data.length } ∧
      ∀ rest, ofFrame (data.take n ++ rest) = { part with length := n + rest.length }) := by
  intro whole part start
  have size : (data.take n).length = n := List.length_take_of_le within
  have joined : data.take n ++ data.drop n = data := List.take_append_drop n data
  have covers := transportStart_append_le_iff (data.take n) (data.drop n)
  have ether := isSome_etherType_iff (data.take n)
  have ipv4 := isSome_ipv4_iff (data.take n) (data.drop n)
  have udp := isSome_udp_iff (data.take n) (data.drop n)
  rw [joined, size] at ipv4 udp
  rw [size] at ether
  refine ⟨?_, ?_, ?_, ether, ipv4, udp, ?_⟩
  · cases read : part.etherType with
    | none => exact .inl rfl
    | some type => exact .inr (joined ▸ etherType_append (data.drop n) read).symm
  · cases read : part.ipv4 with
    | none => exact .inl rfl
    | some ip => exact .inr (joined ▸ ipv4_append (data.drop n) read).symm
  · intro udp read
    have later := udp_append (data.drop n) read
    rwa [joined] at later
  · intro udp read ends
    obtain ⟨present, rfl⟩ := udp_eq_some_iff.1 read
    have covered := (covers _).1 (by rwa [joined, size])
    have padded (rest : Octets) := ofFrame_append rest present covered
    rw [size] at padded
    refine ⟨?_, padded⟩
    have all := padded (data.drop n)
    rwa [joined, List.length_drop, Nat.add_sub_cancel' within] at all

/-- Cut off inside the UDP header, behind IPv4 options, and between a segment and its padding. -/
theorem ofFrame_take_optionsAndPadding :
    let data : Octets := List.replicate 12 0 ++ [8, 0] ++
      [0x46, 0, 0, 0x21, 0, 0, 0, 0, 0x40, 0x11, 0x63, 0xC9, 10, 0, 0, 1, 10, 0, 0, 2] ++
      [1, 1, 1, 0] ++ [4, 0xD2, 0xE2, 7, 0, 9, 0xFF, 0xFF, 5] ++ [0xAA, 0xBB]
    (ofFrame (data.take 45)).ipv4 = (ofFrame data).ipv4 ∧ (ofFrame (data.take 45)).udp = none ∧
      (ofFrame (data.take 47)).udp.isSome ∧
      ofFrame data = { ofFrame (data.take 47) with length := 49 } := by
  intro data
  obtain ⟨-, same, -, -, ip, udp, -⟩ := ofFrame_take data (show 45 ≤ data.length by decide)
  obtain ⟨-, -, -, -, -, -, padded⟩ := ofFrame_take data (show 47 ≤ data.length by decide)
  have etherType : (ofFrame (data.take 45)).etherType = some 0x0800 :=
    etherType_eq_some_iff.2 ⟨by decide, by decide⟩
  have present : (ofFrame (data.take 45)).ipv4.isSome := ip.2 ⟨etherType, by decide⟩
  have segment : (ofFrame (data.take 47)).udp = some (udpAt (data.take 47)) :=
    udp_eq_some_iff.2 ⟨by decide, rfl⟩
  refine ⟨?_, ?_, ?_, (padded _ segment (by decide)).1⟩
  · refine same.resolve_left fun missing => ?_
    rw [missing] at present
    cases present
  · rw [← Option.not_isSome_iff_eq_none]
    intro found
    exact absurd (udp.1 found).2 (by decide)
  · rw [segment, Option.isSome_some]

end FrameSummary

end FrameReplay
