import FrameReplay.Checksum
import Mathlib.Tactic

/-!
# One's complement sums

A checksum on the wire is right if the 16-bit words it covers, the checksum among them, sum to all
ones when every carry out of the top bit is added back in at the bottom.  This file connects that
word-by-word sum (`carrySum`) to the checksums as they are computed: in a wide accumulator, without
the checksum field, folded once at the end.  All reasoning is about remainders modulo 65535, which
has two zeros in 16 bits (`foldCarries_eq`).
-/

namespace FrameReplay.Checksum

/-! ## Folding -/

/-- Folding takes the remainder modulo 65535, where a multiple becomes 65535 and only the sum of
nothing becomes zero. -/
theorem foldCarries_eq (sum : Nat) :
    foldCarries sum = if sum = 0 then 0 else (sum - 1) % 65535 + 1 := by
  fun_induction foldCarries sum with
  | case1 sum large ih =>
    rw [ih, if_neg (by omega), if_neg (by omega)]
    omega
  | case2 sum small => split <;> omega

/-- Carries may be folded early. -/
theorem foldCarries_add_foldCarries (a b : Nat) :
    foldCarries (a + foldCarries b) = foldCarries (a + b) := by
  rw [foldCarries_eq b]
  split
  next nothing => rw [nothing]
  next =>
    rw [foldCarries_eq, foldCarries_eq, if_neg (by omega), if_neg (by omega)]
    omega

theorem toNat_complement (sum : UInt32) :
    (complement sum).toNat = 65535 - foldCarries sum.toNat := by
  have size : UInt16.size = 65536 := rfl
  have := foldCarries_lt sum.toNat
  unfold complement
  rw [UInt16.toNat_not, UInt16.toNat_ofNat']
  omega

/-- A stored word is the complement of the sum of the others exactly if the whole sums to all ones,
except for a word of ones behind words that sum to all ones already. -/
theorem complement_eq_iff (sum : UInt32) (stored : UInt16) :
    complement sum = stored ↔ foldCarries (sum.toNat + stored.toNat) = 65535 ∧
      ¬ (stored = 0xFFFF ∧ foldCarries sum.toNat = 65535) := by
  have := stored.toNat_lt
  rw [← UInt16.toNat_inj, ← UInt16.toNat_inj, toNat_complement, foldCarries_eq, foldCarries_eq,
    show (0xFFFF : UInt16).toNat = 65535 from rfl]
  split <;> split <;> omega

/-- The complement as it is sent where zero means that there is no checksum. -/
def complementSent (sum : UInt32) : UInt16 :=
  if complement sum = 0 then 0xFFFF else complement sum

theorem complementSent_ne_zero (sum : UInt32) : complementSent sum ≠ 0 := by
  unfold complementSent
  split
  · decide
  · assumption

/-- With the two zeros sent as one, no exception is left. -/
theorem complementSent_eq_iff {sum : UInt32} {stored : UInt16} (positive : 0 < sum.toNat)
    (given : stored ≠ 0) :
    complementSent sum = stored ↔ foldCarries (sum.toNat + stored.toNat) = 65535 := by
  have := stored.toNat_lt
  have folded := toNat_complement sum
  have given : stored.toNat ≠ 0 := fun zero => given (UInt16.toNat_inj.1 zero)
  unfold complementSent
  split
  -- A complement of zero belongs to a multiple of 65535, and then only ones complete the sum.
  next zero =>
    rw [zero, show (0 : UInt16).toNat = 0 from rfl, foldCarries_eq, if_neg (by omega)] at folded
    rw [← UInt16.toNat_inj, show (0xFFFF : UInt16).toNat = 65535 from rfl, foldCarries_eq,
      if_neg (by omega)]
    omega
  next nonzero =>
    have nonzero : (complement sum).toNat ≠ 0 := fun zero => nonzero (UInt16.toNat_inj.1 zero)
    rw [foldCarries_eq, if_neg (by omega)] at folded
    rw [← UInt16.toNat_inj, foldCarries_eq, if_neg (by omega)]
    omega

/-! ## Word by word -/

/-- The sum of two words, with the carry out of the top bit added back in at the bottom. -/
def carryAdd (a b : UInt16) : UInt16 :=
  if a.toNat + b.toNat < 65536 then a + b else a + b + 1

/-- The end-around-carry sum of the 16-bit words of `data`, an odd last octet being the high half
of a word. -/
def carrySum : Octets → UInt16
  | high :: low :: rest => carryAdd (word16 high low) (carrySum rest)
  | [last] => word16 last 0
  | [] => 0

theorem toNat_carryAdd (a b : UInt16) :
    (carryAdd a b).toNat = foldCarries (a.toNat + b.toNat) := by
  have := a.toNat_lt
  have := b.toNat_lt
  rw [foldCarries_eq]
  unfold carryAdd
  split
  · rw [UInt16.toNat_add]
    split <;> omega
  · rw [UInt16.toNat_add, UInt16.toNat_add, show (1 : UInt16).toNat = 1 from rfl,
      if_neg (by omega)]
    omega

/-- The sum word by word is the plain sum, folded. -/
theorem toNat_carrySum (data : Octets) : (carrySum data).toNat = foldCarries (wordSum data) := by
  fun_induction carrySum data with
  | case1 high low rest ih =>
    -- The carries of the rest are folded in already; folding them late comes to the same.
    rw [toNat_carryAdd, ih, foldCarries_add_foldCarries, wordSum]
  | case2 last =>
    have := last.toNat_lt
    have zero : (0 : UInt8).toNat = 0 := rfl
    rw [toNat_word16, wordSum, foldCarries, if_neg (by omega), zero, Nat.add_zero]
  | case3 => rw [wordSum, foldCarries_eq, if_pos rfl, UInt16.toNat_zero]

theorem carrySum_eq_ones_iff (data : Octets) :
    carrySum data = 0xFFFF ↔ foldCarries (wordSum data) = 65535 := by
  rw [← toNat_carrySum, ← UInt16.toNat_inj]
  rfl

/-- Behind an even number of octets the words begin anew. -/
theorem wordSum_append {front : Octets} (even : front.length % 2 = 0) (back : Octets) :
    wordSum (front ++ back) = wordSum front + wordSum back := by
  fun_induction wordSum front with
  | case1 high low rest ih =>
    simp only [List.length_cons] at even
    rw [List.cons_append, List.cons_append, wordSum, ih (by omega)]
    omega
  | case2 last => simp at even
  | case3 => rw [List.nil_append, Nat.zero_add]

theorem wordSum_le (data : Octets) : wordSum data ≤ 65535 * ((data.length + 1) / 2) := by
  fun_induction wordSum data with
  | case1 high low rest ih =>
    have := (word16 high low).toNat_lt
    simp only [List.length_cons]
    omega
  | case2 last =>
    have := last.toNat_lt
    simp only [List.length_singleton]
    omega
  | case3 => exact Nat.zero_le _

theorem wordSum_be16 (word : UInt16) : wordSum (be16 word) = word.toNat := by
  unfold be16
  rw [wordSum, word16_be16, wordSum, Nat.add_zero]

/-- `data` with `word` in the place of the two octets from `offset` on. -/
def putWord (data : Octets) (offset : Nat) (word : UInt16) : Octets :=
  data.take offset ++ be16 word ++ data.drop (offset + 2)

/-- A word put at an even place counts once, beside the words in front of it and behind it. -/
theorem wordSum_putWord {data : Octets} {offset : Nat} (even : offset % 2 = 0)
    (inside : offset ≤ data.length) (word : UInt16) :
    wordSum (putWord data offset word) =
      wordSum (data.take offset) + wordSum (data.drop (offset + 2)) + word.toNat := by
  have front : (data.take offset).length = offset := List.length_take_of_le inside
  unfold putWord
  rw [wordSum_append (by rw [List.length_append, front, length_be16]; omega),
    wordSum_append (by rw [front, even]), wordSum_be16]
  omega

/-! ## The accumulators -/

/-- What the checksum of an IPv4 header is the complement of. -/
def ipv4Sum (header : Octets) : Nat := wordSum (header.take 10) + wordSum (header.drop 12)

/-- What a UDP pseudo header adds to the sum. -/
def pseudoSum (source destination : Ipv4) (length : Nat) : Nat :=
  wordSum source.toOctets + wordSum destination.toOctets + udpProtocol.toNat + length

/-- What the checksum of a UDP segment is the complement of. -/
def udpSum (source destination : Ipv4) (segment : Octets) : Nat :=
  pseudoSum source destination segment.length + wordSum (segment.take 6) +
    wordSum (segment.drop 8)

theorem ipv4Sum_lt {header : Octets} (fits : header.length ≤ 65535) :
    ipv4Sum header < UInt32.size := by
  have size : UInt32.size = 4294967296 := rfl
  have front := wordSum_le (header.take 10)
  have back := wordSum_le (header.drop 12)
  rw [List.length_take] at front
  rw [List.length_drop] at back
  unfold ipv4Sum
  omega

theorem pseudoSum_le (source destination : Ipv4) (length : Nat) :
    pseudoSum source destination length ≤ 262157 + length := by
  have protocol : udpProtocol.toNat = 17 := rfl
  have address (ip : Ipv4) : ip.toOctets.length = 4 := rfl
  have first := wordSum_le source.toOctets
  have second := wordSum_le destination.toOctets
  rw [address] at first second
  unfold pseudoSum
  omega

theorem udpSum_lt (source destination : Ipv4) {segment : Octets}
    (fits : segment.length ≤ 65535) : udpSum source destination segment < UInt32.size := by
  have size : UInt32.size = 4294967296 := rfl
  have pseudo := pseudoSum_le source destination segment.length
  have front := wordSum_le (segment.take 6)
  have back := wordSum_le (segment.drop 8)
  rw [List.length_take] at front
  rw [List.length_drop] at back
  unfold udpSum
  omega

/-- A UDP sum is never zero, since the pseudo header names the protocol. -/
theorem udpSum_pos (source destination : Ipv4) (segment : Octets) :
    0 < udpSum source destination segment := by
  have protocol : udpProtocol.toNat = 17 := rfl
  unfold udpSum pseudoSum
  omega

/-! ## Without overflow -/

/-- The sum of two words, or nothing if it does not fit 32 bits. -/
def add? (a b : UInt32) : Option UInt32 :=
  if a.toNat + b.toNat < UInt32.size then some (a + b) else none

/-- `addWords` with every addition refused that overflows. -/
def addWords? (sum : UInt32) : Octets → Option UInt32
  | high :: low :: rest => (add? sum (word16 high low).toUInt32).bind (addWords? · rest)
  | [last] => add? sum (last.toUInt32 * 256)
  | [] => some sum

theorem add?_eq (a b : UInt32) (h : a.toNat + b.toNat < UInt32.size) :
    add? a b = some (a + b) ∧ (a + b).toNat = a.toNat + b.toNat :=
  ⟨if_pos h, (UInt32.toNat_add a b).trans (Nat.mod_eq_of_lt h)⟩

/-- No addition overflows if the last one does not. -/
theorem addWords?_eq (sum : UInt32) (data : Octets)
    (h : sum.toNat + wordSum data < UInt32.size) :
    addWords? sum data = some (addWords sum data) ∧
      (addWords sum data).toNat = sum.toNat + wordSum data := by
  refine ⟨?_, toNat_addWords sum data h⟩
  fun_induction addWords sum data with
  | case1 sum high low rest ih =>
    rw [wordSum] at h
    have word : (word16 high low).toUInt32.toNat = (word16 high low).toNat :=
      UInt16.toNat_toUInt32 _
    obtain ⟨added, value⟩ := add?_eq sum (word16 high low).toUInt32 (by omega)
    rw [addWords?, added, Option.bind_some, ih (by omega)]
  | case2 sum last =>
    have := last.toNat_lt
    have half : (last.toUInt32 * 256).toNat = last.toNat * 256 := by
      rw [UInt32.toNat_mul, UInt8.toNat_toUInt32, show (256 : UInt32).toNat = 256 from rfl]
      omega
    rw [wordSum] at h
    exact (add?_eq _ _ (by omega)).1
  | case3 sum => rfl

/-- What one fold makes of the accumulator. -/
def foldStep? (sum : UInt32) : Option UInt32 := add? (sum &&& 0xFFFF) (sum >>> 16)

theorem toNat_low_add_high (sum : UInt32) :
    (sum &&& 0xFFFF).toNat + (sum >>> 16).toNat = sum.toNat % 65536 + sum.toNat / 65536 := by
  have low : sum.toNat &&& 65535 = sum.toNat % 65536 :=
    Nat.and_two_pow_sub_one_eq_mod sum.toNat 16
  have high : sum.toNat >>> 16 = sum.toNat / 65536 := Nat.shiftRight_eq_div_pow sum.toNat 16
  rw [← low, ← high, UInt32.toNat_and, UInt32.toNat_shiftRight]
  rfl

/-- A fold never overflows. -/
theorem foldStep?_eq (sum : UInt32) : ∃ folded, foldStep? sum = some folded ∧
    folded.toNat = sum.toNat % 65536 + sum.toNat / 65536 := by
  have size : UInt32.size = 4294967296 := rfl
  have := sum.toNat_lt
  have parts := toNat_low_add_high sum
  have fits : (sum &&& 0xFFFF).toNat + (sum >>> 16).toNat < UInt32.size := by omega
  obtain ⟨added, value⟩ := add?_eq _ _ fits
  exact ⟨_, added, value.trans parts⟩

/-- `foldCarries` on 32-bit words, with every addition refused that overflows. -/
def foldCarries? (sum : UInt32) : Option UInt16 :=
  if 0xFFFF < sum.toNat then (foldStep? sum).pbind fun folded _ => foldCarries? folded
  else some sum.toUInt16
termination_by sum.toNat
decreasing_by
  obtain ⟨_, found, step⟩ := foldStep?_eq sum
  cases Option.some.inj (found.symm.trans ‹foldStep? sum = some folded›)
  omega

theorem foldCarries?_eq (sum : UInt32) :
    foldCarries? sum = some (UInt16.ofNat (foldCarries sum.toNat)) := by
  fun_induction foldCarries? sum with
  | case1 sum large ih =>
    obtain ⟨folded, found, step⟩ := foldStep?_eq sum
    rw [foldCarries, if_pos large, ← step, ← ih folded found, Option.pbind_eq_bind, found,
      Option.bind_some]
  | case2 sum small =>
    rw [foldCarries, if_neg small]
    rfl

/-- `ipv4` with every addition refused that overflows. -/
def ipv4? (header : Octets) : Option UInt16 := do
  let sum ← addWords? 0 (header.take 10)
  let sum ← addWords? sum (header.drop 12)
  return ~~~(← foldCarries? sum)

/-- The accumulator behind a UDP pseudo header, with every addition refused that overflows. -/
def pseudo? (source destination : Ipv4) (length : Nat) : Option UInt32 := do
  let sum ← addWords? 0 source.toOctets
  let sum ← addWords? sum destination.toOctets
  let sum ← add? sum udpProtocol.toUInt32
  add? sum (UInt32.ofNat length)

/-- `udp` with every addition refused that overflows. -/
def udp? (source destination : Ipv4) (segment : Octets) : Option UInt16 := do
  let sum ← pseudo? source destination segment.length
  let sum ← addWords? sum (segment.take 6)
  let sum ← addWords? sum (segment.drop 8)
  let sum := ~~~(← foldCarries? sum)
  return if sum = 0 then 0xFFFF else sum

/-- The accumulator behind the checksum of an IPv4 header. -/
def ipv4Accumulator (header : Octets) : UInt32 :=
  addWords (addWords 0 (header.take 10)) (header.drop 12)

/-- The accumulator behind a UDP pseudo header. -/
def pseudoAccumulator (source destination : Ipv4) (length : Nat) : UInt32 :=
  addWords (addWords 0 source.toOctets) destination.toOctets + udpProtocol.toUInt32 +
    UInt32.ofNat length

/-- The accumulator behind the checksum of a UDP segment. -/
def udpAccumulator (source destination : Ipv4) (segment : Octets) : UInt32 :=
  addWords (addWords (pseudoAccumulator source destination segment.length) (segment.take 6))
    (segment.drop 8)

theorem ipv4_eq (header : Octets) : ipv4 header = complement (ipv4Accumulator header) := rfl

theorem udp_eq (source destination : Ipv4) (segment : Octets) :
    udp source destination segment =
      complementSent (udpAccumulator source destination segment) := rfl

theorem ipv4?_eq {header : Octets} (fits : header.length ≤ 65535) :
    ipv4? header = some (ipv4 header) ∧ (ipv4Accumulator header).toNat = ipv4Sum header := by
  have zero : (0 : UInt32).toNat = 0 := rfl
  have bound := ipv4Sum_lt fits
  unfold ipv4Sum at bound ⊢
  obtain ⟨front, front_value⟩ := addWords?_eq 0 (header.take 10) (by omega)
  obtain ⟨back, value⟩ := addWords?_eq (addWords 0 (header.take 10)) (header.drop 12)
    (by omega)
  constructor
  · simp only [ipv4?, front, back, foldCarries?_eq, Option.bind_eq_bind, Option.bind_some]
    rfl
  · unfold ipv4Accumulator
    omega

theorem pseudo?_eq (source destination : Ipv4) {length : Nat} (fits : length ≤ 65535) :
    pseudo? source destination length = some (pseudoAccumulator source destination length) ∧
      (pseudoAccumulator source destination length).toNat =
        pseudoSum source destination length := by
  have zero : (0 : UInt32).toNat = 0 := rfl
  have size : UInt32.size = 4294967296 := rfl
  have protocol_value : udpProtocol.toUInt32.toNat = udpProtocol.toNat := rfl
  have length_value : (UInt32.ofNat length).toNat = length := by
    rw [UInt32.toNat_ofNat']
    omega
  have bound := pseudoSum_le source destination length
  unfold pseudoSum at bound ⊢
  -- One addition after the other, each below the sum of all.
  obtain ⟨first, first_value⟩ := addWords?_eq 0 source.toOctets (by omega)
  obtain ⟨second, second_value⟩ := addWords?_eq (addWords 0 source.toOctets) destination.toOctets
    (by omega)
  obtain ⟨third, third_value⟩ :=
    add?_eq (addWords (addWords 0 source.toOctets) destination.toOctets) udpProtocol.toUInt32
      (by omega)
  obtain ⟨fourth, value⟩ :=
    add?_eq (addWords (addWords 0 source.toOctets) destination.toOctets + udpProtocol.toUInt32)
      (UInt32.ofNat length) (by omega)
  constructor
  · simp only [pseudo?, first, second, third, fourth, Option.bind_eq_bind, Option.bind_some]
    rfl
  · unfold pseudoAccumulator
    omega

theorem udp?_eq (source destination : Ipv4) {segment : Octets}
    (fits : segment.length ≤ 65535) :
    udp? source destination segment = some (udp source destination segment) ∧
      (udpAccumulator source destination segment).toNat = udpSum source destination segment := by
  have bound := udpSum_lt source destination fits
  unfold udpSum at bound ⊢
  obtain ⟨pseudo, pseudo_value⟩ := pseudo?_eq source destination fits
  obtain ⟨front, front_value⟩ :=
    addWords?_eq (pseudoAccumulator source destination segment.length) (segment.take 6)
      (by omega)
  obtain ⟨back, value⟩ :=
    addWords?_eq (addWords (pseudoAccumulator source destination segment.length) (segment.take 6))
      (segment.drop 8) (by omega)
  constructor
  · simp only [udp?, pseudo, front, back, foldCarries?_eq, Option.bind_eq_bind, Option.bind_some]
    rfl
  · unfold udpAccumulator
    omega

/-! ## Checksums in their places -/

/-- The pseudo header that a UDP checksum covers in front of the segment. -/
def pseudoHeader (source destination : Ipv4) (length : UInt16) : Octets :=
  source.toOctets ++ destination.toOctets ++ [0, udpProtocol] ++ be16 length

theorem wordSum_pseudoHeader_append (source destination : Ipv4) (length : UInt16)
    (segment : Octets) :
    wordSum (pseudoHeader source destination length ++ segment) =
      pseudoSum source destination length.toNat + wordSum segment := by
  have protocol : wordSum [0, udpProtocol] = udpProtocol.toNat := rfl
  have even (ip : Ipv4) : ip.toOctets.length % 2 = 0 := by
    rw [show ip.toOctets.length = 4 from rfl]
  unfold pseudoHeader pseudoSum
  rw [List.append_assoc, List.append_assoc, List.append_assoc, wordSum_append (even source),
    wordSum_append (even destination), wordSum_append rfl, protocol,
    wordSum_append (by rw [length_be16]), wordSum_be16]
  omega

/-- Two octet strings that differ at most in one word agree in front of it and behind it. -/
theorem take_drop_of_agree {a b : Octets} {offset : Nat}
    (agree : ∀ i, i ≠ offset → i ≠ offset + 1 → a[i]? = b[i]?) :
    a.take offset = b.take offset ∧ a.drop (offset + 2) = b.drop (offset + 2) := by
  constructor
  · apply List.ext_getElem?
    intro i
    rw [List.getElem?_take, List.getElem?_take]
    split
    · exact agree i (by omega) (by omega)
    · rfl
  · apply List.ext_getElem?
    intro i
    rw [List.getElem?_drop, List.getElem?_drop]
    exact agree _ (by omega) (by omega)

theorem ipv4_congr {header other : Octets}
    (agree : ∀ i, i ≠ 10 → i ≠ 11 → other[i]? = header[i]?) : ipv4 other = ipv4 header := by
  obtain ⟨front, back⟩ := take_drop_of_agree agree
  unfold ipv4
  rw [front, back]

theorem udp_congr (source destination : Ipv4) {segment other : Octets}
    (length : other.length = segment.length)
    (agree : ∀ i, i ≠ 6 → i ≠ 7 → other[i]? = segment[i]?) :
    udp source destination other = udp source destination segment := by
  obtain ⟨front, back⟩ := take_drop_of_agree agree
  unfold udp
  rw [front, back, length]

/-- A word in the checksum field of an IPv4 header makes it sum to all ones. -/
theorem ipv4_eq_iff {header : Octets} (long : 12 ≤ header.length) (fits : header.length ≤ 65535)
    (stored : UInt16) :
    ipv4 header = stored ↔ carrySum (putWord header 10 stored) = 0xFFFF ∧
      ¬ (stored = 0xFFFF ∧ carrySum (putWord header 10 0) = 0xFFFF) := by
  rw [ipv4_eq, complement_eq_iff, carrySum_eq_ones_iff, carrySum_eq_ones_iff, (ipv4?_eq fits).2,
    wordSum_putWord rfl (by omega), wordSum_putWord rfl (by omega)]
  rfl

theorem udp_eq_iff (source destination : Ipv4) {segment : Octets} (long : 8 ≤ segment.length)
    (fits : segment.length ≤ 65535) {stored : UInt16} (given : stored ≠ 0) :
    udp source destination segment = stored ↔
      carrySum (pseudoHeader source destination (UInt16.ofNat segment.length) ++
        putWord segment 6 stored) = 0xFFFF := by
  have length : (UInt16.ofNat segment.length).toNat = segment.length := by
    rw [UInt16.toNat_ofNat']
    omega
  have value := (udp?_eq source destination fits).2
  have positive := udpSum_pos source destination segment
  rw [udp_eq, complementSent_eq_iff (by omega) given, carrySum_eq_ones_iff, value,
    wordSum_pseudoHeader_append, wordSum_putWord rfl (by omega), length, ← Nat.add_assoc,
    ← Nat.add_assoc]
  rfl

/-- Over a segment or a header that a 16-bit length can describe no addition overflows, the
checksum does not depend on the checksum field, and written into that field it makes the
end-around-carry sum of all that it covers come out as all ones.  A UDP checksum is never zero. -/
theorem checksums_sum_to_ones (source destination : Ipv4) (segment header : Octets) :
    (segment.length ≤ 65535 →
      let checksum := udp source destination segment
      udp? source destination segment = some checksum ∧
      (∀ other : Octets, other.length = segment.length →
        (∀ i, i ≠ 6 → i ≠ 7 → other[i]? = segment[i]?) →
          udp source destination other = checksum) ∧
      checksum ≠ 0 ∧
      (8 ≤ segment.length →
        carrySum (pseudoHeader source destination (UInt16.ofNat segment.length) ++
          putWord segment 6 checksum) = 0xFFFF)) ∧
    (12 ≤ header.length → header.length ≤ 65535 →
      let checksum := ipv4 header
      ipv4? header = some checksum ∧
      (∀ other : Octets, other.length = header.length →
        (∀ i, i ≠ 10 → i ≠ 11 → other[i]? = header[i]?) → ipv4 other = checksum) ∧
      carrySum (putWord header 10 checksum) = 0xFFFF) := by
  constructor
  · intro fits checksum
    have given : checksum ≠ 0 := complementSent_ne_zero _
    refine ⟨(udp?_eq source destination fits).1, fun other => udp_congr source destination, given,
      fun long => ?_⟩
    exact (udp_eq_iff source destination long fits given).1 rfl
  · intro long fits checksum
    exact ⟨(ipv4?_eq fits).1, fun other _ => ipv4_congr, ((ipv4_eq_iff long fits _).1 rfl).1⟩

/-- A segment of odd length whose sum comes out zero, and a header with a known checksum. -/
theorem checksums_sum_to_ones_zeroSum :
    let zeros : Ipv4 := ⟨0, 0, 0, 0⟩
    let segment : Octets := [0xFF, 0xE5, 0, 0, 0, 0, 7, 7, 0]
    let header : Octets := [0x45, 0, 0, 0x73, 0, 0, 0x40, 0, 0x40, 0x11, 0, 0, 0xC0, 0xA8, 0, 1,
      0xC0, 0xA8, 0, 0xC7]
    udp zeros zeros segment = 0xFFFF ∧
      carrySum (pseudoHeader zeros zeros 9 ++ [0xFF, 0xE5, 0, 0, 0, 0, 0xFF, 0xFF, 0]) = 0xFFFF ∧
      ipv4 header = 0xB861 ∧ carrySum (putWord header 10 0xB861) = 0xFFFF := by
  intro zeros segment header
  obtain ⟨of_segment, of_header⟩ := checksums_sum_to_ones zeros zeros segment header
  obtain ⟨-, -, -, segment_sum⟩ := of_segment (by decide)
  obtain ⟨-, -, header_sum⟩ := of_header (by decide) (by decide)
  have segment_value : udp zeros zeros segment = 0xFFFF :=
    (udp_eq_iff zeros zeros (by decide) (by decide) (by decide)).2 (by decide)
  have header_value : ipv4 header = 0xB861 :=
    (ipv4_eq_iff (by decide) (by decide) _).2 (by decide)
  have segment_sum := segment_sum (by decide)
  rw [segment_value] at segment_sum
  rw [header_value] at header_sum
  exact ⟨segment_value, segment_sum, header_value, header_sum⟩

end FrameReplay.Checksum
