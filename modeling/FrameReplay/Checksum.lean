import FrameReplay.Address.Ipv4

/-!
# Internet checksums

The checksums of IPv4 and UDP: the one's complement of the end-around-carry sum of big-endian
16-bit words, an odd last octet being the high half of a word. Sums are collected in a 32-bit
accumulator and folded at the end; `toNat_addWords` says when no carry is lost on the way.
-/

namespace FrameReplay.Checksum

/-- The plain sum of the 16-bit words of `data`. -/
def wordSum : Octets → Nat
  | high :: low :: rest => (word16 high low).toNat + wordSum rest
  | [last] => last.toNat * 256
  | [] => 0

/-- Adds the 16-bit words of `data` to a 32-bit accumulator. -/
def addWords (sum : UInt32) : Octets → UInt32
  | high :: low :: rest => addWords (sum + (word16 high low).toUInt32) rest
  | [last] => sum + last.toUInt32 * 256
  | [] => sum

/-- The accumulator holds the plain sum as long as that fits 32 bits. -/
theorem toNat_addWords (sum : UInt32) (data : Octets) (h : sum.toNat + wordSum data < UInt32.size) :
    (addWords sum data).toNat = sum.toNat + wordSum data := by
  have size : UInt32.size = 4294967296 := rfl
  fun_induction addWords sum data with
  | case1 sum high low rest ih =>
    simp only [wordSum] at h ⊢
    have hw := toNat_word16 high low
    have step : (sum + (word16 high low).toUInt32).toNat =
        sum.toNat + (word16 high low).toNat := by
      rw [UInt32.toNat_add, UInt16.toNat_toUInt32, Nat.mod_eq_of_lt (by omega)]
    rw [ih (by omega), step]
    omega
  | case2 sum last =>
    simp only [wordSum] at h ⊢
    have := last.toNat_lt
    rw [UInt32.toNat_add, UInt32.toNat_mul, UInt8.toNat_toUInt32,
      show (256 : UInt32).toNat = 256 from rfl]
    omega
  | case3 sum => simp [wordSum]

/-- Adds the carries above 16 bits back in until none is left. -/
def foldCarries (sum : Nat) : Nat :=
  if 0xFFFF < sum then foldCarries (sum % 65536 + sum / 65536) else sum
termination_by sum
decreasing_by omega

theorem foldCarries_lt (sum : Nat) : foldCarries sum < 65536 := by
  fun_induction foldCarries sum with
  | case1 _ _ ih => exact ih
  | case2 _ h => omega

/-- The one's complement of a folded sum. -/
def complement (sum : UInt32) : UInt16 := ~~~(UInt16.ofNat (foldCarries sum.toNat))

/-- The checksum of an IPv4 header; the two octets of its checksum field do not count. -/
def ipv4 (header : Octets) : UInt16 :=
  complement (addWords (addWords 0 (header.take 10)) (header.drop 12))

/-- The protocol number of UDP. -/
def udpProtocol : UInt8 := 17

/-- The checksum of a UDP segment behind its pseudo header; the two octets of its checksum field do
not count, and a sum that comes out zero is sent as all ones. -/
def udp (source destination : Ipv4) (segment : Octets) : UInt16 :=
  let addresses := addWords (addWords 0 source.toOctets) destination.toOctets
  let pseudo := addresses + udpProtocol.toUInt32 + UInt32.ofNat segment.length
  let sum := complement (addWords (addWords pseudo (segment.take 6)) (segment.drop 8))
  if sum = 0 then 0xFFFF else sum

end FrameReplay.Checksum
