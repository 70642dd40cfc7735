/-!
# Octets

Byte strings come in two shapes. Messages that are built and taken apart are lists (`Octets`);
storage that is overwritten in place is a `ByteArray`. `overlay` is the one write into storage, and
`octets_overlay` says what it does to the bytes.
-/

namespace FrameReplay

/-- A byte string as a list of octets. -/
abbrev Octets := List UInt8

/-- The bytes of a storage block in order. -/
def octets (block : ByteArray) : Octets := block.data.toList

theorem length_octets (block : ByteArray) : (octets block).length = block.size := by
  simp [octets]

theorem octets_inj {a b : ByteArray} (h : octets a = octets b) : a = b :=
  ByteArray.ext (Array.toList_inj.1 h)

theorem octets_toByteArray (bytes : Octets) : octets bytes.toByteArray = bytes := by
  simp [octets]

/-- A storage block of `n` zero bytes. -/
def zeroBlock (n : Nat) : ByteArray := (List.replicate n (0 : UInt8)).toByteArray

theorem size_zeroBlock (n : Nat) : (zeroBlock n).size = n := by
  simp [zeroBlock]

theorem octets_extract (block : ByteArray) (start stop : Nat) :
    octets (block.extract start stop) = ((octets block).drop start).take (stop - start) := by
  simp [octets, Array.toList_extract, List.extract_eq_take_drop]

/-- `block` with the bytes from `offset` on replaced by `patch`. -/
def overlay (block : ByteArray) (offset : Nat) (patch : ByteArray) : ByteArray :=
  patch.copySlice 0 block offset patch.size

theorem octets_overlay (block : ByteArray) (offset : Nat) (patch : ByteArray) :
    octets (overlay block offset patch) =
      (octets block).take offset ++ octets patch ++ (octets block).drop (offset + patch.size) := by
  have h : (octets patch).take patch.size = octets patch :=
    List.take_of_length_le (Nat.le_of_eq (length_octets patch))
  have h' : ((octets block).drop (offset + patch.size)).take
      (block.size - (offset + patch.size)) = (octets block).drop (offset + patch.size) :=
    List.take_of_length_le (Nat.le_of_eq (by rw [List.length_drop, length_octets]))
  simp only [octets] at h h'
  simp [octets, overlay, ByteArray.copySlice, Array.toList_extract, List.extract_eq_take_drop, h,
    h']

theorem size_overlay {block patch : ByteArray} {offset : Nat}
    (h : offset + patch.size ≤ block.size) : (overlay block offset patch).size = block.size := by
  rw [← length_octets, octets_overlay]
  simp only [List.length_append, List.length_take, List.length_drop, length_octets]
  omega

/-- The two octets of a 16-bit word, high octet first. -/
def be16 (word : UInt16) : Octets :=
  [UInt8.ofNat (word.toNat / 256), UInt8.ofNat (word.toNat % 256)]

/-- The 16-bit word whose octets are `high` and `low`. -/
def word16 (high low : UInt8) : UInt16 := UInt16.ofNat (high.toNat * 256 + low.toNat)

theorem toNat_word16 (high low : UInt8) :
    (word16 high low).toNat = high.toNat * 256 + low.toNat := by
  have := high.toNat_lt
  have := low.toNat_lt
  simp only [word16, UInt16.toNat_ofNat']
  omega

theorem length_be16 (word : UInt16) : (be16 word).length = 2 := rfl

/-- Splitting a word and joining its octets gives the word back. -/
theorem word16_be16 (word : UInt16) :
    word16 (UInt8.ofNat (word.toNat / 256)) (UInt8.ofNat (word.toNat % 256)) = word := by
  apply UInt16.toNat_inj.1
  have := word.toNat_lt
  rw [toNat_word16, UInt8.toNat_ofNat', UInt8.toNat_ofNat']
  omega

/-- The octets of `data` from `start` up to `stop`, or nothing if `data` ends before `stop`. -/
def slice? (data : Octets) (start stop : Nat) : Option Octets :=
  if start ≤ stop ∧ stop ≤ data.length then some ((data.drop start).take (stop - start)) else none

end FrameReplay
