import FrameReplay.Overwrite

/-!
# Differences of lengths

The lengths of a frame are words of 64 bits, the change from one to another is a signed word of 32.
The difference is taken as if the lengths were signed words, so it is the difference of the numbers
up to a multiple of 2^64 (`toInt_difference`).  For lengths close below 2^64 that multiple is not
zero, and what should be a shrink comes out as a small growth (`resizeDelta?_of_wrapped`).  For all
other lengths the change is the difference of the numbers if it fits, and there is none if it does
not (`resizeDelta?_of_near`, `resizeDelta?_of_far`).
-/

namespace FrameReplay

theorem toInt_difference (current : UInt64) (target : Nat) :
    ((UInt64.ofNat target).toInt64 - current.toInt64).toInt =
      ((target : Int) - current.toNat).bmod 18446744073709551616 := by
  have signed (n : Nat) : (UInt64.ofNat n).toInt64.toInt = (n : Int).bmod 18446744073709551616 :=
    Int64.toInt_ofNat'
  have held := signed current.toNat
  rw [UInt64.ofNat_toNat] at held
  rw [Int64.toInt_sub, held, signed, Int.bmod_sub_bmod, Int.sub_bmod_bmod]

section

variable {current : UInt64} {target : Nat} {difference : Int}
  (wraps : ((target : Int) - current.toNat).bmod 18446744073709551616 = difference)

include wraps

theorem resizeDelta?_eq_some (low : -2147483648 ≤ difference) (high : difference < 2147483648) :
    ∃ delta, resizeDelta? current target = some delta ∧ delta.toInt = difference := by
  have least : Int32.minValue.toInt = -2147483648 := by decide
  have most : Int32.maxValue.toInt = 2147483647 := by decide
  refine ⟨_, if_pos ?_, ?_⟩
  · rw [toInt_difference, wraps, least, most]
    omega
  · rw [Int64.toInt_toInt32, toInt_difference, wraps]
    exact Int.bmod_eq_of_le_mul_two (by omega) (by omega)

theorem resizeDelta?_eq_none (outside : difference < -2147483648 ∨ 2147483648 ≤ difference) :
    resizeDelta? current target = none := by
  have least : Int32.minValue.toInt = -2147483648 := by decide
  have most : Int32.maxValue.toInt = 2147483647 := by decide
  apply if_neg
  rw [toInt_difference, wraps, least, most]
  omega

end

section

variable {current : UInt64} {target : Nat} (small : target < 2147483648)

include small

theorem bmod_difference_of_le (half : current.toNat ≤ target + 9223372036854775808) :
    ((target : Int) - current.toNat).bmod 18446744073709551616 = (target : Int) - current.toNat :=
  Int.bmod_eq_of_le_mul_two (by omega) (by omega)

theorem bmod_difference_of_lt (half : target + 9223372036854775808 < current.toNat) :
    ((target : Int) - current.toNat).bmod 18446744073709551616 =
      (target : Int) - current.toNat + 18446744073709551616 := by
  have bound := current.toNat_lt
  rw [← Int.add_bmod_right]
  exact Int.bmod_eq_of_le_mul_two (by omega) (by omega)

/-- A difference that fits is the change. -/
theorem resizeDelta?_of_near (near : current.toNat ≤ target + 2147483648) :
    ∃ delta, resizeDelta? current target = some delta ∧
      delta.toInt = (target : Int) - current.toNat := by
  apply resizeDelta?_eq_some (bmod_difference_of_le small (by omega))
  · omega
  · omega

/-- A difference that does not fit is refused, unless the length is so great that it passes for a
small negative one. -/
theorem resizeDelta?_of_far (far : target + 2147483648 < current.toNat)
    (below : current.toNat + 2147483648 ≤ 18446744073709551616 + target) :
    resizeDelta? current target = none := by
  -- Beyond half of all words the difference wraps around, and is too great a growth.
  by_cases half : current.toNat ≤ target + 9223372036854775808
  · apply resizeDelta?_eq_none (bmod_difference_of_le small half)
    omega
  · apply resizeDelta?_eq_none (bmod_difference_of_lt small (by omega))
    omega

/-- Close below 2^64 a length passes for a small negative one, and a shrink becomes a growth. -/
theorem resizeDelta?_of_wrapped
    (beyond : 18446744073709551616 + target < current.toNat + 2147483648) :
    ∃ delta, resizeDelta? current target = some delta ∧
      delta.toInt = (target : Int) - current.toNat + 18446744073709551616 := by
  have bound := current.toNat_lt
  apply resizeDelta?_eq_some (bmod_difference_of_lt small (by omega))
  · omega
  · omega

end

end FrameReplay
