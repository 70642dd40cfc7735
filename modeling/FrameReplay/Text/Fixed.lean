import FrameReplay.Text.Shortest

/-!
# Doubles with fixed places

A double written with a given number of places behind the point, rounded from its exact value; a
value half way between two goes to the even one.
-/

namespace FrameReplay.Text

/-- A quotient rounded to the nearest whole number, and to the even one of two that are as near. -/
def roundHalfEven (numerator denominator : Nat) : Nat :=
  let below := numerator / denominator
  let twice := 2 * (numerator % denominator)
  if twice < denominator ∨ (twice = denominator ∧ below % 2 = 0) then below else below + 1

/-- The written form of a finite double with `places` digits behind the point. -/
def fixed (places : Nat) (x : Float) : String :=
  let bits := x.toBits.toNat
  let sign := if bits < twoTo 63 then "" else "-"
  let b := Binary.ofBits (UInt64.ofNat (bits % twoTo 63))
  let n := roundHalfEven (b.significand * tenTo places * twoTo b.exponent.toNat)
    (twoTo (-b.exponent).toNat)
  let digits := Nat.toDigits 10 n
  let padded := List.replicate (places + 1 - digits.length) '0' ++ digits
  if places = 0 then sign ++ String.ofList padded
  else sign ++ pointAfter padded (padded.length - places)

end FrameReplay.Text
