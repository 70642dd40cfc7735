import FrameReplay.Octets

/-!
# Hexadecimal text

The plain hexadecimal codec, as libraries have it: `encode` writes each octet as two lower-case
digits, the higher one first, and nothing around or between them. `decode` reads digits of either
case; text of odd length is refused before any character is looked at, and of several wrong
characters the first is reported. Both work on the octets of the text, so positions count bytes.
-/

namespace FrameReplay.Text.Hex

/-- Why text is not hexadecimal. -/
inductive Fault where
  /-- The text cannot be split into pairs of digits. -/
  | oddLength
  /-- The octet at `position` is no digit. -/
  | badDigit (octet : UInt8) (position : Nat)
  deriving DecidableEq, Repr

/-- The lower-case digit for a value below sixteen. -/
def digit (value : Nat) : UInt8 :=
  if value < 10 then UInt8.ofNat (48 + value) else UInt8.ofNat (87 + value)

/-- The value of a digit of either case. -/
def value? (octet : UInt8) : Option Nat :=
  let n := octet.toNat
  if 48 ≤ n ∧ n ≤ 57 then some (n - 48)
  else if 97 ≤ n ∧ n ≤ 102 then some (n - 87)
  else if 65 ≤ n ∧ n ≤ 70 then some (n - 55)
  else none

/-- Two lower-case digits for every octet. -/
def encode (data : Octets) : Octets :=
  data.flatMap fun octet => [digit (octet.toNat / 16), digit (octet.toNat % 16)]

/-- Reads pairs of digits; `position` is the place of the first one in the whole text. -/
def decodePairs (position : Nat) : Octets → Except Fault Octets
  | high :: low :: rest =>
    match value? high, value? low with
    | some h, some l => do
      let tail ← decodePairs (position + 2) rest
      pure (UInt8.ofNat (h * 16 + l) :: tail)
    | none, _ => .error (.badDigit high position)
    | some _, none => .error (.badDigit low (position + 1))
  | [_] => .error .oddLength
  | [] => .ok []

/-- The octets that a text of hexadecimal digits spells. -/
def decode (text : Octets) : Except Fault Octets :=
  if text.length % 2 = 1 then .error .oddLength else decodePairs 0 text

/-- The lower-case hexadecimal text of `data`. -/
def toText (data : Octets) : String :=
  String.ofList ((encode data).map fun octet => Char.ofNat octet.toNat)

end FrameReplay.Text.Hex
