import FrameReplay.Octets
import FrameReplay.Text.Hex

/-!
# MAC addresses

Six octets, written as six pairs of lower-case digits with colons between them. The reader also
takes upper-case digits and hyphens, and each of its groups is a number of two characters, so that
a plus sign and one digit make a group too (`readGroup?`).
-/

namespace FrameReplay

structure Mac where
  a : UInt8
  b : UInt8
  c : UInt8
  d : UInt8
  e : UInt8
  f : UInt8
  deriving DecidableEq, Repr, Inhabited

namespace Mac

/-- The address of every station. -/
def broadcast : Mac := ⟨255, 255, 255, 255, 255, 255⟩

/-- The address of no station. -/
def zero : Mac := ⟨0, 0, 0, 0, 0, 0⟩

/-- The locally administered address that frames are sent from by default. -/
def «local» : Mac := ⟨2, 0, 0, 0, 0, 1⟩

/-- The octets in order of transmission. -/
def toOctets (mac : Mac) : Octets := [mac.a, mac.b, mac.c, mac.d, mac.e, mac.f]

/-- Six groups of two lower-case digits. -/
def toText (mac : Mac) : String :=
  ":".intercalate (mac.toOctets.map fun octet => Text.Hex.toText [octet])

/-- The value of a hexadecimal digit of either case. -/
def digit? (c : Char) : Option Nat :=
  if c.val < 128 then Text.Hex.value? (UInt8.ofNat c.val.toNat) else none

/-- One group: two digits, or a plus sign and one digit. -/
def readGroup? : List Char → Option UInt8
  | [high, low] =>
    if high = '+' then do
      return UInt8.ofNat (← digit? low)
    else do
      return UInt8.ofNat ((← digit? high) * 16 + (← digit? low))
  | _ => none

/-- Whether a character separates two groups. -/
def isSeparator (c : Char) : Bool := c == ':' || c == '-'

/-- Reads six groups with a colon or a hyphen between any two. -/
def ofText? (text : String) : Option Mac :=
  match text.toList.splitOnP isSeparator with
  | [a, b, c, d, e, f] => do
    return ⟨← readGroup? a, ← readGroup? b, ← readGroup? c, ← readGroup? d, ← readGroup? e,
      ← readGroup? f⟩
  | _ => none

end Mac

end FrameReplay
