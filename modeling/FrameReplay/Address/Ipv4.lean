import FrameReplay.Octets

/-!
# IPv4 addresses

Four octets, written as four decimal numbers with points between them. A number has one to three
digits, is at most 255 and does not begin with a superfluous zero.
-/

namespace FrameReplay

structure Ipv4 where
  a : UInt8
  b : UInt8
  c : UInt8
  d : UInt8
  deriving DecidableEq, Repr, Inhabited

namespace Ipv4

/-- The octets in network order. -/
def toOctets (ip : Ipv4) : Octets := [ip.a, ip.b, ip.c, ip.d]

def loopback : Ipv4 := ⟨127, 0, 0, 1⟩

def toText (ip : Ipv4) : String :=
  ".".intercalate (ip.toOctets.map fun octet => toString octet.toNat)

/-- One number of the dotted form. -/
def readPart? (digits : List Char) : Option UInt8 :=
  if digits.isEmpty ∨ 3 < digits.length ∨ !digits.all Char.isDigit then none
  else if 1 < digits.length ∧ digits.head? = some '0' then none
  else
    let value := digits.foldl (fun n c => n * 10 + (c.toNat - 48)) 0
    if value < 256 then some (UInt8.ofNat value) else none

def ofText? (text : String) : Option Ipv4 :=
  match text.toList.splitOn '.' with
  | [a, b, c, d] => do
    return ⟨← readPart? a, ← readPart? b, ← readPart? c, ← readPart? d⟩
  | _ => none

end Ipv4

end FrameReplay
