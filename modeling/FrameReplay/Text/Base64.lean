import FrameReplay.Octets

/-!
# Base64 text

The standard base64 codec, as libraries have it: the alphabet with `+` and `/`, and canonical
padding, which is `=` only at the end and only as many as make the text a multiple of four, with no
bits left over in the last symbol. When text is refused, the faults are found in a fixed
order: the length of the text, then a character in front of the last group of eight, then the last
group from left to right, then the amount of padding, then the left-over bits.
-/

namespace FrameReplay.Text.Base64

/-- Why text is not canonical base64. -/
inductive Fault where
  /-- An octet that cannot stand where it stands. -/
  | badOctet (octet : UInt8) (offset : Nat)
  /-- A single symbol is left over, which holds less than an octet. -/
  | badLength
  /-- The last symbol carries bits that no octet takes. -/
  | badLastSymbol (octet : UInt8) (offset : Nat)
  /-- Symbols and padding do not fill groups of four. -/
  | badPadding
  deriving DecidableEq, Repr

def pad : UInt8 := 61

/-- The symbol for a value below sixty-four. -/
def symbol (value : Nat) : UInt8 :=
  if value < 26 then UInt8.ofNat (65 + value)
  else if value < 52 then UInt8.ofNat (71 + value)
  else if value < 62 then UInt8.ofNat (value - 4)
  else if value = 62 then 43 else 47

/-- The value of a symbol; `=` has none. -/
def value? (octet : UInt8) : Option Nat :=
  let n := octet.toNat
  if 65 ≤ n ∧ n ≤ 90 then some (n - 65)
  else if 97 ≤ n ∧ n ≤ 122 then some (n - 71)
  else if 48 ≤ n ∧ n ≤ 57 then some (n + 4)
  else if n = 43 then some 62
  else if n = 47 then some 63
  else none

/-- Three octets become four symbols; the last group is filled up with `=`. -/
def encode : Octets → Octets
  | [] => []
  | [a] => [symbol (a.toNat / 4), symbol (a.toNat % 4 * 16), pad, pad]
  | [a, b] =>
    [symbol (a.toNat / 4), symbol (a.toNat % 4 * 16 + b.toNat / 16),
      symbol (b.toNat % 16 * 4), pad]
  | a :: b :: c :: rest =>
    symbol (a.toNat / 4) :: symbol (a.toNat % 4 * 16 + b.toNat / 16) ::
      symbol (b.toNat % 16 * 4 + c.toNat / 64) :: symbol (c.toNat % 64) :: encode rest

/-- The octets that a run of six-bit values fills; left-over bits are dropped. -/
def join : List Nat → Octets
  | a :: b :: c :: d :: rest =>
    UInt8.ofNat (a * 4 + b / 16) :: UInt8.ofNat (b % 16 * 16 + c / 4) ::
      UInt8.ofNat (c % 4 * 64 + d) :: join rest
  | [a, b, c] => [UInt8.ofNat (a * 4 + b / 16), UInt8.ofNat (b % 16 * 16 + c / 4)]
  | [a, b] => [UInt8.ofNat (a * 4 + b / 16)]
  | _ => []

/-- The values of symbols that stand in front of the last group, `offset` being the first one's. -/
def readSymbols (offset : Nat) : Octets → Except Fault (List Nat)
  | [] => .ok []
  | octet :: rest =>
    match value? octet with
    | some v => do
      let tail ← readSymbols (offset + 1) rest
      pure (v :: tail)
    | none => .error (.badOctet octet offset)

/-- The last group while it is read from left to right. -/
structure Group where
  /-- The six-bit values read so far, last one first. -/
  values : List Nat
  lastSymbol : UInt8
  /-- Place in the group of the first `=`, if one was read. -/
  firstPad : Option Nat
  pads : Nat
  deriving Repr

/-- Takes in the octet at place `i` of the last group, which begins at `base`. -/
def Group.step (base i : Nat) (group : Group) (octet : UInt8) : Except Fault Group :=
  if octet = pad then
    if i % 4 < 2 then .error (.badOctet pad (base + group.firstPad.getD i))
    else .ok { group with firstPad := some (group.firstPad.getD i), pads := group.pads + 1 }
  else
    match group.firstPad with
    | some j => .error (.badOctet pad (base + j))
    | none =>
      match value? octet with
      | some v => .ok { group with values := v :: group.values, lastSymbol := octet }
      | none => .error (.badOctet octet (base + i))

/-- Takes in the octets of the last group from place `i` on. -/
def Group.readFrom (base i : Nat) (group : Group) : Octets → Except Fault Group
  | [] => .ok group
  | octet :: rest => do
    let next ← group.step base i octet
    next.readFrom base (i + 1) rest

/-- Bits of the last symbol that no octet takes, given all values with the last one first. -/
def leftover (values : List Nat) : Nat :=
  match values.length % 4, values with
  | 2, last :: _ => last % 16
  | 3, last :: _ => last % 4
  | _, _ => 0

/-- The octets that canonical base64 text stands for. -/
def decode (text : Octets) : Except Fault Octets := do
  let n := text.length
  if n = 0 then
    return []
  if n % 4 = 1 then
    let last := text.getLast?.getD 0
    throw (if last = pad ∨ (value? last).isSome then .badLength else .badOctet last (n - 1))
  let base := n - (if n % 8 = 0 then 8 else n % 8)
  let front ← readSymbols 0 (text.take base)
  let group ← Group.readFrom base 0 ⟨[], 0, none, 0⟩ (text.drop base)
  if (group.values.length + group.pads) % 4 ≠ 0 then
    throw .badPadding
  if leftover group.values ≠ 0 then
    throw (.badLastSymbol group.lastSymbol (base + group.values.length - 1))
  return join (front ++ group.values.reverse)

end FrameReplay.Text.Base64
