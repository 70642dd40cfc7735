/-!
# Numerals

Numerals in a radix up to 36, and decimal numbers with a point and an exponent, without a sign in
front.
-/

namespace FrameReplay.Text

/-- The value of a digit in a radix. -/
def digitIn? (radix : Nat) (c : Char) : Option Nat :=
  let value :=
    if '0' ≤ c ∧ c ≤ '9' then c.toNat - 48
    else if 'a' ≤ c ∧ c ≤ 'z' then c.toNat - 87
    else if 'A' ≤ c ∧ c ≤ 'Z' then c.toNat - 55
    else radix
  if value < radix then some value else none

/-- The number that digits spell in a radix. -/
def natIn? (radix : Nat) (digits : List Char) : Option Nat :=
  if digits.isEmpty then none
  else digits.foldlM (fun n c => (digitIn? radix c).map (n * radix + ·)) 0

/-- Whether a character is a decimal digit. -/
def isDigit (c : Char) : Bool := (digitIn? 10 c).isSome

/-- The character with a code point, if there is one. -/
def charOf? (n : Nat) : Option Char := if n.isValidChar then some (Char.ofNat n) else none

/-- A decimal number: its digits, and the power of ten that they are scaled by. -/
structure Decimal where
  digits : Nat
  count : Nat
  exponent : Int

/-- Reads an exponent with its letter, or nothing at all. -/
def exponent? : List Char → Option Int
  | [] => some 0
  | c :: rest =>
    if c = 'e' ∨ c = 'E' then
      match rest with
      | '-' :: digits => (natIn? 10 digits).map fun n => -(n : Int)
      | '+' :: digits | digits => (natIn? 10 digits).map fun n => (n : Int)
    else none

/-- Reads digits with a point somewhere among them and an exponent behind them. -/
def decimal? (text : List Char) : Option Decimal :=
  let (whole, rest) := text.span isDigit
  let (fraction, rest) :=
    match rest with
    | '.' :: rest => rest.span isDigit
    | rest => ([], rest)
  match natIn? 10 (whole ++ fraction), exponent? rest with
  | some digits, some exponent =>
    some ⟨digits, whole.length + fraction.length, exponent - fraction.length⟩
  | _, _ => none

/-- The double nearest to a decimal number, if it is finite. -/
def Decimal.toFloat? (d : Decimal) : Option Float :=
  if d.digits = 0 then some 0.0
  else if 400 < d.exponent + d.count ∧ 400 < d.exponent then none
  else if d.exponent + d.count < -400 then some 0.0
  else
    let x : Float := OfScientific.ofScientific d.digits (d.exponent < 0) d.exponent.natAbs
    if x.isFinite then some x else none

end FrameReplay.Text
