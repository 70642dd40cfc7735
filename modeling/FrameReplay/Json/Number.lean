import FrameReplay.Document.Node

/-!
# JSON numbers

A whole number of 64 bits is a whole number; every other number is a double. As many leading digits
as fit 64 bits make the significand, and the result is scaled by one power of ten, or by several
where the exponent is below -308. A number past the greatest double is well written and stands for
nothing.
-/

namespace FrameReplay.Json

/-- A number while it is read. -/
structure Digits where
  significand : Nat
  /-- The power of ten that they are scaled by. -/
  exponent : Int
  deriving DecidableEq, Repr

/-- The value of a decimal digit. -/
def digit? (c : Char) : Option Nat :=
  if '0' ≤ c ∧ c ≤ '9' then some (c.toNat - 48) else none

/-- A digit more, as long as the digits fit 64 bits. -/
def Digits.push? (digits : Digits) (d : Nat) : Option Digits :=
  let grown := digits.significand * 10 + d
  if grown < UInt64.size then some { digits with significand := grown } else none

/-- Leading digits in front of the point; those that do not fit only scale the number. -/
def readWhole (digits : Digits) (full : Bool) : List Char → Digits × Bool × List Char
  | [] => (digits, full, [])
  | c :: rest =>
    match digit? c with
    | none => (digits, full, c :: rest)
    | some d =>
      match if full then none else digits.push? d with
      | some grown => readWhole grown false rest
      | none => readWhole { digits with exponent := digits.exponent + 1 } true rest

/-- Digits behind the point; the first one that does not fit is dropped with all that follow. -/
def readFraction (digits : Digits) : List Char → Digits × List Char
  | [] => (digits, [])
  | c :: rest =>
    match digit? c with
    | none => (digits, c :: rest)
    | some d =>
      match digits.push? d with
      | some grown => readFraction { grown with exponent := grown.exponent - 1 } rest
      | none => (digits, rest.dropWhile fun c => (digit? c).isSome)

/-- The number that decimal digits spell. -/
def natOfDigits (digits : List Char) : Nat :=
  digits.foldl (fun n c => n * 10 + (digit? c).getD 0) 0

/-- A power of ten as a double. -/
def tenTo (power : Nat) : Float := OfScientific.ofScientific 1 false power

/-- A double divided by a power of ten. -/
def scaleDown (x : Float) (power : Nat) : Float :=
  if x == 0.0 then x
  else if h : power ≤ 308 then x / tenTo power
  else scaleDown (x / tenTo 308) (power - 308)
termination_by power

/-- The double that digits stand for, if it is finite. -/
def Digits.toFloat? (digits : Digits) : Option Float :=
  let x := (UInt64.ofNat digits.significand).toFloat
  if digits.exponent < 0 then some (scaleDown x digits.exponent.natAbs)
  else if x == 0.0 then some x
  else if 308 < digits.exponent then none
  else
    let scaled := x * tenTo digits.exponent.natAbs
    if scaled.isFinite then some scaled else none

/-- The node of a double with a sign. -/
def floatNode (negative : Bool) (x? : Option Float) : Node :=
  match x? with
  | some x => .float (if negative then -x else x)
  | none => .valueless

/-- The node of digits without fraction and exponent. Zero with a sign is no whole number. -/
def wholeNode (negative : Bool) (digits : Digits) (full : Bool) : Node :=
  if full then floatNode negative digits.toFloat?
  else if !negative then .int digits.significand
  else if 0 < digits.significand ∧ digits.significand ≤ 9223372036854775808 then
    .int (-digits.significand)
  else floatNode true digits.toFloat?

/-- What stands where a digit is needed and none is. -/
def digitMissing : List Char → Node × Option (List Char)
  | [] => (.broken .ended .malformed, none)
  | _ => (.broken .malformed .malformed, none)

/-- The node of digits scaled by a further power of ten with `exponent` as its digits. -/
def scaledNode (negative : Bool) (digits : Digits) (down : Bool) (exponent : List Char) : Node :=
  let power := natOfDigits exponent
  if power < 2147483648 then
    let power : Int := if down then -power else power
    floatNode negative ({ digits with exponent := digits.exponent + power }).toFloat?
  else if digits.significand ≠ 0 ∧ !down then .valueless
  else floatNode negative (some 0.0)

/-- Reads an exponent, behind its letter. -/
def readExponent (negative : Bool) (digits : Digits) (text : List Char) :
    Node × Option (List Char) :=
  let (down, text) :=
    match text with
    | '+' :: rest => (false, rest)
    | '-' :: rest => (true, rest)
    | _ => (false, text)
  let (exponent, rest) := text.span fun c => (digit? c).isSome
  if exponent.isEmpty then digitMissing text
  else (scaledNode negative digits down exponent, some rest)

/-- Reads what may follow the digits of a fraction. -/
def readScale (negative : Bool) (digits : Digits) : List Char → Node × Option (List Char)
  | 'e' :: rest | 'E' :: rest => readExponent negative digits rest
  | rest => (floatNode negative digits.toFloat?, some rest)

/-- Reads a number without its sign, and gives the text behind it. A zero cannot lead further
digits. -/
def readUnsigned (negative : Bool) (text : List Char) : Node × Option (List Char) :=
  match text with
  | [] => digitMissing []
  | c :: rest =>
    match digit? c with
    | none => digitMissing text
    | some first =>
      if first = 0 ∧ (rest.head?.bind digit?).isSome then digitMissing rest
      else
        let (digits, full, rest) := readWhole ⟨first, 0⟩ false rest
        match rest with
        | '.' :: rest =>
          if (rest.head?.bind digit?).isSome then
            let (digits, rest) := readFraction digits rest
            readScale negative digits rest
          else digitMissing rest
        | 'e' :: rest | 'E' :: rest => readExponent negative digits rest
        | rest => (wholeNode negative digits full, some rest)

end FrameReplay.Json
