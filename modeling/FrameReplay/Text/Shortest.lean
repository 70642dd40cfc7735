/-!
# Shortest decimal text of a double

A finite double stands for `m * 2 ^ q`. `shortest` finds the fewest decimal digits that still read
back as the same double: for one digit, two digits and so on it tests the two neighbours of the
value on that decimal grid in exact arithmetic, and the first grid with a neighbour inside the
interval of reals that round to the double wins. `FloatText` holds the choices of one written form.
-/

namespace FrameReplay.Text

def twoTo (power : Nat) : Nat := Nat.pow 2 power

def tenTo (power : Nat) : Nat := Nat.pow 10 power

/-- A positive double, taken apart: the value is `significand * 2 ^ exponent`. -/
structure Binary where
  significand : Nat
  /-- The power of two it is scaled by. -/
  exponent : Int
  /-- The neighbour below is only half as far away as the one above. -/
  narrowBelow : Bool
  deriving Repr

/-- Takes apart the magnitude of a finite double, given by its bits. -/
def Binary.ofBits (bits : UInt64) : Binary :=
  let n := bits.toNat
  let fraction : Nat := n % twoTo 52
  let biased : Nat := n / twoTo 52 % twoTo 11
  if biased = 0 then ⟨fraction, -1074, false⟩
  else ⟨twoTo 52 + fraction, (biased : Int) - 1075, fraction == 0 && biased != 1⟩

/-- The value in quarters of the last place, as a fraction, with the ends of its interval. -/
structure Quarters where
  value : Nat
  low : Nat
  high : Nat
  denominator : Nat
  /-- Whether the ends themselves round to the value. -/
  closed : Bool
  deriving Repr

/-- The interval of reals that round to a double. -/
def Binary.quarters (b : Binary) : Quarters :=
  let unit := twoTo (b.exponent - 2).toNat
  { value := 4 * b.significand * unit
    low := (4 * b.significand - if b.narrowBelow then 1 else 2) * unit
    high := (4 * b.significand + 2) * unit
    denominator := twoTo (2 - b.exponent).toNat
    closed := b.significand % 2 == 0 }

/-- Whether `c * 10 ^ place` lies in the interval. -/
def Quarters.holds (k : Quarters) (c : Nat) (place : Int) : Bool :=
  let x := c * tenTo place.toNat * k.denominator
  let scale := tenTo (-place).toNat
  if k.closed then k.low * scale ≤ x && x ≤ k.high * scale
  else k.low * scale < x && x < k.high * scale

/-- The exponent of the leading decimal digit of the value. -/
def Quarters.leading (k : Quarters) : Int :=
  ((Nat.toDigits 10 (k.value * tenTo 400 / k.denominator)).length : Int) - 401

/-- Tries grids of `count`, `count + 1`, … digits and gives the digits and the exponent of the
leading one; `tries` bounds the number of grids. -/
def Quarters.search (k : Quarters) (leading : Int) : Nat → Nat → Nat × Int
  | 0, _ => (0, leading)
  | tries + 1, count =>
    let place := leading - count + 1
    let below := k.value * tenTo (-place).toNat / (k.denominator * tenTo place.toNat)
    let twice := 2 * k.value * tenTo (-place).toNat
    let middle := (2 * below + 1) * k.denominator * tenTo place.toNat
    match k.holds below place && below != 0, k.holds (below + 1) place with
    | true, false => (below, place)
    | false, true => (below + 1, place)
    | true, true =>
      if twice < middle ∨ (twice = middle ∧ below % 2 = 0) then (below, place)
      else (below + 1, place)
    | false, false => k.search leading tries (count + 1)

/-- The fewest digits, as a number without trailing zeros, and the power of ten they are scaled by,
of a positive finite double. -/
def shortest (bits : UInt64) : Nat × Int :=
  let k := (Binary.ofBits bits).quarters
  let (number, place) := k.search k.leading 17 1
  -- The neighbour above can be the next power of ten, which is one digit too long.
  if number % 10 = 0 then (number / 10, place + 1) else (number, place)

/-- Choices of the written form of a double. -/
structure FloatText where
  /-- The least exponent of the leading digit that is written without an exponent. -/
  leastFixed : Int
  greatestFixed : Int
  /-- What introduces an exponent that is not negative. -/
  exponentMark : String
  deriving Repr

/-- Digits with a point after the first `count` of them. -/
def pointAfter (digits : List Char) (count : Nat) : String :=
  String.ofList (digits.take count) ++ "." ++ String.ofList (digits.drop count)

/-- The written form of a finite double. A value without a fraction keeps one zero behind its
point. -/
def FloatText.render (form : FloatText) (x : Float) : String :=
  let bits := x.toBits
  let sign := if bits.toNat < twoTo 63 then "" else "-"
  let magnitude := UInt64.ofNat (bits.toNat % twoTo 63)
  if magnitude = 0 then sign ++ "0.0"
  else
    let (number, place) := shortest magnitude
    let digits := Nat.toDigits 10 number
    let exponent := place + digits.length - 1
    let body :=
      if form.leastFixed ≤ exponent ∧ exponent ≤ form.greatestFixed then
        if 0 ≤ place then
          String.ofList (digits ++ List.replicate place.toNat '0') ++ ".0"
        else if 0 ≤ exponent then pointAfter digits (exponent.toNat + 1)
        else "0." ++ String.ofList (List.replicate (-exponent - 1).toNat '0' ++ digits)
      else
        let mantissa := if digits.length ≤ 1 then String.ofList digits else pointAfter digits 1
        let mark := if 0 ≤ exponent then form.exponentMark else "e-"
        mantissa ++ mark ++ toString exponent.natAbs
    sign ++ body

end FrameReplay.Text
