import FrameReplay.Document.Node
import FrameReplay.Text.Numeral

/-!
# Plain YAML scalars

A scalar without quotes is a null, a truth value, a whole number of at most 128 bits or a finite
number if it reads as one, in this order, and a text otherwise. Digits behind a leading zero are no
number, so that a padded number keeps its zeros.
-/

namespace FrameReplay.Yaml

/-- A scalar without one sign in front. -/
def unsigned : List Char → List Char
  | '+' :: rest => rest
  | '-' :: rest => rest
  | text => text

/-- Whether a scalar consists of digits behind a leading zero. -/
def isPadded (text : List Char) : Bool :=
  match unsigned text with
  | '0' :: rest => !rest.isEmpty && rest.all Text.isDigit
  | _ => false

/-- The magnitude of a whole number without sign, in any of its radices. -/
def magnitude? (text : List Char) : Option Nat :=
  match text with
  | '0' :: 'x' :: digits => Text.natIn? 16 digits
  | '0' :: 'o' :: digits => Text.natIn? 8 digits
  | '0' :: 'b' :: digits => Text.natIn? 2 digits
  | digits => if isPadded digits then none else Text.natIn? 10 digits

/-- The whole number that a scalar spells, if it fits 128 bits. -/
def int? (text : List Char) : Option Int :=
  match text with
  | '-' :: rest =>
    match magnitude? rest with
    | some n => if n ≤ Nat.pow 2 127 then some (-n) else none
    | none => none
  | '+' :: rest | rest =>
    match magnitude? rest with
    | some n => if n < Nat.pow 2 128 then some n else none
    | none => none

/-- The finite number that a scalar spells. -/
def float? (text : List Char) : Option Float :=
  match text with
  | '-' :: rest => ((Text.decimal? rest).bind Text.Decimal.toFloat?).map (-·)
  | '+' :: rest | rest => (Text.decimal? rest).bind Text.Decimal.toFloat?

/-- The scalars that stand for infinities and for no number. -/
def special? : String → Option Float
  | ".inf" | ".Inf" | ".INF" | "+.inf" | "+.Inf" | "+.INF" => some (1.0 / 0.0)
  | "-.inf" | "-.Inf" | "-.INF" => some (-1.0 / 0.0)
  | ".nan" | ".NaN" | ".NAN" => some (0.0 / 0.0)
  | _ => none

/-- The scalars that stand for null and for the truth values. -/
def word? : String → Option Node
  | "null" | "Null" | "NULL" | "~" => some .null
  | "true" | "True" | "TRUE" => some (.bool true)
  | "false" | "False" | "FALSE" => some (.bool false)
  | _ => none

/-- What a scalar without quotes stands for. -/
def resolve (text : String) : Node :=
  let chars := text.toList
  if chars.isEmpty then .absent
  else
    match word? text, int? chars, special? text with
    | some node, _, _ => node
    | none, some n, _ => .int n
    | none, none, some x => .float x
    | none, none, none =>
      if isPadded chars then .text text
      else
        match float? chars with
        | some x => .float x
        | none => .text text

end FrameReplay.Yaml
