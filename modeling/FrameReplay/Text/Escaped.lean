import FrameReplay.Text.Printable

/-!
# Escaped text

Text quoted for a message. The backslash, the quote in use, tabulator, line feed, carriage return
and NUL have escapes of two characters; any other character that would not show as itself is
written by its code point in braces.
-/

namespace FrameReplay.Text

/-- The lower-case hexadecimal digits of a number. -/
def hexNumber (n : Nat) : String := String.ofList (Nat.toDigits 16 n)

/-- One character as it stands between two `quote`s. -/
def escapeChar (quote c : Char) : String :=
  if c = quote ∨ c = '\\' then String.ofList ['\\', c]
  else if c = '\t' then "\\t"
  else if c = '\n' then "\\n"
  else if c = '\r' then "\\r"
  else if c.val = 0 then "\\0"
  else if isPrintable c then String.singleton c
  else "\\u\x7b" ++ hexNumber c.val.toNat ++ "\x7d"

/-- A character between single quotes. -/
def quoteChar (c : Char) : String := "'" ++ escapeChar '\'' c ++ "'"

/-- A text between double quotes. -/
def quoteText (text : String) : String :=
  "\"" ++ String.join (text.toList.map (escapeChar '"')) ++ "\""

end FrameReplay.Text
