import FrameReplay.Document.Node

/-!
# Writing JSON

Trees written without blanks (`compact`), or with an item per line and two blanks per level
(`pretty`). In strings the quote, the backslash and the control characters below the space are
escaped, with the short escapes where there are any.
-/

namespace FrameReplay.Json

/-- A hexadecimal digit in lower case. -/
def hexDigit (n : Nat) : Char := Nat.digitChar n

/-- One character of a string. -/
def escape (c : Char) : List Char :=
  if c = '"' then ['\\', '"']
  else if c = '\\' then ['\\', '\\']
  else if c = '\x08' then ['\\', 'b']
  else if c = '\x0c' then ['\\', 'f']
  else if c = '\n' then ['\\', 'n']
  else if c = '\r' then ['\\', 'r']
  else if c = '\t' then ['\\', 't']
  else if c < ' ' then ['\\', 'u', '0', '0', hexDigit (c.toNat / 16), hexDigit (c.toNat % 16)]
  else [c]

def quote (text : String) : String :=
  "\"" ++ String.ofList (text.toList.flatMap escape) ++ "\""

/-- A value that is no list and no record; what JSON cannot say is written as null. -/
def scalar : Node → String
  | .bool true => "true"
  | .bool false => "false"
  | .int value => toString value
  | .float value => Node.floatText.render value
  | .text value => quote value
  | _ => "null"

/-- A key; keys of other kinds are written as the text of their value. -/
def key : Node → String
  | .text value => quote value
  | node => quote (scalar node)

mutual

def compact : Node → String
  | .list items => "[" ++ ",".intercalate (compactItems items) ++ "]"
  | .record entries => "\x7b" ++ ",".intercalate (compactEntries entries) ++ "\x7d"
  | node => scalar node

/-- The items of a list without blanks. -/
def compactItems : List Node → List String
  | [] => []
  | item :: items => compact item :: compactItems items

/-- The entries of a record without blanks. -/
def compactEntries : List (Node × Node) → List String
  | [] => []
  | (name, value) :: entries => (key name ++ ":" ++ compact value) :: compactEntries entries

end

/-- A line break with the blanks of a level. -/
def lineBreak (level : Nat) : String := String.ofList ('\n' :: List.replicate (2 * level) ' ')

/-- Parts on lines of their own between two brackets; brackets without parts stay together. -/
def block (opening closing : String) (level : Nat) (parts : List String) : String :=
  if parts.isEmpty then opening ++ closing
  else
    opening ++ lineBreak (level + 1) ++ ("," ++ lineBreak (level + 1)).intercalate parts ++
      lineBreak level ++ closing

mutual

/-- A tree with an item per line, at a level. -/
def prettyAt (level : Nat) : Node → String
  | .list items => block "[" "]" level (prettyItems (level + 1) items)
  | .record entries => block "\x7b" "\x7d" level (prettyEntries (level + 1) entries)
  | node => scalar node

/-- The items of a list at a level. -/
def prettyItems (level : Nat) : List Node → List String
  | [] => []
  | item :: items => prettyAt level item :: prettyItems level items

/-- The entries of a record at a level. -/
def prettyEntries (level : Nat) : List (Node × Node) → List String
  | [] => []
  | (name, value) :: entries =>
    (key name ++ ": " ++ prettyAt level value) :: prettyEntries level entries

end

/-- A tree with an item per line. -/
def pretty (node : Node) : String := prettyAt 0 node

end FrameReplay.Json
