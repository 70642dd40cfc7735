import FrameReplay.Yaml.Scalar

/-!
# Writing YAML

Trees written as blocks: an entry or an item per line, two blanks per level, the dashes of a list
in the column of the key above it. A text of letters, digits, points and low lines is written plain,
unless a reader would take it for a value of another kind; any other text stands between single
quotes.
-/

namespace FrameReplay.Yaml

/-- Whether a character may stand in a plain text wherever it is. -/
def isPlainChar (c : Char) : Bool := c.isAlphanum || c == '.' || c == '_'

/-- Whether a text reads as itself without quotes. -/
def readsPlain (text : String) : Bool :=
  let chars := text.toList
  chars.all isPlainChar && !isPadded chars &&
    match resolve text with
    | .text _ => true
    | _ => false

/-- A text between single quotes, each quote inside written twice. -/
def quote (text : String) : String :=
  "'" ++ String.ofList (text.toList.flatMap fun c => if c = '\'' then [c, c] else [c]) ++ "'"

/-- A value on one line; collections on one line are empty. -/
def scalar : Node → String
  | .bool true => "true"
  | .bool false => "false"
  | .int value => toString value
  | .float value => Node.floatText.render value
  | .text value => if readsPlain value then value else quote value
  | .list _ => "[]"
  | .record _ => "\x7b\x7d"
  | _ => "null"

/-- Blanks in front of a line. -/
def margin (column : Nat) : String := String.ofList (List.replicate column ' ')

/-- Whether a node stands on lines of its own. -/
def hasLines : Node → Bool
  | .list items => !items.isEmpty
  | .record entries => !entries.isEmpty
  | _ => false

mutual

/-- The lines of a collection at a column, without the margin of the first one. -/
def body (column : Nat) : Node → String
  | .list items => itemLines column items
  | .record entries => entryLines column entries
  | _ => ""

/-- The lines of list items. -/
def itemLines (column : Nat) : List Node → String
  | [] => ""
  | item :: items =>
    let value :=
      if hasLines item then body (column + 2) item else scalar item ++ "\n"
    let next := if items.isEmpty then "" else margin column
    "- " ++ value ++ next ++ itemLines column items

/-- The lines of record entries. The dashes of a list stand in the column of its key. -/
def entryLines (column : Nat) : List (Node × Node) → String
  | [] => ""
  | (key, value) :: entries =>
    let value :=
      match value with
      | .record (entry :: more) =>
        "\n" ++ margin (column + 2) ++ entryLines (column + 2) (entry :: more)
      | .list (item :: more) => "\n" ++ margin column ++ itemLines column (item :: more)
      | _ => " " ++ scalar value ++ "\n"
    let next := if entries.isEmpty then "" else margin column
    scalar key ++ ":" ++ value ++ next ++ entryLines column entries

end

def render (node : Node) : String :=
  if hasLines node then body 0 node else scalar node ++ "\n"

end FrameReplay.Yaml
