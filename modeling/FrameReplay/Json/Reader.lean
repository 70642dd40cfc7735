import FrameReplay.Document.Codec
import FrameReplay.Json.Number

/-!
# Reading JSON

`Json.read` turns a text into a tree. A text that goes wrong still gives a tree, which ends in a
broken leaf at the place of the fault; text behind the value is only noted. `Json.decode` reads a
value from the tree: faults are reported in the order of the text, and text behind the value only if
nothing else is wrong.
-/

namespace FrameReplay.Json

/-- Blanks between the parts of a text. -/
def isBlank (c : Char) : Bool := c == ' ' || c == '\n' || c == '\t' || c == '\r'

/-- A leaf at the place where a text goes wrong. -/
def fault (cut : Cut) : Node := .broken cut cut

/-- A value, and the text behind it unless the text went wrong. -/
abbrev Parsed := Node × Option (List Char)

/-- A text that goes wrong here. -/
def broken (cut : Cut) : Parsed := (fault cut, none)

/-- Reads the rest of a word that stands for a value. -/
def readWord (value : Node) : List Char → List Char → Parsed
  | [], rest => (value, some rest)
  | _ :: _, [] => broken .ended
  | expected :: word, c :: rest =>
    if c = expected then readWord value word rest else broken .malformed

/-- The value of a hexadecimal digit. -/
def hexDigit? (c : Char) : Option Nat :=
  if '0' ≤ c ∧ c ≤ '9' then some (c.toNat - 48)
  else if 'a' ≤ c ∧ c ≤ 'f' then some (c.toNat - 87)
  else if 'A' ≤ c ∧ c ≤ 'F' then some (c.toNat - 55)
  else none

/-- The value of four hexadecimal digits. -/
def hexQuad? (a b c d : Char) : Option Nat := do
  let digits ← [a, b, c, d].mapM hexDigit?
  return digits.foldl (fun n d => n * 16 + d) 0

/-- The character of an escape of two characters. -/
def escaped? : Char → Option Char
  | '"' => some '"'
  | '\\' => some '\\'
  | '/' => some '/'
  | 'b' => some '\x08'
  | 'f' => some '\x0c'
  | 'n' => some '\n'
  | 'r' => some '\r'
  | 't' => some '\t'
  | _ => none

/-- How far a string has been read. -/
structure StringState where
  /-- The characters read, last one first. -/
  chars : List Char
  /-- Half of a character outside the first 65536, which the next escape has to complete. -/
  half : Option Nat
  /-- Whether all halves so far were completed. -/
  whole : Bool

namespace StringState

def push (state : StringState) (c : Char) : StringState :=
  { state with chars := c :: state.chars, half := none, whole := state.whole && state.half.isNone }

/-- Takes in a code unit of 16 bits. -/
def pushUnit (state : StringState) (code : Nat) : StringState :=
  match state.half with
  | some high =>
    if 0xDC00 ≤ code ∧ code ≤ 0xDFFF then
      let c := Char.ofNat (0x10000 + (high - 0xD800) * 0x400 + (code - 0xDC00))
      { state with chars := c :: state.chars, half := none }
    else { state with half := none, whole := false }
  | none =>
    if 0xD800 ≤ code ∧ code ≤ 0xDBFF then { state with half := some code }
    else if 0xDC00 ≤ code ∧ code ≤ 0xDFFF then { state with whole := false }
    else state.push (Char.ofNat code)

/-- What a string is if its text ends here. -/
def atEnd (state : StringState) : Parsed :=
  (.broken (if state.whole then .ended else .malformed) .ended, none)

/-- What a closed string stands for. -/
def node (state : StringState) : Node :=
  if state.whole ∧ state.half.isNone then .text (String.ofList state.chars.reverse) else .valueless

end StringState

/-- Reads a string behind its opening quote. An escape of four digits is cut off if not even four
bytes follow. -/
def readString (state : StringState) : List Char → Parsed
  | [] => state.atEnd
  | '"' :: rest => (state.node, some rest)
  | ['\\'] => state.atEnd
  | '\\' :: 'u' :: a :: b :: c :: d :: rest =>
    match hexQuad? a b c d with
    | some code => readString (state.pushUnit code) rest
    | none => broken .malformed
  | '\\' :: 'u' :: rest =>
    if 4 ≤ (String.ofList rest).utf8ByteSize then broken .malformed else state.atEnd
  | '\\' :: c :: rest =>
    match escaped? c with
    | some c => readString (state.push c) rest
    | none => broken .malformed
  | c :: rest => if c < ' ' then broken .malformed else readString (state.push c) rest

mutual

/-- Reads a value; `fuel` bounds the number of nested and following parts. -/
def readValue : Nat → List Char → Parsed
  | 0, _ => broken .malformed
  | fuel + 1, text =>
    match text.dropWhile isBlank with
    | [] => broken .ended
    | 'n' :: rest => readWord .null ['u', 'l', 'l'] rest
    | 't' :: rest => readWord (.bool true) ['r', 'u', 'e'] rest
    | 'f' :: rest => readWord (.bool false) ['a', 'l', 's', 'e'] rest
    | '"' :: rest => readString ⟨[], none, true⟩ rest
    | '-' :: rest => readUnsigned true rest
    | '[' :: rest =>
      match rest.dropWhile isBlank with
      | [] => (.list [fault .unclosed], none)
      | ']' :: rest => (.list [], some rest)
      | rest =>
        let (items, rest) := readItems fuel rest
        (.list items, rest)
    | '{' :: rest =>
      match rest.dropWhile isBlank with
      | [] => (.record [(fault .unclosed, .absent)], none)
      | '}' :: rest => (.record [], some rest)
      | rest =>
        let (entries, rest) := readEntries fuel rest
        (.record entries, rest)
    | c :: rest => if (digit? c).isSome then readUnsigned false (c :: rest) else broken .malformed

/-- Reads the items of a list from the first one on. -/
def readItems : Nat → List Char → List Node × Option (List Char)
  | 0, _ => ([fault .malformed], none)
  | fuel + 1, text =>
    match readValue fuel text with
    | (item, none) => ([item], none)
    | (item, some rest) =>
      match rest.dropWhile isBlank with
      | [] => ([item, fault .unclosed], none)
      | ']' :: rest => ([item], some rest)
      | ',' :: rest =>
        match rest.dropWhile isBlank with
        | [] => ([item, fault .ended], none)
        | ']' :: _ => ([item, fault .malformed], none)
        | rest =>
          let (items, rest) := readItems fuel rest
          (item :: items, rest)
      | _ => ([item, fault .malformed], none)

/-- Reads the entries of a record from the first key on. -/
def readEntries : Nat → List Char → List (Node × Node) × Option (List Char)
  | 0, _ => ([(fault .malformed, .absent)], none)
  | fuel + 1, text =>
    match text with
    | '"' :: rest =>
      match readString ⟨[], none, true⟩ rest with
      | (key, none) => ([(key, .absent)], none)
      | (key, some rest) =>
        match readMember fuel rest with
        | (value, none) => ([(key, value)], none)
        | (value, some rest) =>
          match rest.dropWhile isBlank with
          | [] => ([(key, value), (fault .unclosed, .absent)], none)
          | '}' :: rest => ([(key, value)], some rest)
          | ',' :: rest =>
            match rest.dropWhile isBlank with
            | [] => ([(key, value), (fault .ended, .absent)], none)
            | rest =>
              let (entries, rest) := readEntries fuel rest
              ((key, value) :: entries, rest)
          | _ => ([(key, value), (fault .malformed, .absent)], none)
    | _ => ([(fault .malformed, .absent)], none)

/-- Reads the value of an entry with the colon in front of it. -/
def readMember : Nat → List Char → Parsed
  | 0, _ => broken .malformed
  | fuel + 1, text =>
    match text.dropWhile isBlank with
    | [] => broken .unclosed
    | ':' :: rest => readValue fuel rest
    | _ => broken .malformed

end

/-- A text as it was read. -/
structure Document where
  root : Node
  /-- Whether more than blanks stand behind the value. -/
  trailing : Bool

def read (text : String) : Document :=
  let chars := text.toList
  match readValue (4 * chars.length + 4) chars with
  | (root, none) => ⟨root, false⟩
  | (root, some rest) => ⟨root, !rest.all isBlank⟩

/-- Containers that may be nested in a text. -/
abbrev nesting : Nat := 127

/-- Reads a value from a text. -/
def decode {α : Type} (codec : Codec α) (text : String) : Except DocumentError α := do
  let document := read text
  let value ← codec.read (.json nesting) document.root
  if document.trailing then throw .malformed else return value

end FrameReplay.Json
