import FrameReplay.Yaml.Scalar
import FrameReplay.Yaml.Text

/-!
# Tokens of YAML

`tokens?` cuts a text into its marks and scalars. Blocks are told apart by the columns in which they
begin, and get marks of their own where they begin and end. A key is known only by the colon behind
it, so the mark of a key, and that of a block that begins with it, are put in front of tokens that
have already been read. Anchors, aliases, tags and directives other than the version have no place
in a settings file and are refused.
-/

namespace FrameReplay.Yaml

/-- A mark or a scalar. -/
inductive Token where
  /-- A list of lines with dashes begins. -/
  | blockList
  /-- A mapping of lines with keys begins. -/
  | blockMap
  /-- The innermost such list or mapping ends. -/
  | blockEnd
  | listOpen
  | listClose
  | mapOpen
  | mapClose
  /-- The dash in front of an item. -/
  | dash
  /-- The comma between items in brackets. -/
  | comma
  | key
  /-- The colon in front of a value. -/
  | colon
  /-- A scalar, and what it stands for. -/
  | scalar (node : Node)
  /-- A line that states a known version of the notation. -/
  | version
  /-- The dashes in front of a document. -/
  | documentStart
  | documentEnd

/-- Where a key may have begun. -/
structure KeyStart where
  index : Nat
  line : Nat
  offset : Nat
  /-- Number of characters in front in its line. -/
  column : Nat
  /-- Whether nothing but a key may stand here, because a mapping has its keys in this column. -/
  isDue : Bool

/-- Octets between the beginning of a key and its colon, at most. -/
abbrev keyLength : Nat := 1024

/-- Whether a colon at a place is too far away from the beginning of a key. A key and its colon
stand on one line. -/
def KeyStart.isLost (start : KeyStart) (place : Place) : Bool :=
  start.line < place.line || start.offset + keyLength < place.offset

/-- A text of which a part has been cut into tokens. -/
structure Lexer where
  place : Place
  tokens : Array Token
  /-- The columns of the blocks that have not ended, innermost first. -/
  blocks : List Nat
  /-- Where a key may have begun, inside the innermost brackets. -/
  start? : Option KeyStart
  /-- The same for the brackets around these, innermost first, and outside of all brackets. -/
  outer : List (Option KeyStart)

namespace Lexer

/-- A text before anything is read. -/
def ofText (text : List Char) : Lexer := ⟨.start text, #[], [], none, []⟩

def inBrackets (lexer : Lexer) : Bool := !lexer.outer.isEmpty

/-- The least column of a line that belongs to the innermost block. -/
def margin (lexer : Lexer) : Nat :=
  match lexer.blocks with
  | [] => 0
  | column :: _ => column + 1

/-- Goes on to what is written next. -/
def skip (lexer : Lexer) : Lexer := { lexer with place := lexer.place.skip lexer.inBrackets }

/-- The text with another token, which ends at a place. -/
def push (lexer : Lexer) (token : Token) (place : Place) : Lexer :=
  { lexer with place, tokens := lexer.tokens.push token }

/-- Goes on behind a mark of one character; a key may begin behind it or not. -/
def mark (lexer : Lexer) (token : Token) (fresh : Bool) : Lexer :=
  lexer.push token ((lexer.place.advance 1).withFresh fresh)

/-- Gives up the key that may have begun, unless nothing but a key may stand there. -/
def dropStart? (lexer : Lexer) : Option Lexer :=
  if lexer.start?.any KeyStart.isDue then none else some { lexer with start? := none }

/-- Gives up the key that may have begun if its colon would be too far away. -/
def dropLost? (lexer : Lexer) : Option Lexer :=
  if lexer.start?.any (·.isLost lexer.place) then lexer.dropStart? else some lexer

/-- Takes note that a key may begin here. -/
def saveStart? (lexer : Lexer) : Option Lexer :=
  let place := lexer.place
  if place.fresh then do
    let isDue := !lexer.inBrackets && lexer.blocks.head? == some place.column
    let start := ⟨lexer.tokens.size, place.line, place.offset, place.column, isDue⟩
    return { ← lexer.dropStart? with start? := some start }
  else some lexer

/-- Begins a block at a column in front of the token with an index, unless the innermost block has
this column already. There are no blocks inside of brackets. -/
def beginBlock (lexer : Lexer) (token : Token) (column index : Nat) : Lexer :=
  if lexer.inBrackets || column < lexer.margin then lexer
  else
    { lexer with
      blocks := column :: lexer.blocks
      tokens := lexer.tokens.insertIdxIfInBounds index token }

/-- Ends the blocks whose columns are not less than `column`. -/
def endBlocks (lexer : Lexer) (column : Nat) : Lexer :=
  if lexer.inBrackets then lexer
  else
    let ends := (lexer.blocks.takeWhile (column ≤ ·)).map fun _ => Token.blockEnd
    { lexer with
      blocks := lexer.blocks.dropWhile (column ≤ ·)
      tokens := lexer.tokens ++ ends }

/-- Reads the dash of an item, or the question mark of a key. Outside of brackets they may begin a
block. -/
def takeLead? (lexer : Lexer) (block token : Token) (fresh : Bool) : Option Lexer :=
  if !lexer.inBrackets && !lexer.place.fresh then none
  else
    (lexer.beginBlock block lexer.place.column lexer.tokens.size).dropStart?.map
      (·.mark token fresh)

/-- Reads a colon. What may have begun as a key in front of it is one. -/
def takeColon? (lexer : Lexer) : Option Lexer :=
  match lexer.start? with
  | some start =>
    let lexer :=
      { lexer with start? := none, tokens := lexer.tokens.insertIdxIfInBounds start.index .key }
    some ((lexer.beginBlock .blockMap start.column start.index).mark .colon false)
  | none =>
    if lexer.inBrackets then some (lexer.mark .colon false)
    else if lexer.place.fresh then
      some ((lexer.beginBlock .blockMap lexer.place.column lexer.tokens.size).mark .colon true)
    else none

/-- Reads an opening bracket. A collection in brackets may be a key. -/
def takeOpen? (lexer : Lexer) (token : Token) : Option Lexer :=
  lexer.saveStart?.map fun lexer =>
    { lexer.mark token true with start? := none, outer := lexer.start? :: lexer.outer }

def takeClose? (lexer : Lexer) (token : Token) : Option Lexer :=
  lexer.dropStart?.map fun lexer =>
    let lexer := lexer.mark token false
    match lexer.outer with
    | start? :: outer => { lexer with start?, outer }
    | [] => lexer

/-- Reads a scalar, which may be a key. -/
def takeScalar? (lexer : Lexer) (read : Place → Option (Node × Place)) : Option Lexer := do
  let lexer ← lexer.saveStart?
  let (node, place) ← read lexer.place
  return lexer.push (.scalar node) place

/-- Reads a block scalar behind its first character. It is no key. -/
def takeBlock? (lexer : Lexer) (folded : Bool) : Option Lexer := do
  let lexer ← lexer.dropStart?
  let (text, place) ← readBlock folded lexer.margin (lexer.place.advance 1)
  return lexer.push (.scalar (.text text)) place

/-- Reads a mark that stands in front of or behind a document, given the place behind it. -/
def takeBoundary? (lexer : Lexer) (token : Token) (place : Place) : Option Lexer :=
  (lexer.endBlocks 0).dropStart?.map (·.push token (place.withFresh false))

end Lexer

/-- A text as a node. -/
def textNode (read : Option (String × Place)) : Option (Node × Place) :=
  read.map fun (text, place) => (.text text, place)

/-- Whether a version of the notation is known. -/
def knownVersion (major minor : List Char) : Bool :=
  Text.natIn? 10 major == some 1 && [some 1, some 2].contains (Text.natIn? 10 minor) &&
    major.length ≤ 9 && minor.length ≤ 9

/-- The place behind a line that states the version of the notation, behind its percent sign, if
the version is known. -/
def readVersion? (place : Place) : Option Place :=
  match place.rest with
  | 'Y' :: 'A' :: 'M' :: 'L' :: rest =>
    let blanks := rest.takeWhile isBlank
    let (major, rest) := (rest.dropWhile isBlank).span Text.isDigit
    match rest with
    | '.' :: rest =>
      let (minor, rest) := rest.span Text.isDigit
      if !blanks.isEmpty && knownVersion major minor then
        endHeader false (place.advance (4 + blanks.length + major.length + 1 + minor.length)) rest
      else none
    | _ => none
  | _ => none

namespace Lexer

/-- Reads the next token, which begins with `c` in front of `rest`. -/
def take? (lexer : Lexer) (c : Char) (rest : List Char) : Option Lexer :=
  let place := lexer.place
  let flow := lexer.inBrackets
  if place.column == 0 && c == '%' then
    (readVersion? (place.advance 1)).bind fun place => lexer.takeBoundary? .version place
  else if place.atMarker then
    lexer.takeBoundary? (if c == '-' then .documentStart else .documentEnd) (place.advance 3)
  else
    match c with
    | '[' => lexer.takeOpen? .listOpen
    | '{' => lexer.takeOpen? .mapOpen
    | ']' => lexer.takeClose? .listClose
    | '}' => lexer.takeClose? .mapClose
    | ',' => lexer.dropStart?.map (·.mark .comma true)
    | '\'' =>
      lexer.takeScalar? fun place =>
        textNode (readSingle [] Gap.empty (place.advance 1) rest)
    | '"' =>
      lexer.takeScalar? fun place =>
        textNode (readDouble [] Gap.empty (place.advance 1) .outside rest)
    | _ =>
      if startsPlain flow c rest then
        lexer.takeScalar? fun place =>
          (readPlain flow lexer.margin [] Gap.empty place place.rest).map fun (text, place) =>
            (resolve text, place)
      else
        match c with
        | '-' => lexer.takeLead? .blockList .dash true
        | '?' => lexer.takeLead? .blockMap .key !flow
        | ':' => lexer.takeColon?
        | '|' => if flow then none else lexer.takeBlock? false
        | '>' => if flow then none else lexer.takeBlock? true
        | _ => none

/-- Cuts the rest of a text into tokens; `fuel` is more than its length. -/
def run? : Nat → Lexer → Option (Array Token)
  | 0, _ => none
  | fuel + 1, lexer => do
    let lexer ← lexer.skip.dropLost?
    match lexer.place.rest with
    | [] => return (← (lexer.endBlocks 0).dropStart?).tokens
    | c :: rest => run? fuel (← (lexer.endBlocks (lexer.place.column + 1)).take? c rest)

end Lexer

/-- Whether a character may stand in a text at all. -/
def isAllowed (c : Char) : Bool :=
  let n := c.val.toNat
  n == 9 || n == 10 || n == 13 || (0x20 ≤ n && n ≤ 0x7E) || n == 0x85 ||
    (0xA0 ≤ n && n ≤ 0xFFFD) || 0x10000 ≤ n

/-- The tokens of a text. -/
def tokens? (text : List Char) : Option (List Token) :=
  if text.all isAllowed then
    ((Lexer.ofText text).run? (text.length + 1)).map Array.toList
  else none

end FrameReplay.Yaml
