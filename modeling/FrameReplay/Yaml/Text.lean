import FrameReplay.Text.Numeral
import FrameReplay.Yaml.Place

/-!
# Texts in YAML

The three ways to write a text that may go over several lines: plain, between quotes, and as a
block. In the first two a single line break reads as a space, and of several the first one is
dropped; in a block that depends on its header.
-/

namespace FrameReplay.Yaml

/-- What stands between two words of a text. -/
inductive Gap where
  /-- Blanks of one line, last one first. -/
  | blanks (chars : List Char)
  /-- Line breaks: the first one, unless it was escaped, and the others, last one first. -/
  | breaks (first : Option Char) (more : List Char)

namespace Gap

def empty : Gap := .blanks []

/-- What a gap contributes to the text, last character first. -/
def fold : Gap → List Char
  | .blanks chars => chars
  | .breaks (some '\n') [] => [' ']
  | .breaks (some '\n') more => more
  | .breaks first more => more ++ first.toList

/-- The gap with another blank; the blanks around line breaks do not count. -/
def blank (gap : Gap) (c : Char) : Gap :=
  match gap with
  | .blanks chars => .blanks (c :: chars)
  | .breaks first more => .breaks first more

/-- The gap with another line break. -/
def newline (gap : Gap) (c : Char) : Gap :=
  match gap with
  | .blanks _ => .breaks (some (breakChar c)) []
  | .breaks first more => .breaks first (breakChar c :: more)

/-- Whether the gap goes over a line break. -/
def hasBreak : Gap → Bool
  | .blanks _ => false
  | .breaks _ _ => true

/-- Whether there is anything in the gap. -/
def isSome : Gap → Bool
  | .blanks chars => !chars.isEmpty
  | .breaks _ _ => true

end Gap

/-- Whether a character has a meaning of its own inside brackets. -/
def isFlowMark (c : Char) : Bool :=
  c == ',' || c == '[' || c == ']' || c == '{' || c == '}'

/-- Whether a character gives what stands behind it a meaning of its own. -/
def isIndicator (c : Char) : Bool :=
  ['#', '&', '*', '!', '|', '>', '\'', '"', '%', '@', '\x60'].contains c

/-- Whether a plain text may begin with `c` in front of `rest`. -/
def startsPlain (flow : Bool) (c : Char) (rest : List Char) : Bool :=
  if isBlank c || isBreak c || isFlowMark c then false
  else if c == '-' then !blankAhead rest
  else if c == '?' || c == ':' then !flow && !blankAhead rest
  else !isIndicator c

/-- Whether a plain text ends in front of `c` at a place, with a gap before it. -/
def endsPlain (flow : Bool) (indent : Nat) (gap : Gap) (place : Place) (c : Char)
    (rest : List Char) : Bool :=
  (gap.isSome && (c == '#' || place.atMarker)) ||
    (gap.hasBreak && !flow && place.column < indent) || (c == ':' && blankAhead rest) ||
    (flow && isFlowMark c)

/-- Reads a plain text from a place on, given the text ahead. `chars` are the characters so far,
last one first, and `indent` is the least column of a further line. -/
def readPlain (flow : Bool) (indent : Nat) (chars : List Char) (gap : Gap) (place : Place) :
    List Char → Option (String × Place)
  | [] => some (String.ofList chars.reverse, place.withFresh gap.hasBreak)
  | c :: rest =>
    let next := place.step c rest
    if isHalfBreak c rest then readPlain flow indent chars gap next rest
    else if isBreak c then readPlain flow indent chars (gap.newline c) next rest
    else if isBlank c then
      if gap.hasBreak && place.column < indent && c == '\t' then none
      else readPlain flow indent chars (gap.blank c) next rest
    else if endsPlain flow indent gap place c rest then
      some (String.ofList chars.reverse, place.withFresh gap.hasBreak)
    else if flow && c == ':' && (rest.head?.any fun d => isFlowMark d || d == '?') then none
    else readPlain flow indent (c :: gap.fold ++ chars) Gap.empty next rest

/-- Reads a text between single quotes, behind the first one, given the text ahead. A quote inside
is written twice. -/
def readSingle (chars : List Char) (gap : Gap) (place : Place) :
    List Char → Option (String × Place)
  | [] => none
  | '\'' :: '\'' :: rest => readSingle ('\'' :: gap.fold ++ chars) Gap.empty (place.advance 2) rest
  | '\'' :: rest =>
    some (String.ofList (gap.fold ++ chars).reverse, (place.step '\'' rest).withFresh false)
  | c :: rest =>
    let next := place.step c rest
    if isHalfBreak c rest then readSingle chars gap next rest
    else if isBreak c then readSingle chars (gap.newline c) next rest
    else if isBlank c then readSingle chars (gap.blank c) next rest
    else if place.atMarker then none
    else readSingle (c :: gap.fold ++ chars) Gap.empty next rest

/-- The character of an escape of two characters. -/
def escaped? : Char → Option Char
  | '0' => some '\x00'
  | 'a' => some '\x07'
  | 'b' => some '\x08'
  | 't' | '\t' => some '\t'
  | 'n' => some '\n'
  | 'v' => some '\x0b'
  | 'f' => some '\x0c'
  | 'r' => some '\r'
  | 'e' => some '\x1b'
  | ' ' => some ' '
  | '"' => some '"'
  | '/' => some '/'
  | '\\' => some '\\'
  | 'N' => some '\x85'
  | '_' => some '\xa0'
  | 'L' => some '\u2028'
  | 'P' => some '\u2029'
  | _ => none

/-- How many hexadecimal digits an escape takes. -/
def hexDigits? : Char → Option Nat
  | 'x' => some 2
  | 'u' => some 4
  | 'U' => some 8
  | _ => none

/-- Where the reader of a text between double quotes stands. -/
inductive Escape where
  | outside
  | backslash
  /-- Inside the digits of an escape: how many are left, and their value so far. -/
  | digits (left value : Nat)

/-- Reads a text between double quotes, behind the first one, given the text ahead. A backslash
joins two lines. -/
def readDouble (chars : List Char) (gap : Gap) (place : Place) :
    Escape → List Char → Option (String × Place)
  | _, [] => none
  | .backslash, c :: rest =>
    let next := place.step c rest
    if isHalfBreak c rest then readDouble chars gap next .backslash rest
    else if isBreak c then readDouble chars (.breaks none []) next .outside rest
    else
      match escaped? c, hexDigits? c with
      | some c, _ => readDouble (c :: chars) Gap.empty next .outside rest
      | none, some left => readDouble chars Gap.empty next (.digits left 0) rest
      | none, none => none
  | .digits left value, c :: rest =>
    match Text.digitIn? 16 c with
    | none => none
    | some digit =>
      let next := place.step c rest
      let value := value * 16 + digit
      if left ≤ 1 then
        match Text.charOf? value with
        | some c => readDouble (c :: chars) Gap.empty next .outside rest
        | none => none
      else readDouble chars Gap.empty next (.digits (left - 1) value) rest
  | .outside, c :: rest =>
    let next := place.step c rest
    if isHalfBreak c rest then readDouble chars gap next .outside rest
    else if isBreak c then readDouble chars (gap.newline c) next .outside rest
    else if isBlank c then readDouble chars (gap.blank c) next .outside rest
    else if place.atMarker then none
    else if c == '"' then some (String.ofList (gap.fold ++ chars).reverse, next.withFresh false)
    else if c == '\\' then readDouble (gap.fold ++ chars) Gap.empty next .backslash rest
    else readDouble (c :: gap.fold ++ chars) Gap.empty next .outside rest

/-- What becomes of the line breaks at the end of a block. -/
inductive Chomp where
  | clip
  | strip
  | keep
  deriving DecidableEq, Repr

/-- The header of a block: what becomes of its end, and how far it is indented, if it says so. -/
structure Header where
  chomp : Chomp
  /-- Further columns behind the block around it. -/
  increment : Option Nat

/-- Reads one character of a header. -/
def Header.take? (header : Header) (c : Char) : Option Header :=
  if (c == '+' || c == '-') && header.chomp = .clip then
    some { header with chomp := if c == '+' then .keep else .strip }
  else if '1' ≤ c ∧ c ≤ '9' ∧ header.increment = none then
    some { header with increment := some (c.toNat - 48) }
  else none

/-- Reads a header, at most two characters in any order. -/
def readHeader : Nat → Header → Place → Header × Place
  | 0, header, place => (header, place)
  | n + 1, header, place =>
    match place.ahead.bind header.take? with
    | some header => readHeader n header (place.advance 1)
    | none => (header, place)

/-- The place behind the line break that ends a header, given the text ahead; only blanks and a
comment may come first. -/
def endHeader (comment : Bool) (place : Place) : List Char → Option Place
  | [] => some place
  | c :: rest =>
    let next := place.step c rest
    if isHalfBreak c rest then endHeader comment next rest
    else if isBreak c then some next
    else if comment || c == '#' then endHeader true next rest
    else if isBlank c then endHeader false next rest
    else none

/-- Empty lines of a block, and the indentation in front of its next line. -/
structure Margin where
  /-- The line breaks, last one first. -/
  breaks : List Char
  /-- The greatest column reached on any of the lines. -/
  widest : Nat
  place : Place

/-- Skips empty lines and indentation, as far as `indent` if that is known, given the text ahead. -/
def readMargin (indent : Option Nat) (breaks : List Char) (widest : Nat) (place : Place) :
    List Char → Option Margin
  | [] => some ⟨breaks, max widest place.column, place⟩
  | c :: rest =>
    let next := place.step c rest
    let short := indent.all (place.column < ·)
    if c == ' ' && short then readMargin indent breaks widest next rest
    else if c == '\t' && short then none
    else if isHalfBreak c rest then readMargin indent breaks widest next rest
    else if isBreak c then
      readMargin indent (breakChar c :: breaks) (max widest place.column) next rest
    else some ⟨breaks, max widest place.column, place⟩

/-- A block while it is read. -/
structure Block where
  /-- The characters so far, last one first. -/
  chars : List Char
  /-- The line break behind the last line, if it has one. -/
  lineEnd : List Char
  /-- The line breaks of the empty lines behind it, last one first. -/
  breaks : List Char
  /-- Whether the last line began with a blank. -/
  blankLed : Bool

/-- Joins the last line with a next one that begins with `c`. Where lines are folded, the line
break between two lines that do not begin with a blank reads as a space, or as nothing if empty
lines follow it. -/
def Block.join (folded : Bool) (block : Block) (c : Char) : List Char :=
  let space := if block.breaks.isEmpty then [' '] else []
  let lineEnd :=
    if folded && block.lineEnd == ['\n'] && !block.blankLed && !isBlank c then space
    else block.lineEnd
  block.breaks ++ lineEnd ++ block.chars

/-- The line break at a place, and the place behind it. -/
def readLineEnd (place : Place) : List Char × Place :=
  match place.rest with
  | '\r' :: '\n' :: _ => (['\n'], place.advance 2)
  | c :: _ => ([breakChar c], place.advance 1)
  | [] => ([], place)

/-- Reads the lines of a block that are indented by `indent`; `fuel` bounds their number. -/
def readLines (folded : Bool) (indent : Nat) : Nat → Block → Place → Option (Block × Place)
  | 0, block, place => some (block, place)
  | fuel + 1, block, place =>
    match place.rest with
    | [] => some (block, place)
    | c :: _ =>
      if place.column ≠ indent then some (block, place)
      else
        let line := place.rest.takeWhile fun c => !isBreak c
        let (lineEnd, behind) := readLineEnd (place.advance line.length)
        match readMargin (some indent) [] 0 behind behind.rest with
        | none => none
        | some margin =>
          let chars := line.reverse ++ block.join folded c
          readLines folded indent fuel ⟨chars, lineEnd, margin.breaks, isBlank c⟩ margin.place

/-- Reads a block behind its first character; `outer` is the least column of its lines. -/
def readBlock (folded : Bool) (outer : Nat) (place : Place) : Option (String × Place) := do
  let (header, place) := readHeader 2 ⟨.clip, none⟩ place
  let place ← endHeader false place place.rest
  let known := header.increment.map fun n => max outer 1 + n - 1
  let margin ← readMargin known [] 0 place place.rest
  let indent := known.getD (max margin.widest (max outer 1))
  let fuel := place.rest.length + 1
  let (block, place) ← readLines folded indent fuel ⟨[], [], margin.breaks, false⟩ margin.place
  let chars :=
    match header.chomp with
    | .strip => block.chars
    | .clip => block.lineEnd ++ block.chars
    | .keep => block.breaks ++ block.lineEnd ++ block.chars
  return (String.ofList chars.reverse, place.withFresh true)

end FrameReplay.Yaml
