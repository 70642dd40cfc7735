/-!
# Places in a YAML text

Where a reader stands: the text ahead, the line and the column, and whether a key may begin here.
Outside of brackets keys begin behind nothing but indentation and the dashes of lists, inside of
them behind a bracket or a comma; a tab is no indentation.
-/

namespace FrameReplay.Yaml

/-- Whether a character ends a line. -/
def isBreak (c : Char) : Bool :=
  c == '\n' || c == '\r' || c == '\x85' || c == '\u2028' || c == '\u2029'

/-- What a line break stands for in a text; the two separators of Unicode stay what they are. -/
def breakChar (c : Char) : Char := if c == '\u2028' || c == '\u2029' then c else '\n'

/-- Whether a character is a blank inside a line. -/
def isBlank (c : Char) : Bool := c == ' ' || c == '\t'

/-- Whether a text is at its end, at the end of a line or at a blank. -/
def blankAhead : List Char → Bool
  | [] => true
  | c :: _ => isBlank c || isBreak c

/-- Whether a carriage return is only the first half of a line break. -/
def isHalfBreak (c : Char) (rest : List Char) : Bool := c == '\r' && rest.head? == some '\n'

/-- A place in a text. -/
structure Place where
  rest : List Char
  offset : Nat
  line : Nat
  /-- Number of characters behind in this line. -/
  column : Nat
  /-- Whether a key, or the dash of a list, may begin here. -/
  fresh : Bool

namespace Place

/-- The beginning of a text. -/
def start (text : List Char) : Place := ⟨text, 0, 0, 0, true⟩

/-- The place, where a key may begin or not. -/
def withFresh (place : Place) (fresh : Bool) : Place := { place with fresh }

/-- The place behind the next character `c`, with `rest` behind it. -/
def step (place : Place) (c : Char) (rest : List Char) : Place :=
  let offset := place.offset + c.utf8Size
  if isHalfBreak c rest then { place with rest, offset }
  else if isBreak c then { place with rest, offset, line := place.line + 1, column := 0 }
  else { place with rest, offset, column := place.column + 1 }

/-- The place behind `n` characters, however many lines they take. -/
def advance (place : Place) : Nat → Place
  | 0 => place
  | n + 1 =>
    match place.rest with
    | [] => place
    | c :: rest => (place.step c rest).advance n

/-- The place behind blanks, comments and line breaks, given the text ahead. Behind a line break a
key may begin, but not inside brackets. A byte order mark counts as a blank where a line begins. -/
def skipFrom (flow comment : Bool) (place : Place) : List Char → Place
  | [] => place
  | c :: rest =>
    let next := place.step c rest
    if isBreak c then skipFrom flow false (next.withFresh (place.fresh || !flow)) rest
    else if comment then skipFrom flow true next rest
    else if c == ' ' || (c == '\t' && (flow || !place.fresh)) then skipFrom flow false next rest
    else if c == '\ufeff' && place.column == 0 then skipFrom flow false next rest
    else if c == '#' then skipFrom flow true next rest
    else place

/-- The next place where something is written. -/
def skip (flow : Bool) (place : Place) : Place := place.skipFrom flow false place.rest

/-- Whether a line with three dashes or three points begins here. -/
def atMarker (place : Place) : Bool :=
  place.column == 0 &&
    match place.rest with
    | '-' :: '-' :: '-' :: rest => blankAhead rest
    | '.' :: '.' :: '.' :: rest => blankAhead rest
    | _ => false

def ahead (place : Place) : Option Char := place.rest.head?

end Place

end FrameReplay.Yaml
