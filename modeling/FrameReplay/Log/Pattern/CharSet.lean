import FrameReplay.Log.Pattern.Atom

/-!
# Sets of characters in patterns

A set stands in square brackets: characters, ranges, named classes and other sets, and the
operations `&&`, `--` and `~~` between them. Reading one gives its height, which is one more than
that of the highest part in it.
-/

namespace FrameReplay.Log.Pattern

/-- The height of parts that follow each other: they are one more part if there are several. -/
def heightOf : List Nat → Nat
  | [] => 0
  | [height] => height
  | heights => 1 + heights.foldl max 0

/-- A set while it is read. -/
structure OpenSet where
  /-- Whether nothing but hyphens stands behind the bracket so far. -/
  fresh : Bool
  /-- The height of the left side of an operation, if there is one. -/
  left : Option Nat
  /-- The heights of the parts so far, last one first. -/
  parts : List Nat

namespace OpenSet

/-- The set with another part. -/
def push (set : OpenSet) (height : Nat) : OpenSet :=
  { set with fresh := false, parts := height :: set.parts }

/-- The set with another hyphen at its beginning. -/
def pushHyphen (set : OpenSet) : OpenSet := { set with parts := 0 :: set.parts }

/-- The height of what stands in the brackets. -/
def height (set : OpenSet) : Nat :=
  match set.left with
  | none => heightOf set.parts
  | some left => 1 + max left (heightOf set.parts)

/-- The set as the left side of an operation. -/
def operate (set : OpenSet) : OpenSet := ⟨false, some set.height, []⟩

end OpenSet

def classNames : List String :=
  ["alnum", "alpha", "ascii", "blank", "cntrl", "digit", "graph", "lower", "print", "punct",
    "space", "upper", "word", "xdigit"]

/-- Reads a named class such as `[:alpha:]` behind its bracket: whether it is negated, and what
stands behind it. -/
def readNamedClass? : List Char → Option (Bool × List Char)
  | ':' :: rest =>
    let negated := rest.head? = some '^'
    let (name, rest) := (if negated then rest.drop 1 else rest).span (· ≠ ':')
    match rest with
    | ':' :: ']' :: rest =>
      if classNames.contains (String.ofList name) then some (negated, rest) else none
    | _ => none
  | _ => none

/-- Begins a set behind its bracket and the circumflex that negates it. A negated set over ASCII
would match parts of characters. -/
def openSet? (mode : Mode) (text : List Char) : Option (OpenSet × List Char) :=
  let set : OpenSet := ⟨true, none, []⟩
  match mode.skip text with
  | '^' :: rest => if mode.ascii then none else some (set, rest)
  | rest => some (set, rest)

/-- Reads a character, a class or a range that begins with `c`. A hyphen in front of another one or
of the closing bracket makes no range. -/
def readRange? (mode : Mode) (c : Char) (rest : List Char) : Option (List Char) := do
  let (first, rest) ← readMember mode c rest
  if !first.isAllowedInSet mode then none
  else
    let text := mode.skip rest
    match text with
    | '-' :: rest =>
      match mode.skip rest with
      | [] => none
      | ']' :: _ | '-' :: _ => some text
      | c :: rest =>
        let (last, rest) ← readMember mode c rest
        match first, last with
        | .char low _, .char high _ =>
          if last.isAllowedInSet mode && low ≤ high then some rest else none
        | _, _ => none
    | text => some text

/-- Reads a set up to its closing bracket, given the sets around it: its height, and what stands
behind it. At its beginning a hyphen or a closing bracket stands for itself. `fuel` is more than the
length of the text. -/
def readSet? (mode : Mode) : Nat → OpenSet → List OpenSet → List Char → Option (Nat × List Char)
  | 0, _, _, _ => none
  | fuel + 1, set, outer, text =>
    match mode.skip text with
    | [] => none
    | c :: rest =>
      if set.fresh && (c = '-' || (c = ']' && set.parts.isEmpty)) then
        if (Atom.char c false).isAllowedInSet mode then
          readSet? mode fuel (if c = '-' then set.pushHyphen else set.push 0) outer rest
        else none
      else if c = ']' then
        match outer with
        | [] => some (set.height + 1, rest)
        | around :: outer => readSet? mode fuel (around.push (set.height + 1)) outer rest
      else if c = '[' then
        match readNamedClass? rest with
        | some (negated, rest) =>
          if if mode.ascii then negated else mode.ignoreCase then none
          else readSet? mode fuel (set.push 0) outer rest
        | none =>
          match openSet? mode rest with
          | some (inner, rest) => readSet? mode fuel inner (set :: outer) rest
          | none => none
      else if ['&', '-', '~'].contains c && rest.head? = some c then
        readSet? mode fuel set.operate outer (rest.drop 1)
      else
        match readRange? mode c rest with
        | some rest => readSet? mode fuel (set.push 0) outer rest
        | none => none

end FrameReplay.Log.Pattern
