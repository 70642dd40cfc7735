import FrameReplay.Log.Pattern.CharSet
import FrameReplay.Text.Word

/-!
# Patterns for values

A field of a filter may ask for values that match a regular expression. `isPattern` says whether a
text is one; which texts it matches plays no part, because only spans have such fields. Neither a
comma nor a closing brace can stand in a pattern, so repetitions with counts are never complete.
-/

namespace FrameReplay.Log.Pattern

/-- A group while it is read. -/
structure OpenGroup where
  mode : Mode
  /-- The heights of the alternatives that are complete. -/
  alternatives : List Nat
  /-- The parts of the alternative being read, last one first: their heights, or nothing for a
  change of the mode, which cannot be repeated. -/
  parts : List (Option Nat)

namespace OpenGroup

/-- The group with another part. -/
def push (group : OpenGroup) (part : Option Nat) : OpenGroup :=
  { group with parts := part :: group.parts }

/-- The height of the alternative being read. -/
def partsHeight (group : OpenGroup) : Nat := heightOf (group.parts.map (·.getD 0))

/-- The group with the next alternative begun. -/
def branch (group : OpenGroup) : OpenGroup :=
  ⟨group.mode, group.partsHeight :: group.alternatives, []⟩

/-- The height of what stands in the group. -/
def height (group : OpenGroup) : Nat := heightOf (group.partsHeight :: group.alternatives)

/-- The group with its last part repeated, if it has one that can be. -/
def repeat? (group : OpenGroup) : Option OpenGroup :=
  match group.parts with
  | some height :: parts => some { group with parts := some (height + 1) :: parts }
  | _ => none

end OpenGroup

/-- The letters that change the mode. -/
def flagLetters : List Char := ['i', 'm', 's', 'U', 'u', 'R', 'x']

/-- The mode with a letter switched on or off. -/
def Mode.switch (mode : Mode) (letter : Char) (on : Bool) : Mode :=
  match letter with
  | 'i' => { mode with ignoreCase := on }
  | 'u' => { mode with ascii := !on }
  | 'x' => { mode with spaced := on }
  | _ => mode

/-- What an opening parenthesis begins. -/
inductive Opening where
  /-- A change of the mode around it. -/
  | change (mode : Mode)
  /-- A group with a mode, and with a name or without. -/
  | group (mode : Mode) (name : Option (List Char))

/-- Reads letters behind a question mark. None stands there twice; the ones behind a hyphen are
switched off, and there is at least one of them. -/
def readFlags (seen : List Char) (mode : Mode) : List Char → Option (Opening × List Char)
  | [] => none
  | c :: rest =>
    if c = ':' then if seen.head? = some '-' then none else some (.group mode none, rest)
    else if c = ')' then
      if seen.isEmpty || seen.head? = some '-' then none else some (.change mode, rest)
    else if seen.contains c then none
    else if c = '-' then readFlags (c :: seen) mode rest
    else if flagLetters.contains c then
      readFlags (c :: seen) (mode.switch c !(seen.contains '-')) rest
    else none

/-- Whether a character may stand in the name of a group. -/
def isNameChar (first : Bool) (c : Char) : Bool :=
  c == '_' || if first then Text.isAlphabetic c else Text.isWordChar c || ['.', '[', ']'].contains c

/-- Reads the name of a group, up to the sign behind it. -/
def readName (first : Bool) : List Char → Option (List Char × List Char)
  | [] => none
  | c :: rest =>
    if c = '>' then if first then none else some ([], rest)
    else if isNameChar first c then
      (readName false rest).map fun (name, rest) => (c :: name, rest)
    else none

/-- Reads the beginning of a group behind its parenthesis. -/
def readOpening (mode : Mode) (text : List Char) : Option (Opening × List Char) :=
  let named := fun rest =>
    (readName true rest).map fun (name, rest) => (.group mode (some name), rest)
  match mode.skip text with
  | '?' :: 'P' :: '<' :: rest => named rest
  | '?' :: '<' :: rest => named rest
  | '?' :: rest => readFlags [] mode rest
  | rest => some (.group mode none, rest)

/-- A pattern of which a part has been read. -/
structure Reading where
  group : OpenGroup
  /-- The groups around it, innermost first. -/
  outer : List OpenGroup
  /-- The names of groups so far. -/
  names : List (List Char)

namespace Reading

/-- A pattern before anything is read. -/
def start : Reading := ⟨⟨.initial, [], []⟩, [], []⟩

/-- The pattern with another part in its innermost group. -/
def push (reading : Reading) (height : Nat) : Reading :=
  { reading with group := reading.group.push (some height) }

/-- Begins a group or changes the mode. No two groups have the same name. -/
def open? (reading : Reading) : Opening → Option Reading
  | .change mode => some { reading with group := { reading.group.push none with mode } }
  | .group mode name =>
    if name.any reading.names.contains then none
    else some ⟨⟨mode, [], []⟩, reading.group :: reading.outer, name.toList ++ reading.names⟩

def close? (reading : Reading) : Option Reading :=
  match reading.outer with
  | [] => none
  | around :: outer =>
    some { reading with group := around.push (some (reading.group.height + 1)), outer }

/-- Reads the part that begins with `c`; `fuel` is more than the length of the text. -/
def take? (reading : Reading) (fuel : Nat) (c : Char) (rest : List Char) :
    Option (Reading × List Char) :=
  let mode := reading.group.mode
  match c with
  | '(' => do
    let (opening, rest) ← readOpening mode rest
    return (← reading.open? opening, rest)
  | ')' => reading.close?.map fun reading => (reading, rest)
  | '|' => some ({ reading with group := reading.group.branch }, rest)
  | '[' => do
    let (set, rest) ← openSet? mode rest
    let (height, rest) ← readSet? mode fuel set [] rest
    return (reading.push height, rest)
  | '?' | '*' | '+' => do
    let group ← reading.group.repeat?
    return ({ reading with group }, if rest.head? = some '?' then rest.drop 1 else rest)
  | '\x7b' => none
  | c => do
    let (atom, rest) ← readAtom mode c rest
    if atom.isAllowed mode then return (reading.push 0, rest) else none

/-- Reads the rest of a pattern: its height. `fuel` is more than the length of the text. -/
def run? : Nat → Reading → List Char → Option Nat
  | 0, _, _ => none
  | fuel + 1, reading, text =>
    match reading.group.mode.skip text with
    | [] => if reading.outer.isEmpty then some reading.group.height else none
    | c :: rest =>
      match reading.take? (fuel + 1) c rest with
      | some (reading, rest) => run? fuel reading rest
      | none => none

end Reading

/-- The greatest height of a pattern. -/
abbrev maxHeight : Nat := 250

end Pattern

/-- Whether a text is a regular expression. -/
def isPattern (text : List Char) : Bool :=
  (Pattern.Reading.start.run? (text.length + 1) text).any (· ≤ Pattern.maxHeight)

end FrameReplay.Log
