import FrameReplay.Text.Blank
import FrameReplay.Text.Numeral

/-!
# Atoms of patterns

The parts of a pattern that stand for one character or for a place between characters. Which of
them are allowed depends on the mode: without knowledge of letters beyond ASCII, a pattern over all
characters has no classes such as `\d`, no word boundaries and no letters of either case, while a
pattern over ASCII may match nothing that is no text.
-/

namespace FrameReplay.Log.Pattern

/-- How a pattern is read from some place on. -/
structure Mode where
  /-- Blanks and comments do not count. -/
  spaced : Bool
  /-- Letters stand for themselves in either case. -/
  ignoreCase : Bool
  /-- Classes, boundaries and cases know ASCII only. -/
  ascii : Bool
  deriving DecidableEq, Repr

/-- The mode in which every pattern begins. -/
def Mode.initial : Mode := ⟨false, false, false⟩

/-- The text behind blanks and comments. -/
def skipBlanks (comment : Bool) : List Char → List Char
  | [] => []
  | c :: rest =>
    if comment then skipBlanks (c ≠ '\n') rest
    else if Text.isBlank c then skipBlanks false rest
    else if c = '#' then skipBlanks true rest
    else c :: rest

/-- The text behind what does not count. -/
def Mode.skip (mode : Mode) (text : List Char) : List Char :=
  if mode.spaced then skipBlanks false text else text

/-- One character or one place of a pattern. -/
inductive Atom where
  /-- A character. It may be written as the octet with two digits that has its number. -/
  | char (c : Char) (isOctet : Bool)
  /-- A class such as `\d`, or what is outside of it. -/
  | charClass (negated : Bool)
  | any
  /-- The beginning or the end of a word, or no such place. -/
  | boundary
  /-- The beginning or the end of a line or a text. -/
  | anchor
  deriving DecidableEq, Repr

namespace Atom

/-- Whether an atom is allowed by itself. -/
def isAllowed (mode : Mode) : Atom → Bool
  | .char c isOctet => if mode.ascii then !isOctet || c.toNat < 128 else !mode.ignoreCase
  | .charClass negated => mode.ascii && !negated
  | .any => !mode.ascii
  | .boundary => mode.ascii
  | .anchor => true

/-- Whether an atom is allowed in a set of characters. -/
def isAllowedInSet (mode : Mode) : Atom → Bool
  | .char c _ => if mode.ascii then c.toNat < 128 else !mode.ignoreCase
  | .charClass negated => mode.ascii && !negated
  | _ => false

end Atom

/-- Reads the hexadecimal digits of a character. -/
def readDigits (mode : Mode) (isOctet : Bool) :
    Nat → Nat → List Char → Option (Atom × List Char)
  | 0, value, text => (Text.charOf? value).map fun c => (.char c isOctet, mode.skip text)
  | n + 1, value, text =>
    match mode.skip text with
    | [] => none
    | c :: rest =>
      (Text.digitIn? 16 c).bind fun digit => readDigits mode isOctet n (value * 16 + digit) rest

/-- Whether a character of ASCII stands for itself behind a backslash. -/
def isEscapable (c : Char) : Bool := c.toNat < 128 && !c.isAlphanum && c != '<' && c != '>'

/-- Reads an atom behind its backslash. A class or a boundary with a name in braces is never
complete, because a brace ends the pattern. -/
def readEscape (mode : Mode) : List Char → Option (Atom × List Char)
  | [] => none
  | 'x' :: rest => readDigits mode true 2 0 rest
  | 'u' :: rest => readDigits mode false 4 0 rest
  | 'U' :: rest => readDigits mode false 8 0 rest
  | c :: rest =>
    if ['d', 's', 'w'].contains c then some (.charClass false, rest)
    else if ['D', 'S', 'W'].contains c then some (.charClass true, rest)
    else if ['a', 'f', 't', 'n', 'r', 'v'].contains c then some (.char c false, rest)
    else if ['A', 'z'].contains c then some (.anchor, rest)
    else if ['b', 'B', '<', '>'].contains c then
      if c = 'b' ∧ rest.head? = some '\x7b' then none else some (.boundary, rest)
    else if isEscapable c then some (.char c false, rest)
    else none

/-- Reads an atom that begins with `c`, outside of sets. -/
def readAtom (mode : Mode) (c : Char) (rest : List Char) : Option (Atom × List Char) :=
  match c with
  | '\\' => readEscape mode rest
  | '.' => some (.any, rest)
  | '^' | '$' => some (.anchor, rest)
  | c => some (.char c false, rest)

/-- Reads an atom that begins with `c`, in a set. -/
def readMember (mode : Mode) (c : Char) (rest : List Char) : Option (Atom × List Char) :=
  if c = '\\' then readEscape mode rest else some (.char c false, rest)

end FrameReplay.Log.Pattern
