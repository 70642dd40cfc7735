import FrameReplay.Log.Event
import FrameReplay.Log.Pattern.Basic

/-!
# Log filters

A filter is a list of directives, written `target[span{field=value}]=level` with commas between
them; every part may be missing. A directive speaks about all targets that begin with its own, and
about events that carry its field. Of those that speak about an event the one with the longest
target decides, among them one with a field, and among these the one whose field comes last in the
order of names. A directive for a span or a value speaks about no event outside of spans.
-/

namespace FrameReplay.Log

/-- What is let through: this level and the more important ones, or nothing at all. -/
abbrev Threshold := Option LogLevel

/-- One directive of a filter. -/
structure Directive where
  /-- The beginning of the targets, if only some are meant. -/
  target : Option String
  /-- A field that an event has to carry, if only some are meant. -/
  field : Option String
  /-- Whether only events inside of some span, or with some value, are meant. -/
  inSpan : Bool
  threshold : Threshold
  deriving DecidableEq, Repr

/-- The directives of a filter, in the order given. -/
abbrev Filter := List Directive

/-- A filter that lets a level through everywhere. -/
def Filter.ofLevel (level : LogLevel) : Filter := [⟨none, none, false, some level⟩]

namespace Directive

/-- Whether a directive speaks about an event. -/
def concerns (directive : Directive) (event : LogEvent) : Bool :=
  !directive.inSpan && directive.target.all (·.isPrefixOf event.target.name) &&
    directive.field.all event.fieldNames.contains

/-- Length of the target; naming the empty target is more than naming none. -/
def targetLength (directive : Directive) : Nat :=
  match directive.target with
  | some target => target.utf8ByteSize + 1
  | none => 0

/-- Whether a field is asked for with no less weight than another one. -/
def fieldOutranks : Option String → Option String → Bool
  | _, none => true
  | none, some _ => false
  | some later, some earlier => earlier ≤ later

/-- Whether a directive decides over another one that speaks about the same event. A later one
decides over an equal one. Targets of one length that both begin the target of the event are the
same. -/
def outranks (later earlier : Directive) : Bool :=
  earlier.targetLength < later.targetLength ||
    (earlier.targetLength == later.targetLength && fieldOutranks later.field earlier.field)

/-- Whether the directive lets a level through. -/
def passes (directive : Directive) (level : LogLevel) : Bool :=
  directive.threshold.any fun least => level.rank ≤ least.rank

end Directive

namespace Filter

/-- The directive that decides about an event, if any speaks about it. -/
def decisive? (filter : Filter) (event : LogEvent) : Option Directive :=
  filter.foldl (fun best? directive =>
    if directive.concerns event then
      match best? with
      | some best => if directive.outranks best then some directive else some best
      | none => some directive
    else best?) none

/-- Whether an event is let through. -/
def passes (filter : Filter) (event : LogEvent) : Bool :=
  (filter.decisive? event).any (·.passes event.level)

end Filter

/-- A threshold by its number, from nothing to everything. -/
def thresholdOfNat? : Nat → Option Threshold
  | 0 => some none
  | 1 => some (some .error)
  | 2 => some (some .warn)
  | 3 => some (some .info)
  | 4 => some (some .debug)
  | 5 => some (some .trace)
  | _ => none

/-- A threshold by its name, in letters of either case. -/
def thresholdOfName? (name : String) : Option Threshold :=
  match name.toLower with
  | "off" => some none
  | "error" => some (some .error)
  | "warn" => some (some .warn)
  | "info" => some (some .info)
  | "debug" => some (some .debug)
  | "trace" => some (some .trace)
  | _ => none

/-- A threshold by number or name. -/
def threshold? (text : List Char) : Option Threshold :=
  let digits := if text.head? = some '+' then text.drop 1 else text
  if !digits.isEmpty && digits.all Char.isDigit then
    thresholdOfNat? (digits.foldl (fun n c => min (n * 10 + (c.toNat - 48)) 6) 0)
  else thresholdOfName? (String.ofList text)

/-- What stands behind the equals sign of a directive; nothing at all means everything. -/
def level? (text : List Char) : Option Threshold :=
  if text.isEmpty then some (some .trace) else threshold? text

/-- Whether a directive may begin with a character. -/
def beginsDirective (c : Char) : Bool := ['-', ':', '_'].contains c || Text.isWordChar c

/-- Whether a text is a number with a plus sign in front. -/
def isPlusNumber : List Char → Bool
  | '+' :: text =>
    (Text.decimal? text).isSome ||
      ["inf", "infinity", "nan"].contains (String.ofList text).toLower
  | _ => false

/-- Whether a field may be asked for with a value: a number, a truth value or a pattern. All but the
numbers with a plus sign are patterns as well. -/
def isValue (text : List Char) : Bool := isPlusNumber text || isPattern text

/-- The name of a field, and the value behind its equals sign, as far as another equals sign. -/
def fieldParts (text : List Char) : List Char × Option (List Char) :=
  let (name, rest) := text.span (· ≠ '=')
  (name, rest.tail?.map fun value => value.takeWhile (· ≠ '='))

/-- Number of octets of a text. -/
def octetCount (text : List Char) : Nat := text.foldl (fun n c => n + c.utf8Size) 0

/-- A text without its first octets; no character is divided. -/
def dropOctets? : Nat → List Char → Option (List Char)
  | 0, text => some text
  | _ + 1, [] => none
  | n + 1, c :: rest => if n + 1 < c.utf8Size then none else dropOctets? (n + 1 - c.utf8Size) rest

/-- The first octets of a text; no character is divided. -/
def takeOctets? : Nat → List Char → Option (List Char)
  | 0, _ => some []
  | _ + 1, [] => none
  | n + 1, c :: rest =>
    if n + 1 < c.utf8Size then none
    else (takeOctets? (n + 1 - c.utf8Size) rest).map (c :: ·)

/-- A directive as it is read: the text as written, and the part of it still to be read with its
place. Places are counted in octets of the text without the blanks at its ends, and parts are cut
out of the text as written, so that blanks in front move every part. -/
structure Reading where
  written : List Char
  /-- The text still to be read, without the blanks behind it. -/
  rest : List Char
  place : Nat

namespace Reading

/-- Goes on to the first of some characters: the part in front of it, the character, and what is
read behind it. -/
def upTo? (reading : Reading) (marks : List Char) : Option (List Char × Char × Reading) :=
  let (front, rest) := reading.rest.span fun c => !marks.contains c
  match rest with
  | [] => none
  | c :: rest => do
    let length := octetCount front
    let part ← takeOctets? length (← dropOctets? reading.place reading.written)
    return (part, c, { reading with rest, place := reading.place + length + 1 })

/-- Everything from here on, as written. -/
def remainder? (reading : Reading) : Option (List Char) :=
  dropOctets? reading.place reading.written

/-- Reads the level of a directive. -/
def withLevel? (reading : Reading) (directive : Directive) : Option Directive := do
  let threshold ← level? (← reading.remainder?)
  return { directive with threshold }

/-- Reads what may follow a closing bracket. -/
def afterSpan? (reading : Reading) (directive : Directive) : Option Directive :=
  match reading.rest with
  | [] => some directive
  | '=' :: rest => { reading with rest, place := reading.place + 1 }.withLevel? directive
  | _ => none

/-- Reads a span behind its opening bracket: a name, a field in braces, or both. -/
def inSpan? (reading : Reading) (target : Option String) : Option Directive := do
  let (name, mark, reading) ← reading.upTo? [']', '\x7b']
  if mark = ']' then reading.afterSpan? ⟨target, none, true, some .trace⟩
  else
    let (field, _, reading) ← reading.upTo? ['\x7d']
    let (field, value) := fieldParts field
    match reading.rest with
    | ']' :: rest =>
      if (field.isEmpty && value.isNone) || !value.all isValue then none
      else
        let inSpan := !name.isEmpty || value.isSome
        { reading with rest, place := reading.place + 1 }.afterSpan?
          ⟨target, some (String.ofList field), inSpan, some .trace⟩
    | _ => none

/-- Reads a directive. A text without any mark is a level if it can be one, and a target of which
everything is let through if not. -/
def directive? (reading : Reading) : Option Directive :=
  match reading.rest with
  | [] => none
  | '[' :: rest => { reading with rest, place := 1 }.inSpan? none
  | c :: _ =>
    if !beginsDirective c then none
    else if reading.rest.any ['=', '['].contains then do
      let (target, mark, reading) ← reading.upTo? ['=', '[']
      let target := some (String.ofList target)
      if mark = '=' then reading.withLevel? ⟨target, none, false, none⟩
      else reading.inSpan? target
    else do
      let text ← reading.remainder?
      match threshold? text with
      | some threshold => return ⟨none, none, false, threshold⟩
      | none => return ⟨some (String.ofList text), none, false, some .trace⟩

end Reading

def Directive.ofText? (text : List Char) : Option Directive :=
  (Reading.mk text (Text.strip text) 0).directive?

/-- Reads a filter; empty directives do not count. -/
def Filter.ofText? (text : String) : Option Filter :=
  ((text.toList.splitOn ',').filter fun part => !part.isEmpty).mapM Directive.ofText?

/-- The filter for a logger. Directives from outside take precedence over the level that the logger
asks for, unless they are blank. -/
def Filter.choose? (logger : LoggerConfig) (directives : Option String) : Option Filter :=
  match directives with
  | some text =>
    if text.toList.all Text.isBlank then some (Filter.ofLevel logger.level)
    else Filter.ofText? text
  | none => some (Filter.ofLevel logger.level)

end FrameReplay.Log
