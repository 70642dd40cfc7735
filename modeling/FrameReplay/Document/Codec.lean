import FrameReplay.Document.Node

/-!
# Reading and writing values

A codec reads a value from a document tree and writes it back. For numbers, texts, lists and options
it does what the readers and writers do that are commonly derived for them, errors included. How
strictly a tree is read depends on where it comes from (`Origin`); faults of the text itself come
first wherever they stand in front of a fault of the values.
-/

namespace FrameReplay

/-- What is wrong with the values of a document that is well written. -/
inductive ValueFault where
  /-- A value of another kind is needed. -/
  | wrongKind (found : Node) (expected : String)
  /-- A whole number does not fit the type that is needed. -/
  | outOfRange (value : Int) (expected : String)
  /-- A text names none of the known choices. -/
  | unknownVariant (name : String) (known : List String)
  /-- A record stands for a choice and has not exactly one entry. -/
  | notOneEntry
  | missingField (name : String)
  /-- A record has a field twice. -/
  | duplicateField (name : String)
  /-- A list stands for a record and lacks a field. -/
  | tooFewItems (count : Nat) (record : String) (fields : Nat)
  /-- A list stands for a record and has more items than that has fields. -/
  | tooManyItems (count : Nat)
  /-- A text is no IPv4 address. -/
  | badIpv4
  /-- A text is refused for a reason of its own. -/
  | refused (reason : String)
  deriving Repr

/-- Known choices as messages list them. -/
def ValueFault.choices : List String → String
  | [] => "there are no variants"
  | [a] => s!"expected `{a}`"
  | [a, b] => s!"expected `{a}` or `{b}`"
  | names => "expected one of " ++ ", ".intercalate (names.map fun name => s!"`{name}`")

def ValueFault.message : ValueFault → String
  | .wrongKind found expected => s!"invalid type: {found.kindText}, expected {expected}"
  | .outOfRange value expected => s!"invalid value: integer `{value}`, expected {expected}"
  | .unknownVariant name known => s!"unknown variant `{name}`, {ValueFault.choices known}"
  | .notOneEntry => "invalid value: map, expected map with a single key"
  | .missingField name => s!"missing field `{name}`"
  | .duplicateField name => s!"duplicate field `{name}`"
  | .tooFewItems count record fields =>
    let plural := if fields = 1 then "element" else "elements"
    s!"invalid length {count}, expected struct {record} with {fields} {plural}"
  | .tooManyItems count => s!"invalid length {count}, expected fewer elements in array"
  | .badIpv4 => "invalid IPv4 address syntax"
  | .refused reason => reason

/-- Why a document cannot be read. -/
inductive DocumentError where
  /-- The text is not well written. -/
  | malformed
  | truncated
  | data (fault : ValueFault)
  deriving Repr

/-- The error that a fault of the text amounts to. -/
def Cut.error : Cut → DocumentError
  | .malformed => .malformed
  | .ended | .unclosed => .truncated

/-- Where a tree comes from. -/
inductive Origin where
  /-- A JSON text that is read as it comes; so many containers may still be opened. -/
  | json (levels : Nat)
  /-- A YAML text; so many containers may still be opened. -/
  | yaml (levels : Nat)
  /-- A part of a text that was held back until its kind was known. -/
  | kept
  /-- A tree that was read before. -/
  | tree
  deriving DecidableEq, Repr

/-- Where the values inside a container come from. -/
def Origin.inner : Origin → Origin
  | .json levels => .json (levels - 1)
  | .yaml levels => .yaml (levels - 1)
  | origin => origin

/-- The error for a node that is not of the kind needed. -/
def Node.mismatch (expected : String) : Node → DocumentError
  | .broken cut _ => cut.error
  | .valueless => .malformed
  | node => .data (.wrongKind node expected)

mutual

/-- What forbids to hold back a part of a text, if anything does: a fault of the text, a scalar
without a value, containers nested too deeply, or a whole number of more than 64 bits. -/
def Node.obstacle? (levels : Nat) : Node → Option DocumentError
  | .broken cut _ => some cut.error
  | .valueless => some .malformed
  | .int value =>
    if Int64.minValue.toInt ≤ value ∧ value < UInt64.size then none
    else some (.data (.wrongKind (.int value) "any value"))
  | .list items => if levels = 0 then some .malformed else obstacleOfItems? (levels - 1) items
  | .record entries =>
    if levels = 0 then some .malformed else obstacleOfEntries? (levels - 1) entries
  | _ => none

/-- What forbids to hold back the items of a list. -/
def obstacleOfItems? (levels : Nat) : List Node → Option DocumentError
  | [] => none
  | item :: items => (item.obstacle? levels).or (obstacleOfItems? levels items)

/-- What forbids to hold back the entries of a record. -/
def obstacleOfEntries? (levels : Nat) : List (Node × Node) → Option DocumentError
  | [] => none
  | (key, value) :: entries =>
    ((key.obstacle? levels).or (value.obstacle? levels)).or (obstacleOfEntries? levels entries)

end

/-- Holds back a part of a document. -/
def Origin.keep (origin : Origin) (node : Node) : Except DocumentError Node :=
  match origin with
  | .json levels | .yaml levels =>
    match node.obstacle? levels with
    | some error => .error error
    | none => .ok node
  | .kept | .tree => .ok node

/-- A way to read and to write the values of a type. -/
structure Codec (α : Type) where
  read : Origin → Node → Except DocumentError α
  write : α → Node

namespace Codec

def bool : Codec Bool where
  read _
    | .bool value => .ok value
    | node => .error (node.mismatch "a boolean")
  write := .bool

def text : Codec String where
  read _
    | .text value => .ok value
    | node => .error (node.mismatch "a string")
  write := .text

/-- Whole numbers from zero to below `size`, under the name of their type in messages. -/
def word {α : Type} (name : String) (size : Nat) (ofNat : Nat → α) (toNat : α → Nat) : Codec α where
  read _
    | .int value =>
      if 0 ≤ value ∧ value < size then .ok (ofNat value.toNat)
      else .error (.data (.outOfRange value name))
    | node => .error (node.mismatch name)
  write value := .int (toNat value)

def u8 : Codec UInt8 := word "u8" UInt8.size UInt8.ofNat UInt8.toNat

def u16 : Codec UInt16 := word "u16" UInt16.size UInt16.ofNat UInt16.toNat

def u32 : Codec UInt32 := word "u32" UInt32.size UInt32.ofNat UInt32.toNat

def u64 : Codec UInt64 := word "u64" UInt64.size UInt64.ofNat UInt64.toNat

/-- Sizes and counts, which have 64 bits and a name of their own. -/
def usize : Codec UInt64 := word "usize" UInt64.size UInt64.ofNat UInt64.toNat

/-- Lists, read item by item. -/
def list {α : Type} (item : Codec α) : Codec (List α) where
  read origin
    | .list items => items.mapM (item.read origin.inner)
    | node => .error (node.mismatch "a sequence")
  write items := .list (items.map item.write)

/-- Values that may be missing; the null value stands for a missing one. -/
def option {α : Type} (value : Codec α) : Codec (Option α) where
  read origin
    | .null | .absent => .ok none
    | node => (value.read origin node).map some
  write
    | none => .null
    | some a => value.write a

/-- One of a few choices, found by its name among all of them. -/
def choose {α : Type} (named : List (String × α)) (name : String) : Except DocumentError α :=
  match named.lookup name with
  | some choice => .ok choice
  | none => .error (.data (.unknownVariant name (named.map Prod.fst)))

/-- The name of one of a few choices. In a part that was held back its place will do as well. -/
def choice {α : Type} (named : List (String × α)) (origin : Origin) :
    Node → Except DocumentError α
  | .text name => choose named name
  | .int place =>
    match origin, named[place.toNat]? with
    | .kept, some (_, choice) =>
      if 0 ≤ place then .ok choice
      else .error (.data (.wrongKind (.int place) "variant identifier"))
    | _, _ => .error (.data (.wrongKind (.int place) "variant identifier"))
  | node => .error (node.mismatch "variant identifier")

/-- Whether a node may stand beside the name of a choice that carries no data. -/
def isNothing (origin : Origin) : Node → Bool
  | .null | .absent => true
  | .record [] => origin = .kept
  | _ => false

/-- One of a few choices that carry no data: its name, or a record with the name as its only key. -/
def choiceOrRecord {α : Type} (named : List (String × α)) (origin : Origin) :
    Node → Except DocumentError α
  | .text name => choose named name
  | .record [(key, value)] => do
    let chosen ← choice named origin key
    if isNothing origin value then return chosen else throw (value.mismatch "unit")
  | .record _ => .error (.data .notOneEntry)
  | node => .error (node.mismatch "string or map")

end Codec

end FrameReplay
