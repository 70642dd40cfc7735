import FrameReplay.Document.Codec

/-!
# Schemas

A schema describes how the fields of a structure stand in a document. It stands for the reader and
the writer that are commonly derived from the declaration of a structure, and follows their rules: a
record gives fields by name in any order, each at most once; a list gives them in the order of the
schema. Fields that are not given keep what the schema starts with, unless they are required. Keys
that name no field are skipped with their values.
-/

namespace FrameReplay

/-- One field of a structure. -/
structure Field (α : Type) where
  name : String
  /-- Whether the field has to be given. -/
  required : Bool
  /-- Reads the field into a structure. -/
  read : Origin → Node → α → Except DocumentError α
  /-- Writes the field of a structure. -/
  write : α → Node

/-- The field that a codec reads and writes. -/
def Codec.field {α γ : Type} (codec : Codec γ) (name : String) (required : Bool) (get : α → γ)
    (put : γ → α → α) : Field α where
  name
  required
  read origin node value := (codec.read origin node).map fun item => put item value
  write value := codec.write (get value)

/-- The fields of a structure. -/
structure Schema (α : Type) where
  /-- The name of the structure in messages. -/
  name : String
  fields : List (Field α)
  /-- What fields that are not given hold. -/
  start : α

namespace Schema

variable {α : Type}

/-- The field that a key names, if it names one. In a part that was held back its place will do as
well; in a YAML text any scalar is a key. -/
def field? (schema : Schema α) (origin : Origin) : Node → Except DocumentError (Option (Field α))
  | .text key => .ok (schema.fields.find? (·.name == key))
  | .broken cut _ => .error cut.error
  | .valueless => .error .malformed
  | key =>
    match origin, key with
    | .kept, .int place => if 0 ≤ place then .ok schema.fields[place.toNat]? else
        .error (.data (.wrongKind key "field identifier"))
    | .yaml _, .list _ | .yaml _, .record _ =>
      .error (.data (.wrongKind key "field identifier"))
    | .yaml _, _ => .ok none
    | _, _ => .error (.data (.wrongKind key "field identifier"))

/-- A structure while the entries of a record are read. -/
structure Progress (α : Type) where
  /-- The names of the fields given so far. -/
  given : List String
  value : α

/-- Takes in one entry of a record. -/
def readEntry (schema : Schema α) (origin : Origin) (progress : Progress α)
    (entry : Node × Node) : Except DocumentError (Progress α) := do
  match ← schema.field? origin entry.1 with
  | none =>
    match entry.2.skippedCut? with
    | some cut => throw cut.error
    | none => return progress
  | some field =>
    if progress.given.contains field.name then
      throw (.data (.duplicateField field.name))
    let value ← field.read origin.inner entry.2 progress.value
    return ⟨field.name :: progress.given, value⟩

/-- Reads the entries of a record. -/
def readEntries (schema : Schema α) (origin : Origin) (entries : List (Node × Node)) :
    Except DocumentError α := do
  let progress ← entries.foldlM (schema.readEntry origin) ⟨[], schema.start⟩
  match schema.fields.find? fun field => field.required && !progress.given.contains field.name with
  | some field => throw (.data (.missingField field.name))
  | none => return progress.value

/-- What follows from items behind those of the fields: in a text the end of the list is missing,
otherwise the list is too long. -/
def readExcess (origin : Origin) (count : Nat) : List Node → Except DocumentError Unit
  | [] => .ok ()
  | item :: rest =>
    match origin, item, rest with
    | .json _, (.broken .unclosed _), [] => .error .truncated
    | .json _, _, _ => .error .malformed
    | _, _, _ => .error (.data (.tooManyItems count))

/-- Reads the fields from the items of a list, one after the other. -/
def readItems (origin : Origin) : List (Field α) → List Node → α →
    Except DocumentError (α × List (Field α) × List Node)
  | field :: fields, item :: items, value => do
    readItems origin fields items (← field.read origin.inner item value)
  | fields, items, value => .ok (value, fields, items)

/-- Reads a list that stands for the record. -/
def readList (schema : Schema α) (origin : Origin) (items : List Node) :
    Except DocumentError α := do
  let (value, fields, excess) ← readItems origin schema.fields items schema.start
  match fields.findIdx? Field.required with
  | some ahead =>
    throw (.data (.tooFewItems (schema.fields.length - fields.length + ahead) schema.name
      schema.fields.length))
  | none =>
    readExcess origin items.length excess
    return value

def read (schema : Schema α) (origin : Origin) (node : Node) : Except DocumentError α :=
  match origin, node with
  | .yaml _, .absent => schema.readEntries origin []
  | .yaml _, .list _ => .error (node.mismatch s!"struct {schema.name}")
  | _, .record entries => schema.readEntries origin entries
  | _, .list items => schema.readList origin items
  | _, _ => .error (node.mismatch s!"struct {schema.name}")

/-- The entries of the record that gives every field. -/
def entries (schema : Schema α) (value : α) : List (Node × Node) :=
  schema.fields.map fun field => (.text field.name, field.write value)

/-- A schema as a codec. -/
def codec (schema : Schema α) : Codec α where
  read := schema.read
  write value := .record (schema.entries value)

end Schema

end FrameReplay
