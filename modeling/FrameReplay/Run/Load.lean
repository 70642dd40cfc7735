import FrameReplay.Run.Config
import FrameReplay.Yaml.Reader

/-!
# Loading a configuration

The format of a configuration file follows from the extension of its name, in letters of either
case. The file is read before its name is looked at, so that a missing file is always reported as
missing.
-/

namespace FrameReplay

/-- Why a file gives no text. -/
inductive FileError where
  | missing
  /-- The name is that of a directory. -/
  | isDirectory
  /-- A part of the name in front of the last one is that of a file. -/
  | notADirectory
  /-- The name or one of its parts is longer than the system allows. -/
  | nameTooLong
  /-- A NUL stands in the name. -/
  | nulInName
  /-- The octets are no text in UTF-8. -/
  | notText
  | other (reason : String)
  deriving DecidableEq, Repr

/-- The text of the error, with the number by which the system knows it, if it has one. -/
def FileError.message : FileError → String
  | .missing => "No such file or directory (os error 2)"
  | .isDirectory => "Is a directory (os error 21)"
  | .notADirectory => "Not a directory (os error 20)"
  | .nameTooLong => "File name too long (os error 36)"
  | .nulInName => "file name contained an unexpected NUL byte"
  | .notText => "stream did not contain valid UTF-8"
  | .other reason => reason

/-- Why a configuration cannot be loaded. -/
inductive LoadError where
  | file (cause : FileError)
  /-- The text is JSON in a wrong way. -/
  | json (cause : DocumentError)
  /-- The text is YAML in a wrong way. -/
  | yaml
  /-- The name says nothing about the format. -/
  | config (cause : ConfigError)
  deriving Repr

/-- The text of an error in a document. -/
def DocumentError.message : DocumentError → String
  | .malformed => "malformed text"
  | .truncated => "text ends too early"
  | .data fault => fault.message

def LoadError.message : LoadError → String
  | .file cause => s!"IO error: {cause.message}"
  | .json cause => s!"JSON error: {cause.message}"
  | .yaml => "YAML error: malformed document"
  | .config cause => cause.message

inductive ConfigFormat where
  | json
  | yaml
  deriving DecidableEq, Repr

namespace ConfigFormat

/-- The last part of a path that names something, if it is no step upwards. -/
def fileName? (path : String) : Option (List Char) :=
  let parts := (path.toList.splitOn '/').filter fun part => !part.isEmpty && part ≠ ['.']
  match parts.getLast? with
  | some name => if name = ['.', '.'] then none else some name
  | none => none

/-- What stands behind the last point of a name. A point in front of the whole name separates
nothing. -/
def extension? (name : List Char) : Option (List Char) :=
  let behind := (name.reverse.takeWhile (· ≠ '.')).reverse
  if behind.length + 1 < name.length then some behind else none

/-- The format of the file at a path. -/
def ofPath? (path : String) : Option ConfigFormat := do
  match String.ofList ((← extension? (← fileName? path)).map Char.toLower) with
  | "json" => some .json
  | "yaml" | "yml" => some .yaml
  | _ => none

end ConfigFormat

namespace RunConfig

/-- Reads a configuration from the text of a file. -/
def ofText (path text : String) (machine : Machine) : Except LoadError RunConfig :=
  match ConfigFormat.ofPath? path with
  | some .json => (Json.decode (schema machine).codec text).mapError .json
  | some .yaml =>
    match Yaml.decode? (schema machine).codec text with
    | some config => .ok config
    | none => .error .yaml
  | none => .error (.config (.unsupportedFormat path))

/-- Loads a configuration, given what reading the file at the path came to. -/
def load (path : String) (content : Except FileError ByteArray) (machine : Machine := .single) :
    Except LoadError RunConfig :=
  match content with
  | .error cause => .error (.file cause)
  | .ok bytes =>
    match String.fromUTF8? bytes with
    | some text => ofText path text machine
    | none => .error (.file .notText)

end RunConfig

end FrameReplay
