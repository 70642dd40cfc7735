/-!
# Command line options

Options are written with two hyphens and their name, or with one hyphen and a letter; letters of
options without a value may stand together. A value follows behind an equals sign, behind the
letter, or as the next argument. An option that was not given may still have a value from the
environment.
-/

namespace FrameReplay.CommandLine

/-- Why the arguments lead to no command. -/
inductive Halt where
  | version
  | help
  | usage
  deriving DecidableEq, Repr

inductive Taking where
  /-- Nothing; it is given at most once. -/
  | nothing
  /-- Nothing; it counts how often it is given. -/
  | counting
  /-- A value of some form, once. -/
  | value (accepts : String → Bool)
  /-- Nothing; it ends the reading of the arguments. -/
  | halting (halt : Halt)

structure OptionSpec where
  name : String
  letter : Option Char
  taking : Taking
  /-- The variable of the environment that stands in for it. -/
  fallback : Option String

/-- Options that were given, with their values; the latest one first. -/
abbrev Given := List (String × String)

/-- Options that were given, and the one that still waits for its value. -/
abbrev Pending := Given × Option OptionSpec

/-- Takes in an option with its value; an option without value has the empty one. -/
def OptionSpec.give (spec : OptionSpec) (value : String) (given : Given) : Except Halt Given :=
  match spec.taking with
  | .halting halt => .error halt
  | .counting => .ok ((spec.name, "") :: given)
  | .nothing =>
    if (given.lookup spec.name).isSome then .error .usage else .ok ((spec.name, "") :: given)
  | .value accepts =>
    if (given.lookup spec.name).isSome || !accepts value then .error .usage
    else .ok ((spec.name, value) :: given)

/-- Whether an option takes a value. -/
def OptionSpec.takesValue (spec : OptionSpec) : Bool :=
  match spec.taking with
  | .value _ => true
  | _ => false

/-- Reads an option behind two hyphens. -/
def readName (specs : List OptionSpec) (text : List Char) (given : Given) :
    Except Halt Pending :=
  let (name, rest) := text.span (· ≠ '=')
  match specs.find? fun spec => spec.name == String.ofList name with
  | none => .error .usage
  | some spec =>
    match rest with
    | _ :: value =>
      if spec.takesValue then do
        return (← spec.give (String.ofList value) given, none)
      else .error .usage
    | [] =>
      if spec.takesValue then .ok (given, some spec)
      else do
        return (← spec.give "" given, none)

/-- Reads the letters behind one hyphen. What stands behind the letter of an option with a value is
the value; an equals sign in front of it does not count. -/
def readLetters (specs : List OptionSpec) : List Char → Given → Except Halt Pending
  | [], given => .ok (given, none)
  | c :: rest, given =>
    match specs.find? fun spec => spec.letter == some c with
    | none => .error .usage
    | some spec =>
      if spec.takesValue then
        match rest with
        | [] => .ok (given, some spec)
        | '=' :: value => do
          return (← spec.give (String.ofList value) given, none)
        | value => do
          return (← spec.give (String.ofList value) given, none)
      else do
        readLetters specs rest (← spec.give "" given)

/-- Whether an argument is read as options. -/
def isOption (argument : String) : Bool :=
  argument.startsWith "-" && argument ≠ "-"

/-- Reads one argument that holds options. -/
def readOption (specs : List OptionSpec) (argument : String) (given : Given) :
    Except Halt Pending :=
  match argument.toList with
  | '-' :: '-' :: name => readName specs name given
  | '-' :: letters => readLetters specs letters given
  | _ => .error .usage

/-- Reads options up to the first argument that is none, and gives the arguments from there on. Two
hyphens alone end the options. -/
def readOptions (specs : List OptionSpec) : List String → Given → Except Halt (Given × List String)
  | [], given => .ok (given, [])
  | argument :: rest, given =>
    if !isOption argument || argument = "--" then .ok (given, argument :: rest)
    else
      match readOption specs argument given with
      | .error halt => .error halt
      | .ok (given, none) => readOptions specs rest given
      | .ok (given, some spec) =>
        match rest with
        | [] => .error .usage
        | value :: rest =>
          if isOption value then .error .usage
          else
            match spec.give value given with
            | .error halt => .error halt
            | .ok given => readOptions specs rest given

/-- The variables of the environment. -/
abbrev Environment := String → Option String

/-- The value of an option: the one given, or else the one from the environment, which has to be of
the same form. -/
def OptionSpec.valueIn? (spec : OptionSpec) (environment : Environment) (given : Given) :
    Except Halt (Option String) :=
  match given.lookup spec.name, spec.fallback.bind environment with
  | some value, _ => .ok (some value)
  | none, none => .ok none
  | none, some value =>
    match spec.taking with
    | .value accepts => if accepts value then .ok (some value) else .error .usage
    | _ => .ok (some value)

/-- A truth value as it may stand in the environment. -/
def truth? (text : String) : Option Bool :=
  let text := text.toLower
  if ["y", "yes", "t", "true", "on", "1"].contains text then some true
  else if ["n", "no", "f", "false", "off", "0"].contains text then some false
  else none

/-- Whether an option without a value is given; a variable of the environment says yes or no. -/
def OptionSpec.isGiven (spec : OptionSpec) (environment : Environment) (given : Given) :
    Except Halt Bool :=
  match given.lookup spec.name, spec.fallback.bind environment with
  | some _, _ => .ok true
  | none, none => .ok false
  | none, some text =>
    match truth? text with
    | some value => .ok value
    | none => .error .usage

/-- How often an option was given. -/
def OptionSpec.countIn (spec : OptionSpec) (given : Given) : Nat :=
  (given.filter fun option => option.1 == spec.name).length

end FrameReplay.CommandLine
