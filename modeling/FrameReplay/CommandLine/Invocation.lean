import FrameReplay.CommandLine.Options
import FrameReplay.Run.Config
import FrameReplay.Run.Report

/-!
# Invocations

What the program is asked to do: the options that hold for every command, then the command with the
options of its own. What the options of a command say takes precedence over the configuration.
-/

namespace FrameReplay

/-- Settings of a run that are given with the command. -/
structure RunOverrides where
  parallelism : Option UInt64
  count : Option UInt64
  /-- Asks for contexts bound to cores. -/
  pinCores : Bool
  reportIntervalMs : Option UInt64
  inboundLen : Option UInt64
  deriving DecidableEq, Repr, Inhabited

/-- The configuration with the settings given. Cores that the configuration binds stay bound. -/
def RunOverrides.apply (overrides : RunOverrides) (config : RunConfig) : RunConfig :=
  { config with
    parallelism := overrides.parallelism.getD config.parallelism
    count := overrides.count.getD config.count
    pinCores := config.pinCores || overrides.pinCores
    reportIntervalMs := overrides.reportIntervalMs.getD config.reportIntervalMs
    inboundLen := overrides.inboundLen.getD config.inboundLen }

inductive Command where
  | run (overrides : RunOverrides)
  | templates (format : ReportFormat) (hex : Bool)
  | check
  deriving DecidableEq, Repr

/-- A command with the options that hold for every command. -/
structure Invocation where
  config : Option String
  flags : LogFlags
  command : Command
  deriving DecidableEq, Repr

namespace CommandLine

/-- Reads a whole number below `2 ^ 64`; a plus sign may stand in front. -/
def word? (text : String) : Option UInt64 :=
  let digits := match text.toList with
    | '+' :: digits => digits
    | digits => digits
  if digits.isEmpty || !digits.all Char.isDigit then none
  else
    let value := digits.foldl (fun n c => n * 10 + (c.toNat - 48)) 0
    if value < UInt64.size then some (UInt64.ofNat value) else none

/-- A way to show reports, by its name. -/
def format? : String → Option ReportFormat
  | "table" => some .table
  | "json" => some .json
  | "yaml" => some .yaml
  | _ => none

/-- An option that takes a whole number. -/
def numberOption (name : String) (letter : Option Char) (fallback : String) : OptionSpec :=
  ⟨name, letter, .value fun text => (word? text).isSome, some fallback⟩

/-- Path of the configuration file. -/
def configOption : OptionSpec :=
  ⟨"config", some 'c', .value fun text => text ≠ "", some "PKTFORGE_CONFIG"⟩

def verboseOption : OptionSpec := ⟨"verbose", some 'v', .counting, none⟩

def quietOption : OptionSpec := ⟨"quiet", some 'q', .nothing, none⟩

def jsonOption : OptionSpec := ⟨"json", none, .nothing, some "PKTFORGE_LOG_JSON"⟩

def noColorOption : OptionSpec := ⟨"no-color", none, .nothing, some "NO_COLOR"⟩

def helpOption : OptionSpec := ⟨"help", some 'h', .halting .help, none⟩

def versionOption : OptionSpec := ⟨"version", some 'V', .halting .version, none⟩

def parallelismOption : OptionSpec := numberOption "parallelism" (some 'n') "PKTFORGE_PARALLELISM"

def countOption : OptionSpec := numberOption "count" none "PKTFORGE_COUNT"

def pinCoresOption : OptionSpec := ⟨"pin-cores", none, .nothing, some "PKTFORGE_PIN_CORES"⟩

def reportIntervalOption : OptionSpec :=
  numberOption "report-interval-ms" none "PKTFORGE_REPORT_INTERVAL_MS"

def inboundLenOption : OptionSpec := numberOption "inbound-len" none "PKTFORGE_INBOUND_LEN"

/-- The way to show reports. -/
def formatOption : OptionSpec :=
  ⟨"format", some 'f', .value fun text => (format? text).isSome, none⟩

/-- Shows the octets of the frames. -/
def hexOption : OptionSpec := ⟨"hex", none, .nothing, none⟩

/-- The options that hold for every command. -/
def commonOptions : List OptionSpec :=
  [configOption, verboseOption, quietOption, jsonOption, noColorOption, helpOption, versionOption]

/-- The options of a run. -/
def runOptions : List OptionSpec :=
  [parallelismOption, countOption, pinCoresOption, reportIntervalOption, inboundLenOption,
    helpOption]

/-- The options for showing templates. -/
def templatesOptions : List OptionSpec := [formatOption, hexOption, helpOption]

/-- Reads the options of a command, behind which nothing may stand but two hyphens. -/
def readAll (specs : List OptionSpec) (arguments : List String) : Except Halt Given := do
  match ← readOptions specs arguments [] with
  | (given, []) | (given, ["--"]) => return given
  | _ => throw .usage

/-- The value of an option that takes a whole number. -/
def numberIn? (spec : OptionSpec) (environment : Environment) (given : Given) :
    Except Halt (Option UInt64) :=
  (spec.valueIn? environment given).map fun text => text.bind word?

/-- Reads the options of a run. -/
def readRun (environment : Environment) (arguments : List String) : Except Halt Command := do
  let given ← readAll runOptions arguments
  return .run {
    parallelism := ← numberIn? parallelismOption environment given
    count := ← numberIn? countOption environment given
    pinCores := ← pinCoresOption.isGiven environment given
    reportIntervalMs := ← numberIn? reportIntervalOption environment given
    inboundLen := ← numberIn? inboundLenOption environment given }

/-- Reads the options for showing templates. -/
def readTemplates (environment : Environment) (arguments : List String) :
    Except Halt Command := do
  let given ← readAll templatesOptions arguments
  let format ← formatOption.valueIn? environment given
  let hex ← hexOption.isGiven environment given
  return .templates ((format.bind format?).getD .table) hex

/-- The names of the commands. -/
def commandNames : List String := ["run", "templates", "check", "help"]

/-- What asking for help comes to; one command may be named to get help about it. -/
def readHelp : List String → Halt
  | [] => .help
  | [name] => if commandNames.contains name then .help else .usage
  | _ => .usage

/-- Reads a command with its options. -/
def readCommand (environment : Environment) : List String → Except Halt Command
  | "run" :: arguments => readRun environment arguments
  | "templates" :: arguments => readTemplates environment arguments
  | "check" :: arguments => do
    let _ ← readAll [helpOption] arguments
    return .check
  | "help" :: arguments => throw (readHelp arguments)
  | _ => throw .usage

/-- Reads the arguments of the program. -/
def read (environment : Environment) (arguments : List String) : Except Halt Invocation := do
  let (given, rest) ← readOptions commonOptions arguments []
  let command ← readCommand environment rest
  let config ← configOption.valueIn? environment given
  let json ← jsonOption.isGiven environment given
  let noColor ← noColorOption.isGiven environment given
  let verbose := UInt8.ofNat (min (verboseOption.countIn given) 255)
  let quiet ← quietOption.isGiven environment given
  return ⟨config, ⟨json, noColor, verbose, quiet⟩, command⟩

end CommandLine

end FrameReplay
