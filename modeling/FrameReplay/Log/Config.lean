import FrameReplay.Document.Schema

/-!
# Logger configuration

How much is logged, and in which form. Flags of the command line only ever add to what the
configuration asks for.
-/

namespace FrameReplay

/-- How important an event is, from the most important one on. -/
inductive LogLevel where
  | error
  | warn
  | info
  | debug
  | trace
  deriving DecidableEq, Repr

namespace LogLevel

/-- Place in the order, beginning with one. -/
def rank : LogLevel → Nat
  | .error => 1
  | .warn => 2
  | .info => 3
  | .debug => 4
  | .trace => 5

def name : LogLevel → String
  | .error => "error"
  | .warn => "warn"
  | .info => "info"
  | .debug => "debug"
  | .trace => "trace"

end LogLevel

structure LoggerConfig where
  /-- Whether events are written as lines of JSON. -/
  json : Bool
  /-- Whether lines of text do without colours. -/
  noColor : Bool
  /-- Zero for the usual events, one for debugging, more for everything. -/
  verbose : UInt8
  /-- Whether only warnings and errors are logged, whatever `verbose` says. -/
  quiet : Bool
  /-- Whether events carry the place in the program that they come from. -/
  addCaller : Bool
  deriving DecidableEq, Repr, Inhabited

/-- Logger options given with a command. -/
structure LogFlags where
  json : Bool
  noColor : Bool
  /-- Asks for at least this much. -/
  verbose : UInt8
  /-- Asks for warnings and errors only. -/
  quiet : Bool
  deriving DecidableEq, Repr, Inhabited

namespace LoggerConfig

/-- Text with colours and the usual events. -/
def default : LoggerConfig := ⟨false, false, 0, false, false⟩

/-- The least important level that is logged. -/
def level (logger : LoggerConfig) : LogLevel :=
  if logger.quiet then .warn
  else if logger.verbose = 0 then .info
  else if logger.verbose = 1 then .debug
  else .trace

/-- Whether events carry the place that they come from. -/
def withCaller (logger : LoggerConfig) : Bool :=
  logger.addCaller || (!logger.quiet && 0 < logger.verbose)

/-- Adds flags to the configuration. -/
def merge (logger : LoggerConfig) (flags : LogFlags) : LoggerConfig :=
  { logger with
    json := logger.json || flags.json
    noColor := logger.noColor || flags.noColor
    verbose := if logger.verbose < flags.verbose then flags.verbose else logger.verbose
    quiet := logger.quiet || flags.quiet }

/-- Logger options in documents, none of them required. -/
def schema : Schema LoggerConfig where
  name := "LoggerConfig"
  fields := [
    Codec.bool.field "json" false LoggerConfig.json fun json c => { c with json },
    Codec.bool.field "no_color" false LoggerConfig.noColor fun noColor c => { c with noColor },
    Codec.u8.field "verbose" false LoggerConfig.verbose fun verbose c => { c with verbose },
    Codec.bool.field "quiet" false LoggerConfig.quiet fun quiet c => { c with quiet },
    Codec.bool.field "add_caller" false LoggerConfig.addCaller
      fun addCaller c => { c with addCaller }]
  start := default

end LoggerConfig

end FrameReplay
