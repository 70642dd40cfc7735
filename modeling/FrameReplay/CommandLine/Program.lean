import FrameReplay.CommandLine.Invocation
import FrameReplay.Log.Filter
import FrameReplay.Rate
import FrameReplay.Run.Load
import FrameReplay.Run.Replay
import FrameReplay.Text.Fixed

/-!
# The program

What an invocation comes to: the configuration is loaded, the log is set up, and the command is
carried out. The outcome holds what is logged, what is printed and how the program ends; nothing
here touches a file or a stream.
-/

namespace FrameReplay

inductive ProgramError where
  /-- The configuration file cannot be loaded. -/
  | load (path : String) (cause : LoadError)
  /-- The filter of the log cannot be read. -/
  | logFilter
  | command (cause : CommandError)
  deriving Repr

/-- The text of the error. What reading a file came to is told by the error itself and once more by
its cause. -/
def ProgramError.message : ProgramError → String
  | .load path (.file cause) =>
    s!"failed to load {path}: IO error: {cause.message}: {cause.message}"
  | .load path cause => s!"failed to load {path}: {cause.message}"
  | .logFilter => "logging error: invalid RUST_LOG: invalid filter directive"
  | .command cause => cause.message

inductive Output where
  | reports (format : ReportFormat) (reports : List TemplateReport)
  /-- The number of templates of a configuration that passed its check. -/
  | checked (count : Nat)
  | sent (totals : Counters)

/-- The text that a command prints; that of a run goes on with the time that it took. -/
def Output.text : Output → String
  | .reports format items => format.render items
  | .checked count => s!"configuration ok: {count} template(s)\n"
  | .sent totals =>
    s!"sent {totals.packets.toNat} frames ({totals.bytes.toNat} bytes, {totals.aborted.toNat} aborted)"

/-- How the line about a run goes on, given the seconds that it took. -/
def Output.timing : Output → Float → String
  | .sent totals, seconds =>
    let rate := totals.rate seconds
    let took := Text.fixed 2 seconds
    let packets := Text.fixed 0 rate.packetsPerSecond
    let megabits := Text.fixed 2 rate.megabitsPerSecond
    s!" in {took}s: {packets} xmit/s, {megabits} Mbps\n"
  | _, _ => ""

/-- How a program with a configuration ends. -/
structure Outcome where
  logger : LoggerConfig
  /-- The events that the log lets through. -/
  events : List LogEvent
  /-- What is printed, or why nothing is. -/
  result : Except ProgramError Output

def Command.execute (config : RunConfig) (machine : Machine) :
    Command → Except CommandError (List LogEvent × Output)
  | .run overrides =>
    ((overrides.apply config).replay machine []).map fun (events, totals) => (events, .sent totals)
  | .templates format hex =>
    (config.report hex).map fun (events, reports) => (events, .reports format reports)
  | .check => config.check.map fun (events, count) => (events, .checked count)

namespace Invocation

/-- The configuration of an invocation: the one loaded from its file, or the default one, with the
logger options given. -/
def configure (invocation : Invocation) (file : String → Except FileError ByteArray)
    (machine : Machine) : Except ProgramError RunConfig := do
  let config ←
    match invocation.config with
    | some path => (RunConfig.load path (file path) machine).mapError (.load path)
    | none => pure (RunConfig.default machine)
  return { config with logger := config.logger.merge invocation.flags }

/-- What an invocation comes to, given how files read, the directives for the log that come from
outside, and the machine. -/
def execute (invocation : Invocation) (file : String → Except FileError ByteArray)
    (directives : Option String) (machine : Machine := .single) : Outcome :=
  match invocation.configure file machine with
  | .error error => ⟨.default, [], .error error⟩
  | .ok config =>
    match Log.Filter.choose? config.logger directives with
    | none => ⟨config.logger, [], .error .logFilter⟩
    | some filter =>
      match invocation.command.execute config machine with
      | .error error => ⟨config.logger, [], .error (.command error)⟩
      | .ok (events, output) => ⟨config.logger, events.filter filter.passes, .ok output⟩

end Invocation

/-- The name and version of the program. -/
def versionText : String := "pktforge 0.1.0\n"

/-- How the program is used. -/
def usageText : String :=
  "Usage: pktforge [-c FILE] [-v] [-q] [--json] [--no-color] COMMAND [OPTIONS]\n" ++
    "Commands: run, templates, check\n"

end FrameReplay
