import FrameReplay.CommandLine.Program

/-!
# The executable

Collects what the program depends on, the arguments, the environment and the configuration file,
lets the library work out the outcome, and writes it to the streams.
-/

namespace FrameReplay

/-- The number of a system error, which may come negated. -/
def errorNumber (code : UInt32) : UInt32 := if code ≤ 0x7FFFFFFF then code else 0 - code

/-- Why a file could not be read, by the error of the system. -/
def fileErrorOf (error : IO.Error) : FileError :=
  match error with
  | .noFileOrDirectory .. => .missing
  | .inappropriateType _ code _ =>
    if errorNumber code = 20 then .notADirectory else .isDirectory
  | .invalidArgument _ code _ =>
    if errorNumber code = 36 then .nameTooLong else .other (toString error)
  | _ => .other (toString error)

/-- What reading a file comes to. -/
def readContent (path : String) : IO (Except FileError ByteArray) := do
  try
    return .ok (← IO.FS.readBinFile path)
  catch error =>
    return .error (fileErrorOf error)

/-- The variables of the environment that the program looks at. -/
def readEnvironment : IO CommandLine.Environment := do
  let specs := CommandLine.commonOptions ++ CommandLine.runOptions
  let names := "RUST_LOG" :: specs.filterMap (·.fallback)
  let values ← names.mapM fun name => return (name, ← IO.getEnv name)
  return fun name => (values.lookup name).join

/-- The machine, by the processors that its system lists. All workers share one thread, which need
not be bound, so every core is granted. -/
def readMachine : IO Machine := do
  try
    let listed := (← IO.FS.lines "/proc/cpuinfo").filter (·.startsWith "processor")
    let processors := UInt64.ofNat listed.size
    let cores := (List.range listed.size).map (⟨·, true⟩)
    if known : processors ≠ 0 then return ⟨some processors, by simpa using known, cores⟩
    else return .unknown
  catch _ =>
    return .unknown

/-- Carries out an invocation and gives the exit code. -/
def carryOut (invocation : Invocation) (environment : CommandLine.Environment) : IO UInt32 := do
  let content ←
    match invocation.config with
    | some path => readContent path
    | none => pure (.error .missing)
  let began ← IO.monoNanosNow
  let machine ← readMachine
  let outcome := invocation.execute (fun _ => content) (environment "RUST_LOG") machine
  for event in outcome.events do
    IO.eprintln (event.line outcome.logger)
  match outcome.result with
  | .error error =>
    IO.eprintln s!"Error: {error.message}"
    return 1
  | .ok output =>
    let text := output.text
    let ended ← IO.monoNanosNow
    IO.print (text ++ output.timing (secondsOfNanos (ended - began)))
    return 0

end FrameReplay

/-- Reads the command line and carries it out. -/
def main (arguments : List String) : IO UInt32 := do
  let environment ← FrameReplay.readEnvironment
  match FrameReplay.CommandLine.read environment arguments with
  | .error .version =>
    IO.print FrameReplay.versionText
    return 0
  | .error .help =>
    IO.print FrameReplay.usageText
    return 0
  | .error .usage =>
    IO.eprint FrameReplay.usageText
    return 2
  | .ok invocation => FrameReplay.carryOut invocation environment
