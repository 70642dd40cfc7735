import FrameReplay.Engine.Basic
import FrameReplay.Log.Event
import FrameReplay.Run.Config
import FrameReplay.Run.Report

/-!
# Commands

What the program can be asked to do with a configuration: check it, show its templates, or replay
them. A command gives the events that it logs along with its result.
-/

namespace FrameReplay

inductive CommandError where
  | unfit (cause : ConfigError)
  /-- The configuration did not pass its check. -/
  | invalid (cause : ConfigError)
  /-- The settings of the generator are refused. -/
  | refused (cause : ConfigError)
  | generate (cause : GenerateError)
  | rejected (index : Nat) (cause : TemplateError)
  /-- The engine cannot be made or started. -/
  | engine (cause : EngineError)
  | control (cause : ControlError)
  deriving DecidableEq, Repr

def CommandError.message : CommandError → String
  | .unfit cause => s!"invalid configuration: {cause.message}"
  | .invalid cause => s!"configuration is invalid: {cause.message}"
  | .refused cause => cause.message
  | .generate cause => s!"failed to generate templates: {cause.message}"
  | .rejected index cause => s!"template {index} rejected: {cause.message}"
  | .engine cause => cause.message
  | .control cause => cause.message

namespace RunConfig

/-- The events of generating frames. -/
def generationEvents (config : RunConfig) (frames : List Octets) : List LogEvent :=
  let mixed :=
    match config.generator with
    | .udp { imix := some imix, .. } =>
      [⟨.debug, .imix, "imix schedule built",
        [("patterns", .int (Imix.lanes imix).length), ("entries", .int frames.length)]⟩]
    | _ => []
  mixed ++ [⟨.debug, .generator, "generated template frames", [("frames", .int frames.length)]⟩]

/-- The frames of a configuration as templates, the first one with the given place. -/
def templatesFrom (index : Nat) : List Octets → Except CommandError (List Template)
  | [] => .ok []
  | frame :: frames =>
    match Template.ofFrame frame with
    | .error cause => .error (.rejected index cause)
    | .ok template => (templatesFrom (index + 1) frames).map (template :: ·)

/-- Generates the templates of a configuration. -/
def buildTemplates (config : RunConfig) : Except CommandError (List LogEvent × List Template) := do
  let frames ← (generate config.generator).mapError .generate
  return (config.generationEvents frames, ← templatesFrom 0 frames)

/-- The frame that every context replays. -/
def seed (config : RunConfig) : ByteArray := (Frame.sample config.inboundLen.toNat).toByteArray

/-- The events of installing templates. -/
def installEvents (report : InstallReport) : List LogEvent :=
  let counts : List (String × Node) :=
    [("templates", .int report.distinct), ("slots", .int report.slots)]
  let tail := report.slots % report.distinct
  let unevenCycle : List LogEvent :=
    if tail = 0 then []
    else
      [⟨.debug, .control, "template count does not divide the table, last cycle is partial",
        [("tail", .int tail)]⟩]
  ⟨.debug, .control, "installed templates", counts⟩ :: unevenCycle ++
    [⟨.info, .runner, "templates installed", counts⟩]

/-- The cores that the workers are bound to in turns. -/
def cores (config : RunConfig) (machine : Machine) : List Core :=
  if config.pinCores then machine.cores else []

/-- The event of binding a worker to its core, if it gets one. -/
def bindingEvents (cores : List Core) (ctx : ContextId) : List LogEvent :=
  match cores[ctx.index % cores.length]? with
  | none => []
  | some core =>
    let values : List (String × Node) := [("ctx", .text ctx.name), ("core", .int core.number)]
    if core.grants then [⟨.debug, .engine, "pinned worker", values⟩]
    else [⟨.warn, .engine, "failed to pin worker", values⟩]

/-- The events of a worker from its start to its end. -/
def workerEvents (config : RunConfig) (machine : Machine) (worker : Worker Unit) :
    List LogEvent :=
  let ctx : String × Node := ("ctx", .text worker.ctx.name)
  let share := (config.engineConfig.share worker.ctx.index).toNat
  bindingEvents (config.cores machine) worker.ctx ++ [
    ⟨.debug, .engine, "worker starting", [ctx, ("count", .int share)]⟩,
    ⟨.debug, .engine, "worker stopped", [ctx, ("done", .int worker.done)]⟩]

/-- The events of a run of the engine. -/
def engineEvents (config : RunConfig) (machine : Machine) (workers : List (Worker Unit))
    (totals : Counters) : List LogEvent :=
  let coreless : List LogEvent :=
    if config.pinCores && machine.cores.isEmpty then
      [⟨.warn, .engine, "core pinning requested but no core ids are available", []⟩]
    else []
  coreless ++
    ⟨.info, .engine, "transmit engine started",
      [("contexts", .int config.parallelism.toNat), ("packets", .int config.count.toNat),
        ("seed_len", .int config.seed.size)]⟩ ::
    workers.flatMap (config.workerEvents machine) ++
    [⟨.info, .engine, "transmit engine finished",
      [("tx_packets", .int totals.packets.toNat), ("tx_bytes", .int totals.bytes.toNat),
        ("aborted", .int totals.aborted.toNat)]⟩]

/-- Replays the templates of a configuration until every packet is processed. A schedule says whose
turns come first; after those the workers finish one after the other. -/
def replay (config : RunConfig) (machine : Machine) (schedule : List Nat) :
    Except CommandError (List LogEvent × Counters) := do
  config.validate.mapError .unfit
  let (generated, templates) ← config.buildTemplates
  let engine ← (Engine.make (σ := Unit) config.engineConfig .empty).mapError .engine
  let (report, transmitter) ← (engine.transmitter.install templates.toArray).mapError .control
  let engine ← ({ engine with transmitter }.start config.seed fun _ => ()).mapError .engine
  let (workers, engine) := (engine.turns schedule).collect
  let totals := engine.transmitter.totals
  return (generated ++ installEvents report ++ config.engineEvents machine workers totals, totals)

/-- Checks a configuration and generates its templates; gives their number. -/
def check (config : RunConfig) : Except CommandError (List LogEvent × Nat) := do
  config.validate.mapError .invalid
  let (generated, templates) ← config.buildTemplates
  let count := templates.length
  return (generated ++ [⟨.info, .commands, "configuration ok", [("templates", .int count)]⟩], count)

/-- Reports on the templates of a configuration. Only the generator is checked. -/
def report (config : RunConfig) (withHex : Bool) :
    Except CommandError (List LogEvent × List TemplateReport) := do
  config.generator.validate.mapError .refused
  let frames ← (generate config.generator).mapError .generate
  return (config.generationEvents frames, TemplateReport.ofFrames withHex frames)

end RunConfig

end FrameReplay
