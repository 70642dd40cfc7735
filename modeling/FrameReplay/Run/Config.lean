import FrameReplay.Generator.Schema
import FrameReplay.Json.Reader
import FrameReplay.Log.Config

/-!
# Run configuration

Everything a run needs: the logger, the contexts and packets, the seed, and the generator. All of it
has defaults, so that an empty record is a configuration too. The contexts and packets are by
default those of the engine, so how many contexts there are depends on the machine.
-/

namespace FrameReplay

structure RunConfig where
  logger : LoggerConfig
  parallelism : UInt64
  /-- Frames to process over all contexts. -/
  count : UInt64
  /-- Whether each context is bound to a processor core. -/
  pinCores : Bool
  /-- Milliseconds between two throughput reports; zero means none. -/
  reportIntervalMs : UInt64
  /-- Length of the frame that each context replays. -/
  inboundLen : UInt64
  generator : GeneratorConfig
  deriving DecidableEq, Repr

namespace RunConfig

/-- What the engine of the machine does by default, with a seed of 1500 octets. -/
def default (machine : Machine) : RunConfig where
  logger := LoggerConfig.default
  parallelism := (EngineConfig.default machine).contexts
  count := (EngineConfig.default machine).packets
  pinCores := (EngineConfig.default machine).pinCores
  reportIntervalMs := 1000
  inboundLen := 1500
  generator := GeneratorConfig.default

/-- The fields of a run configuration in documents, none of them required. -/
def fields : List (Field RunConfig) := [
  LoggerConfig.schema.codec.field "logger" false RunConfig.logger
    fun logger c => { c with logger },
  Codec.usize.field "parallelism" false RunConfig.parallelism
    fun parallelism c => { c with parallelism },
  Codec.u64.field "count" false RunConfig.count fun count c => { c with count },
  Codec.bool.field "pin_cores" false RunConfig.pinCores fun pinCores c => { c with pinCores },
  Codec.u64.field "report_interval_ms" false RunConfig.reportIntervalMs
    fun reportIntervalMs c => { c with reportIntervalMs },
  Codec.usize.field "inbound_len" false RunConfig.inboundLen
    fun inboundLen c => { c with inboundLen },
  GeneratorConfig.codec.field "generator" false RunConfig.generator
    fun generator c => { c with generator }]

/-- A run configuration in documents. What is not given is as by default on the machine. -/
def schema (machine : Machine := .single) : Schema RunConfig where
  name := "RunConfig"
  fields
  start := default machine

/-- What the engine has to know of a run. -/
def engineConfig (config : RunConfig) : EngineConfig where
  contexts := config.parallelism
  packets := config.count
  pinCores := config.pinCores
  reportInterval :=
    if config.reportIntervalMs = 0 then none else some (config.reportIntervalMs.toNat * 1000000)

/-- Checks the contexts and packets first, then the seed, then the generator. -/
def validate (config : RunConfig) : Except ConfigError Unit := do
  config.engineConfig.validate.mapError .engine
  if seedRoom < config.inboundLen.toNat then
    throw (.inboundTooLong config.inboundLen)
  config.generator.validate

end RunConfig

end FrameReplay
