/-!
# Engine configuration

How many contexts replay how many packets, by default a million on one context for every processor.
`shares` splits the packets: all contexts get the same number and the first ones get one of the
remaining packets each.
-/

namespace FrameReplay

/-- A processor core that a worker may ask for. -/
structure Core where
  number : Nat
  /-- Whether the system lets a worker be bound to the core. -/
  grants : Bool
  deriving DecidableEq, Repr

/-- What the program takes from the machine that it runs on. -/
structure Machine where
  /-- How many processors the program may use, if the system tells. -/
  processors : Option UInt64
  /-- A system that tells has given the program some processor. -/
  processors_ne : processors ≠ some 0
  /-- The cores that the system lists, none if it does not tell. -/
  cores : List Core
  deriving DecidableEq, Repr

namespace Machine

/-- A machine with one processor. -/
def single : Machine := ⟨some 1, by decide, [⟨0, true⟩]⟩

/-- A machine that does not tell. -/
def unknown : Machine := ⟨none, by decide, []⟩

/-- One context for every processor, and four if nobody knows how many there are. -/
def contexts (machine : Machine) : UInt64 := machine.processors.getD 4

theorem contexts_ne_zero (machine : Machine) : machine.contexts ≠ 0 := by
  obtain ⟨_ | processors, known, cores⟩ := machine
  · exact (by decide : (4 : UInt64) ≠ 0)
  · exact fun zero => known (congrArg some zero)

end Machine

/-- How a run is spread over contexts. -/
structure EngineConfig where
  contexts : UInt64
  /-- Frames to process over all contexts. -/
  packets : UInt64
  /-- Whether each context is bound to a processor core. -/
  pinCores : Bool
  /-- Nanoseconds between two throughput reports, if there are any. -/
  reportInterval : Option Nat
  deriving DecidableEq, Repr

/-- Why a configuration cannot be run. -/
inductive EngineConfigError where
  | noContexts
  | noPackets
  /-- Some context would have nothing to send. -/
  | fewerPacketsThanContexts (packets contexts : UInt64)
  /-- Reports would follow each other without pause. -/
  | zeroInterval
  deriving DecidableEq, Repr

def EngineConfigError.message : EngineConfigError → String
  | .noContexts => "at least one execution context is required"
  | .noPackets => "packet count must be positive"
  | .fewerPacketsThanContexts packets contexts =>
    s!"packet count {packets.toNat} is smaller than context count {contexts.toNat}"
  | .zeroInterval => "report interval must be non-zero"

namespace EngineConfig

/-- A million packets on the contexts of the machine, with reports every second. -/
def default (machine : Machine) : EngineConfig where
  contexts := machine.contexts
  packets := 1000000
  pinCores := false
  reportInterval := some 1000000000

/-- Checks the contexts first, then the packets, then the interval. -/
def validate (config : EngineConfig) : Except EngineConfigError Unit :=
  if config.contexts = 0 then .error .noContexts
  else if config.packets = 0 then .error .noPackets
  else if config.packets < config.contexts then
    .error (.fewerPacketsThanContexts config.packets config.contexts)
  else if config.reportInterval = some 0 then .error .zeroInterval
  else .ok ()

/-- Number of packets that the context with place `index` replays. -/
def share (config : EngineConfig) (index : Nat) : UInt64 :=
  config.packets / config.contexts +
    if index < (config.packets % config.contexts).toNat then 1 else 0

/-- Number of packets of every context. -/
def shares (config : EngineConfig) : List UInt64 :=
  (List.range config.contexts.toNat).map config.share

end EngineConfig

end FrameReplay
