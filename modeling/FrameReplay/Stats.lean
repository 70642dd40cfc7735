import FrameReplay.Context

/-!
# Transmit statistics

Each context counts the frames and bytes that it sent and the frames that it gave up. Counters have
64 bits and begin again at zero, so sums and differences of counters are taken modulo 2^64.
-/

namespace FrameReplay

/-- What one context, or all of them together, have sent. -/
structure Counters where
  packets : UInt64
  bytes : UInt64
  aborted : UInt64
  deriving DecidableEq, Repr, Inhabited

namespace Counters

def zero : Counters := ⟨0, 0, 0⟩

/-- One more frame of `bytes` bytes was sent. -/
def recordFrame (counters : Counters) (bytes : UInt64) : Counters :=
  { counters with packets := counters.packets + 1, bytes := counters.bytes + bytes }

/-- One more frame was given up. -/
def recordAbort (counters : Counters) : Counters :=
  { counters with aborted := counters.aborted + 1 }

def add (a b : Counters) : Counters :=
  ⟨a.packets + b.packets, a.bytes + b.bytes, a.aborted + b.aborted⟩

instance : Add Counters := ⟨add⟩

/-- How far the counters grew since `earlier`. -/
def since (counters earlier : Counters) : Counters :=
  ⟨counters.packets - earlier.packets, counters.bytes - earlier.bytes,
    counters.aborted - earlier.aborted⟩

end Counters

/-- The counters of every context. -/
abbrev StatsStore := PerContext Counters

namespace StatsStore

/-- A record of zeros for each of `contexts` contexts. -/
def make (contexts : Nat) : StatsStore := Array.replicate contexts Counters.zero

/-- Counts a frame sent by a context; nothing if the context has no record. -/
def record? (stats : StatsStore) (ctx : ContextId) (bytes : UInt64) : Option StatsStore :=
  match PerContext.get? stats ctx with
  | some _ => some (PerContext.update stats ctx (·.recordFrame bytes))
  | none => none

/-- Counts a frame given up by a context, if the context has a record. -/
def recordAbort (stats : StatsStore) (ctx : ContextId) : StatsStore :=
  PerContext.update stats ctx Counters.recordAbort

def total (stats : StatsStore) : Counters := stats.foldl (· + ·) Counters.zero

/-- Sets the record of one context back to zeros. -/
def resetOne (stats : StatsStore) (ctx : ContextId) : StatsStore :=
  PerContext.update stats ctx fun _ => Counters.zero

/-- Sets every record back to zeros. -/
def reset (stats : StatsStore) : StatsStore := Array.replicate stats.size Counters.zero

end StatsStore

end FrameReplay
