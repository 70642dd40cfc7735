import FrameReplay.Stats

/-!
# Rates

A rate is the growth of the counters divided by the time that it took. Instants are nanoseconds
after a common beginning; a clock that went backwards counts as one that stood still, and over no
time at all the rate is zero.
-/

namespace FrameReplay

/-- Frames and megabits per second. -/
structure Rate where
  packetsPerSecond : Float
  megabitsPerSecond : Float
  deriving Repr

namespace Counters

/-- Frames per second over `seconds`. -/
def packetRate (counters : Counters) (seconds : Float) : Float :=
  if seconds ≤ 0.0 then 0.0 else counters.packets.toFloat / seconds

/-- Megabits per second over `seconds`. -/
def megabitRate (counters : Counters) (seconds : Float) : Float :=
  if seconds ≤ 0.0 then 0.0 else counters.bytes.toFloat * 8.0 / (seconds * 1000000.0)

def rate (counters : Counters) (seconds : Float) : Rate :=
  ⟨counters.packetRate seconds, counters.megabitRate seconds⟩

end Counters

/-- Seconds in a span of nanoseconds: whole seconds and the rest are converted apart. -/
def secondsOfNanos (nanos : Nat) : Float :=
  (UInt64.ofNat (nanos / 1000000000)).toFloat +
    (UInt64.ofNat (nanos % 1000000000)).toFloat / 1000000000.0

/-- Turns successive totals into rates. -/
structure RateMeter where
  /-- The totals of the last sample. -/
  previous : Counters
  instant : Nat
  deriving Repr, Inhabited

/-- What a sample divides by the elapsed time: the growth since the last sample. -/
def RateMeter.growth (meter : RateMeter) (current : Counters) : Counters :=
  current.since meter.previous

/-- The rate since the last sample, and the meter that remembers this one. -/
def RateMeter.sample (meter : RateMeter) (current : Counters) (instant : Nat) :
    Rate × RateMeter :=
  ((meter.growth current).rate (secondsOfNanos (instant - meter.instant)), ⟨current, instant⟩)

end FrameReplay
