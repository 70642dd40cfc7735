import Mathlib.Data.List.DropRight
import FrameReplay.Rate
import FrameReplay.Proofs.Accounting

/-!
# Growth between samples

A meter is fed the totals of a store while frames are recorded, frames are given up and the store is
set back to zeros.  The totals are what was recorded since the last reset, on top of what was there
if there was none, and the meter remembers the totals of the last sample.  So the growth that it
sees is the traffic since then, as long as no reset came in between; after a reset the subtraction
wraps around, and the growth stays within the traffic only if the totals have come up to those of
the last sample again, or the traffic makes up for a whole turn of the counters
(`growth_le_recorded_iff`).
-/

namespace FrameReplay

/-! ## Adding to one record -/

namespace Counters

theorem add_right_comm (a b c : Counters) : a + b + c = a + c + b := by
  simp only [add_eq, UInt64.add_assoc, UInt64.add_comm b.packets, UInt64.add_comm b.bytes,
    UInt64.add_comm b.aborted]

theorem foldl_add_start (records : List Counters) (start more : Counters) :
    records.foldl (· + ·) (start + more) = records.foldl (· + ·) start + more := by
  rw [foldl_add, foldl_add, add_right_comm]

theorem foldl_modify (records : List Counters) (start more : Counters) {place : Nat}
    (inside : place < records.length) :
    (records.modify place (· + more)).foldl (· + ·) start =
      records.foldl (· + ·) start + more := by
  -- Along the list to the place, where the sum takes up what is added.
  induction records generalizing start place with
  | nil => exact absurd inside (Nat.not_lt_zero _)
  | cons record records ih =>
    cases place with
    | zero =>
      rw [List.modify_zero_cons, List.foldl_cons, List.foldl_cons, ← add_assoc, foldl_add_start]
    | succ place =>
      rw [List.modify_succ_cons, List.foldl_cons, List.foldl_cons]
      exact ih _ (Nat.lt_of_succ_lt_succ inside)

end Counters

namespace StatsStore

variable (stats : StatsStore) (ctx : ContextId) (more : Counters)

/-- What is added to the record of a context is added to the totals, if there is such a record. -/
theorem total_update :
    total (PerContext.update stats ctx (· + more)) =
      stats.total + if ctx.index < stats.size then more else .zero := by
  by_cases inside : ctx.index < stats.size
  · rw [if_pos inside]
    unfold total PerContext.update
    rw [← Array.foldl_toList, ← Array.foldl_toList, Array.toList_modify]
    apply Counters.foldl_modify
    rwa [Array.length_toList]
  · rw [if_neg inside, Counters.add_zero, PerContext.update_of_get?_eq_none]
    exact (PerContext.get?_eq_none_iff stats ctx).2 (Nat.le_of_not_lt inside)

theorem total_reset : stats.reset.total = Counters.zero := by
  rw [total_eq_sum]
  simp [reset, Counters.zero]

end StatsStore

/-! ## Histories of a store and its meter -/

/-- What happens to a store and to the meter that reads it. -/
inductive MeterEvent where
  /-- A frame of `bytes` bytes is recorded for a context. -/
  | frame (ctx : ContextId) (bytes : UInt64)
  | abort (ctx : ContextId)
  | reset
  /-- The meter is fed the totals of the moment. -/
  | sample (instant : Nat)
  deriving DecidableEq

namespace MeterEvent

/-- The length of the frame that is recorded, if its context has a record. -/
def recorded? (contexts : Nat) : MeterEvent → Option Nat
  | .frame ctx bytes => if ctx.index < contexts then some bytes.toNat else none
  | _ => none

/-- A frame is given up, and its context has a record. -/
def abandons (contexts : Nat) : MeterEvent → Bool
  | .abort ctx => ctx.index < contexts
  | _ => false

def isSample : MeterEvent → Bool
  | .sample _ => true
  | _ => false

end MeterEvent

/-- The lengths of the frames that were recorded. -/
def recordedLengths (contexts : Nat) (events : List MeterEvent) : List Nat :=
  events.filterMap (·.recorded? contexts)

/-- What events add to the totals of a store. -/
def addedTotals (contexts : Nat) (events : List MeterEvent) : Counters where
  packets := UInt64.ofNat (recordedLengths contexts events).length
  bytes := UInt64.ofNat (recordedLengths contexts events).sum
  aborted := UInt64.ofNat (events.countP (·.abandons contexts))

theorem addedTotals_append (contexts : Nat) (early late : List MeterEvent) :
    addedTotals contexts (early ++ late) =
      addedTotals contexts early + addedTotals contexts late := by
  simp only [addedTotals, recordedLengths, Counters.add_eq, List.filterMap_append,
    List.length_append, List.sum_append, List.countP_append, UInt64.ofNat_add]

theorem addedTotals_frame (contexts : Nat) (ctx : ContextId) (bytes : UInt64) :
    addedTotals contexts [.frame ctx bytes] =
      if ctx.index < contexts then ⟨1, bytes, 0⟩ else .zero := by
  by_cases inside : ctx.index < contexts
  · simp [addedTotals, recordedLengths, MeterEvent.recorded?, MeterEvent.abandons, inside]
  · simp [addedTotals, recordedLengths, MeterEvent.recorded?, MeterEvent.abandons, inside,
      Counters.zero]

theorem addedTotals_abort (contexts : Nat) (ctx : ContextId) :
    addedTotals contexts [.abort ctx] =
      if ctx.index < contexts then ⟨0, 0, 1⟩ else .zero := by
  by_cases inside : ctx.index < contexts
  · simp [addedTotals, recordedLengths, MeterEvent.recorded?, MeterEvent.abandons, inside]
  · simp [addedTotals, recordedLengths, MeterEvent.recorded?, MeterEvent.abandons, inside,
      Counters.zero]

/-- The events behind the last reset. -/
def sinceStoreReset (events : List MeterEvent) : List MeterEvent :=
  events.rtakeWhile fun event => event ≠ .reset

/-- The events behind the last sample. -/
def sinceSample (events : List MeterEvent) : List MeterEvent :=
  events.rtakeWhile (!·.isSample)

/-- The events up to the last sample. -/
def untilSample (events : List MeterEvent) : List MeterEvent :=
  events.rdropWhile (!·.isSample)

/-- A store and the meter that reads it. -/
structure Metered where
  stats : StatsStore
  meter : RateMeter

namespace Metered

/-- A meter starts out from the totals that it finds. -/
def started (stats : StatsStore) (instant : Nat) : Metered := ⟨stats, ⟨stats.total, instant⟩⟩

def step (metered : Metered) : MeterEvent → Metered
  | .frame ctx bytes =>
    { metered with stats := (metered.stats.record? ctx bytes).getD metered.stats }
  | .abort ctx => { metered with stats := metered.stats.recordAbort ctx }
  | .reset => { metered with stats := metered.stats.reset }
  | .sample instant =>
    { metered with meter := (metered.meter.sample metered.stats.total instant).2 }

/-- Store and meter after a list of events. -/
def after (metered : Metered) (events : List MeterEvent) : Metered := events.foldl step metered

variable (metered : Metered)

theorem after_append (early late : List MeterEvent) :
    metered.after (early ++ late) = (metered.after early).after late := List.foldl_append

theorem after_concat (early : List MeterEvent) (last : MeterEvent) :
    metered.after (early ++ [last]) = (metered.after early).step last :=
  metered.after_append early [last]

theorem stats_step_frame (ctx : ContextId) (bytes : UInt64) :
    (metered.step (.frame ctx bytes)).stats =
      PerContext.update metered.stats ctx (· + ⟨1, bytes, 0⟩) := by
  simp only [← Counters.recordFrame_eq]
  show (metered.stats.record? ctx bytes).getD metered.stats = _
  cases held : PerContext.get? metered.stats ctx with
  | none =>
    rw [StatsStore.record?_of_get?_eq_none _ _ _ held, PerContext.update_of_get?_eq_none _ _ _ held]
    rfl
  | some counters =>
    rw [StatsStore.record?_of_get?_eq_some _ _ _ held]
    rfl

theorem stats_step_abort (ctx : ContextId) :
    (metered.step (.abort ctx)).stats =
      PerContext.update metered.stats ctx (· + ⟨0, 0, 1⟩) := by
  simp only [← Counters.recordAbort_eq]
  rfl

theorem size_step (event : MeterEvent) :
    (metered.step event).stats.size = metered.stats.size := by
  cases event with
  | frame ctx bytes =>
    rw [stats_step_frame]
    exact PerContext.size_update ..
  | abort ctx => exact PerContext.size_update ..
  | reset => exact Array.size_replicate
  | sample instant => rfl

theorem size_after (events : List MeterEvent) :
    (metered.after events).stats.size = metered.stats.size := by
  induction events using List.reverseRecOn with
  | nil => rfl
  | append_singleton early last ih => rw [after_concat, size_step, ih]

/-! ## The totals -/

/-- Every event but a reset adds to the totals what it stands for. -/
theorem total_step {event : MeterEvent} (kept : event ≠ .reset) :
    (metered.step event).stats.total =
      metered.stats.total + addedTotals metered.stats.size [event] := by
  cases event with
  | frame ctx bytes => rw [stats_step_frame, StatsStore.total_update, addedTotals_frame]
  | abort ctx => rw [stats_step_abort, StatsStore.total_update, addedTotals_abort]
  | reset => exact absurd rfl kept
  | sample instant => exact (Counters.add_zero _).symm

/-- The totals are what was added since the last reset, on top of the totals of the beginning if
there was none. -/
theorem total_after (events : List MeterEvent) :
    (metered.after events).stats.total =
      (if .reset ∈ events then Counters.zero else metered.stats.total) +
        addedTotals metered.stats.size (sinceStoreReset events) := by
  -- A last event that is a reset cuts off what was added before, any other adds to it.
  induction events using List.reverseRecOn with
  | nil => exact (Counters.add_zero _).symm
  | append_singleton early last ih =>
    rw [after_concat]
    unfold sinceStoreReset at ih ⊢
    by_cases last_reset : last = .reset
    · subst last_reset
      rw [List.rtakeWhile_concat_neg _ _ _ (by simp), if_pos (by simp)]
      exact (StatsStore.total_reset _).trans (Counters.add_zero _).symm
    · rw [total_step _ last_reset, ih, size_after,
        List.rtakeWhile_concat_pos _ _ _ (by simpa using last_reset), addedTotals_append,
        Counters.add_assoc]
      simp [Ne.symm last_reset]

/-! ## The meter -/

theorem meter_step {event : MeterEvent} (other : event.isSample = false) :
    (metered.step event).meter = metered.meter := by
  cases event with
  | sample instant => cases other
  | _ => rfl

/-- A meter remembers the totals of the last sample. -/
theorem previous_after (stats : StatsStore) (instant : Nat) (events : List MeterEvent) :
    ((started stats instant).after events).meter.previous =
      ((started stats instant).after (untilSample events)).stats.total := by
  unfold untilSample
  induction events using List.reverseRecOn with
  | nil => rfl
  | append_singleton early last ih =>
    cases last_sample : last.isSample with
    | true =>
      rw [List.rdropWhile_concat_neg _ _ _ (by simp [last_sample]), after_concat]
      cases last with
      | sample instant => rfl
      | _ => cases last_sample
    | false =>
      rw [List.rdropWhile_concat_pos _ _ _ (by simp [last_sample]), after_concat,
        meter_step _ last_sample, ih]

end Metered

/-! ## Growth -/

theorem toNat_add_ofNat_sub (word : UInt64) {count : Nat} (small : count < 18446744073709551616) :
    (word + UInt64.ofNat count - word).toNat = count := by
  rw [UInt64.add_comm, UInt64.add_sub_cancel, UInt64.toNat_ofNat']
  exact Nat.mod_eq_of_lt small

/-- A difference that may wrap around stays within `most` if there is nothing to wrap, or if it
comes around as far as that. -/
theorem toNat_ofNat_sub_le_iff (word : UInt64) {count most : Nat} (within : count ≤ most)
    (small : most < 18446744073709551616) :
    (UInt64.ofNat count - word).toNat ≤ most ↔
      word.toNat ≤ count ∨ 18446744073709551616 + count ≤ word.toNat + most := by
  have bound := word.toNat_lt
  rw [UInt64.toNat_sub, UInt64.toNat_ofNat', Nat.mod_eq_of_lt (by omega : count < 2 ^ 64)]
  omega

theorem recordedLengths_sinceStoreReset (contexts : Nat) (events : List MeterEvent) :
    (recordedLengths contexts (sinceStoreReset events)).length ≤
        (recordedLengths contexts events).length ∧
      (recordedLengths contexts (sinceStoreReset events)).sum ≤
        (recordedLengths contexts events).sum := by
  obtain ⟨front, split⟩ : sinceStoreReset events <:+ events := List.rtakeWhile_suffix _ _
  have lengths : recordedLengths contexts events =
      recordedLengths contexts front ++ recordedLengths contexts (sinceStoreReset events) :=
    (congrArg (recordedLengths contexts) split).symm.trans List.filterMap_append
  rw [lengths, List.length_append, List.sum_append]
  omega

namespace Metered

/-- With less than 2^64 frames and bytes recorded since the last sample, the growth that the next
sample divides by the time is just what was recorded, if the store was not reset in between.  If it
was, the growth exceeds the traffic, unless what was recorded since the reset comes up to the totals
of the last sample, or the counters come around by as much as the traffic. -/
theorem growth_le_recorded_iff (stats : StatsStore) (instant : Nat) (events : List MeterEvent) :
    let now := (started stats instant).after events
    let growth := now.meter.growth now.stats.total
    let recorded := recordedLengths stats.size (sinceSample events)
    let kept := recordedLengths stats.size (sinceStoreReset (sinceSample events))
    let sampled := ((started stats instant).after (untilSample events)).stats.total
    recorded.length < 18446744073709551616 → recorded.sum < 18446744073709551616 →
    (.reset ∉ sinceSample events →
      growth.packets.toNat = recorded.length ∧ growth.bytes.toNat = recorded.sum) ∧
    (.reset ∈ sinceSample events →
      (growth.packets.toNat ≤ recorded.length ↔
        sampled.packets.toNat ≤ kept.length ∨
          18446744073709551616 + kept.length ≤ sampled.packets.toNat + recorded.length) ∧
      (growth.bytes.toNat ≤ recorded.sum ↔
        sampled.bytes.toNat ≤ kept.sum ∨
          18446744073709551616 + kept.sum ≤ sampled.bytes.toNat + recorded.sum)) := by
  intro now growth recorded kept sampled few short
  have around : growth = now.stats.total.since sampled :=
    congrArg now.stats.total.since (previous_after stats instant events)
  -- The totals of now are those of the last sample and what came after.
  have total : now.stats.total =
      (if .reset ∈ sinceSample events then Counters.zero else sampled) +
        addedTotals stats.size (sinceStoreReset (sinceSample events)) := by
    have size := (started stats instant).size_after (untilSample events)
    have law := total_after ((started stats instant).after (untilSample events))
      (sinceSample events)
    rw [size, ← after_append, untilSample, sinceSample, List.rdropWhile_append_rtakeWhile] at law
    exact law
  constructor
  · intro quiet
    have all : sinceStoreReset (sinceSample events) = sinceSample events := by
      apply List.rtakeWhile_eq_self_iff.2
      intro event met
      have other : event ≠ .reset := fun reset => quiet (reset ▸ met)
      simpa using other
    rw [if_neg quiet, all] at total
    rw [around, total]
    exact ⟨toNat_add_ofNat_sub sampled.packets few, toNat_add_ofNat_sub sampled.bytes short⟩
  · intro reset
    obtain ⟨fewer, shorter⟩ := recordedLengths_sinceStoreReset stats.size (sinceSample events)
    have anew : now.stats.total =
        addedTotals stats.size (sinceStoreReset (sinceSample events)) := by
      rw [total, if_pos reset]
      simp only [Counters.add_eq, Counters.zero, UInt64.zero_add]
    rw [around, anew]
    exact ⟨toNat_ofNat_sub_le_iff sampled.packets fewer few,
      toNat_ofNat_sub_le_iff sampled.bytes shorter short⟩

/-- Two samples of two contexts: one with no reset before it, and one where the records have come up
to what they held before. -/
theorem growth_le_recorded_iff_caughtUp :
    let store := StatsStore.make 2
    let quiet : List MeterEvent :=
      [.frame ⟨0⟩ 100, .reset, .frame ⟨0⟩ 80, .sample 10, .frame ⟨1⟩ 60, .frame ⟨7⟩ 50, .abort ⟨0⟩]
    let anew : List MeterEvent :=
      [.frame ⟨0⟩ 100, .sample 10, .frame ⟨1⟩ 60, .reset, .frame ⟨0⟩ 120, .frame ⟨0⟩ 1]
    let growth (events : List MeterEvent) :=
      ((started store 0).after events).meter.growth ((started store 0).after events).stats.total
    recordedLengths 2 (sinceSample quiet) = [60] ∧
    (growth quiet).packets.toNat = 1 ∧ (growth quiet).bytes.toNat = 60 ∧
    recordedLengths 2 (sinceSample anew) = [60, 120, 1] ∧
    (growth anew).packets.toNat ≤ 3 ∧ (growth anew).bytes.toNat ≤ 181 := by
  intro store quiet anew growth
  have one := (growth_le_recorded_iff store 0 quiet (by decide) (by decide)).1 (by decide)
  have other := (growth_le_recorded_iff store 0 anew (by decide) (by decide)).2 (by decide)
  exact ⟨by decide, one.1, one.2, by decide, other.1.2 (.inl (by decide)),
    other.2.2 (.inl (by decide))⟩

/-- A sample after a reset, with nothing recorded since the one before, sees a growth by all but one
of 2^64 frames. -/
theorem growth_exceeds_after_reset :
    let events : List MeterEvent := [.frame ⟨0⟩ 100, .sample 1000000000, .reset]
    let now := (started (.make 1) 0).after events
    let growth := now.meter.growth now.stats.total
    recordedLengths 1 (sinceSample events) = [] ∧
    growth.packets.toNat = 18446744073709551615 ∧ growth.bytes.toNat = 18446744073709551516 := by
  decide

end Metered

end FrameReplay
