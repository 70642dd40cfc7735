import FrameReplay.Cursor
import FrameReplay.Stats

/-!
# Cells of contexts

Every write of the transmit path goes into the cell of one context.  The lemmas below say for
each such write what the context reads back and that every other context reads what it read before.
-/

namespace FrameReplay

namespace ContextId

theorem index_inj {a b : ContextId} (h : a.index = b.index) : a = b := by
  cases a
  cases b
  simpa [index, UInt32.toNat_inj] using h

theorem index_ofIndex {i : Nat} (h : i < UInt32.size) : (ofIndex i).index = i := by
  unfold UInt32.size at h
  simp only [index, ofIndex, UInt32.toNat_ofNat']
  omega

/-- Places below 2^32 belong to different contexts. -/
theorem ofIndex_inj {i j : Nat} (hi : i < UInt32.size) (hj : j < UInt32.size)
    (h : ofIndex i = ofIndex j) : i = j := by
  rw [← index_ofIndex hi, h, index_ofIndex hj]

end ContextId

namespace PerContext

variable {α : Type} (cells : PerContext α) (ctx : ContextId) (f : α → α)

@[simp] theorem size_update : (cells.update ctx f).size = cells.size := Array.size_modify

@[simp] theorem get?_update_self : (cells.update ctx f).get? ctx = (cells.get? ctx).map f := by
  unfold get? update
  rw [Array.getElem?_modify, if_pos rfl]

theorem get?_update_of_ne {other : ContextId} (h : other ≠ ctx) :
    (cells.update ctx f).get? other = cells.get? other := by
  unfold get? update
  rw [Array.getElem?_modify, if_neg fun e => h (ContextId.index_inj e.symm)]

/-- Changing a cell that a context does not have changes nothing. -/
theorem update_of_get?_eq_none (h : cells.get? ctx = none) : cells.update ctx f = cells := by
  -- The only cell that would change lies behind the last one.
  have outside : cells.size ≤ ctx.index := Array.getElem?_eq_none_iff.1 h
  apply Array.ext_getElem?
  intro i
  unfold update
  rw [Array.getElem?_modify]
  split
  · rw [Array.getElem?_eq_none (by omega), Option.map_none]
  · rfl

/-- Where all cells are set to one value, a context reads it if it has a cell. -/
theorem get?_replicate_size (value : α) :
    PerContext.get? (Array.replicate cells.size value) ctx =
      (cells.get? ctx).map fun _ => value := by
  unfold get?
  rw [Array.getElem?_replicate]
  by_cases inside : ctx.index < cells.size
  · rw [if_pos inside, Array.getElem?_eq_getElem inside]
    rfl
  · rw [if_neg inside, Array.getElem?_eq_none (Nat.le_of_not_lt inside)]
    rfl

theorem get?_eq_none_iff : cells.get? ctx = none ↔ cells.size ≤ ctx.index :=
  Array.getElem?_eq_none_iff

theorem isSome_get?_iff : (cells.get? ctx).isSome ↔ ctx.index < cells.size := by
  rw [Option.isSome_iff_ne_none, Ne, get?_eq_none_iff, Nat.not_le]

theorem isSome_get?_ofIndex {i : Nat} (small : i < UInt32.size) (h : i < cells.size) :
    (cells.get? (.ofIndex i)).isSome := by
  unfold get?
  rw [ContextId.index_ofIndex small, Array.getElem?_eq_getElem h]
  rfl

end PerContext

namespace SequenceCursor

variable (cursor : SequenceCursor) (ctx : ContextId) (index : UInt32)

@[simp] theorem size_cells_advance :
    (cursor.advance ctx index).cells.size = cursor.cells.size :=
  PerContext.size_update ..

@[simp] theorem raw?_advance_self :
    (cursor.advance ctx index).raw? ctx = (cursor.raw? ctx).map fun _ => cursor.next index :=
  PerContext.get?_update_self ..

theorem raw?_advance_of_ne {other : ContextId} (h : other ≠ ctx) :
    (cursor.advance ctx index).raw? other = cursor.raw? other :=
  PerContext.get?_update_of_ne _ _ _ h

/-- A context without a cell does not move, and neither does anyone else. -/
theorem advance_of_raw?_eq_none (h : cursor.raw? ctx = none) :
    cursor.advance ctx index = cursor := by
  unfold advance
  rw [PerContext.update_of_get?_eq_none _ _ _ h]

theorem raw?_reset : cursor.reset.raw? ctx = (cursor.raw? ctx).map fun _ => 0 :=
  PerContext.get?_replicate_size _ _ _

theorem eq_zero_of_raw?_make {contexts : Nat} {capacity stored : UInt32}
    (h : (make contexts capacity).raw? ctx = some stored) : stored = 0 := by
  unfold raw? make PerContext.get? at h
  simp only [Array.getElem?_replicate] at h
  split at h
  · exact (Option.some.inj h).symm
  · cases h

theorem position_of_raw?_eq {other : SequenceCursor} (capacity : other.capacity = cursor.capacity)
    (raw : other.raw? ctx = cursor.raw? ctx) : other.position ctx = cursor.position ctx := by
  unfold position clamp
  rw [capacity, raw]

/-- A context without a cell reads index zero. -/
theorem position_of_raw?_eq_none (h : cursor.raw? ctx = none) : cursor.position ctx = 0 := by
  unfold position clamp
  rw [h]
  exact ite_self _

theorem toNat_clamp (stored : UInt32) :
    (cursor.clamp stored).toNat =
      if stored.toNat < cursor.capacity.toNat then stored.toNat else 0 := by
  unfold clamp
  simp only [UInt32.lt_iff_toNat_lt]
  split <;> rfl

/-- One more than an index does not overflow, because an index is below a capacity of 32 bits. -/
theorem toNat_add_one (h : index < cursor.capacity) : (index + 1).toNat = index.toNat + 1 := by
  have below : index.toNat < cursor.capacity.toNat := UInt32.lt_iff_toNat_lt.1 h
  have bound : cursor.capacity.toNat < 4294967296 := cursor.capacity.toNat_lt
  rw [UInt32.toNat_add, UInt32.toNat_one]
  omega

/-- The next index is one more, modulo the capacity. -/
theorem toNat_next (h : index < cursor.capacity) :
    (cursor.next index).toNat = (index.toNat + 1) % cursor.capacity.toNat := by
  have below : index.toNat < cursor.capacity.toNat := UInt32.lt_iff_toNat_lt.1 h
  have sum := cursor.toNat_add_one index h
  unfold next
  by_cases inside : index + 1 < cursor.capacity
  · rw [if_pos inside, sum]
    rw [UInt32.lt_iff_toNat_lt, sum] at inside
    rw [Nat.mod_eq_of_lt inside]
  · rw [if_neg inside]
    rw [UInt32.lt_iff_toNat_lt, sum] at inside
    rw [show index.toNat + 1 = cursor.capacity.toNat by omega, Nat.mod_self]
    rfl

end SequenceCursor

namespace StatsStore

variable (stats : StatsStore) (ctx : ContextId)

theorem record?_of_get?_eq_some {counters : Counters} (bytes : UInt64)
    (h : PerContext.get? stats ctx = some counters) :
    stats.record? ctx bytes = some (PerContext.update stats ctx (·.recordFrame bytes)) := by
  unfold record?
  rw [h]

theorem record?_of_get?_eq_none (bytes : UInt64) (h : PerContext.get? stats ctx = none) :
    stats.record? ctx bytes = none := by
  unfold record?
  rw [h]

@[simp] theorem size_recordAbort : (stats.recordAbort ctx).size = stats.size :=
  PerContext.size_update ..

@[simp] theorem get?_recordAbort_self :
    PerContext.get? (stats.recordAbort ctx) ctx =
      (PerContext.get? stats ctx).map Counters.recordAbort :=
  PerContext.get?_update_self ..

theorem get?_recordAbort_of_ne {other : ContextId} (h : other ≠ ctx) :
    PerContext.get? (stats.recordAbort ctx) other = PerContext.get? stats other :=
  PerContext.get?_update_of_ne _ _ _ h

theorem get?_reset :
    PerContext.get? stats.reset ctx = (PerContext.get? stats ctx).map fun _ => Counters.zero :=
  PerContext.get?_replicate_size _ _ _

end StatsStore

end FrameReplay
