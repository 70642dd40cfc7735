import FrameReplay.Context

/-!
# Sequence cursors

Each context walks through the template table in index order and begins again at zero behind the
last slot. A cell may hold any value, because it can be set from outside; a value that names no
slot reads as zero.
-/

namespace FrameReplay

/-- The position of every context in the template table. -/
structure SequenceCursor where
  /-- The stored values, which need not name a slot. -/
  cells : PerContext UInt32
  /-- The number of slots, behind which a context begins again. -/
  capacity : UInt32
  /-- There is at least one slot. -/
  capacity_pos : 0 < capacity.toNat
  deriving Repr

namespace SequenceCursor

/-- A cursor for `contexts` contexts; a table without slots counts as one with one. -/
def make (contexts : Nat) (capacity : UInt32) : SequenceCursor where
  cells := Array.replicate contexts 0
  capacity := if capacity = 0 then 1 else capacity
  capacity_pos := by
    split
    · decide
    · rename_i h
      exact Nat.pos_of_ne_zero fun e => h (UInt32.toNat_inj.1 e)

instance : Inhabited SequenceCursor := ⟨make 0 1⟩

/-- The index that a stored value stands for. -/
def clamp (cursor : SequenceCursor) (stored : UInt32) : UInt32 :=
  if stored < cursor.capacity then stored else 0

/-- The stored value of a context, as it is. -/
def raw? (cursor : SequenceCursor) (ctx : ContextId) : Option UInt32 := cursor.cells.get? ctx

/-- The template index for the next packet of a context; zero for a context without a cell. -/
def position (cursor : SequenceCursor) (ctx : ContextId) : UInt32 :=
  cursor.clamp ((cursor.raw? ctx).getD 0)

theorem position_lt (cursor : SequenceCursor) (ctx : ContextId) :
    cursor.position ctx < cursor.capacity := by
  simp only [position, clamp]
  split
  · assumption
  · exact UInt32.lt_iff_toNat_lt.2 cursor.capacity_pos

def next (cursor : SequenceCursor) (index : UInt32) : UInt32 :=
  if index + 1 < cursor.capacity then index + 1 else 0

/-- Moves a context past `index`; a context without a cell does not move. -/
def advance (cursor : SequenceCursor) (ctx : ContextId) (index : UInt32) : SequenceCursor :=
  { cursor with cells := cursor.cells.update ctx fun _ => cursor.next index }

/-- Stores any value for a context, or nothing happens if it has no cell. -/
def set? (cursor : SequenceCursor) (ctx : ContextId) (value : UInt32) : Option SequenceCursor :=
  match cursor.raw? ctx with
  | some _ => some { cursor with cells := cursor.cells.update ctx fun _ => value }
  | none => none

/-- Moves every context back to zero. -/
def reset (cursor : SequenceCursor) : SequenceCursor :=
  { cursor with cells := Array.replicate cursor.cells.size 0 }

/-- The cursor as it is shown in diagnostics. -/
def describe (cursor : SequenceCursor) : String :=
  s!"SequenceCursor \x7b cells: {cursor.cells.describe}, capacity: {cursor.capacity.toNat} \x7d"

end SequenceCursor

end FrameReplay
