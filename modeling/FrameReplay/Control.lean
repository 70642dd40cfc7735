import FrameReplay.Transmit

/-!
# Control operations

What may be changed from outside while frames are sent: templates are installed, replaced and
cleared, cursors are set, statistics are reset. A refused operation changes nothing.
-/

namespace FrameReplay

/-- Why a control operation is refused. -/
inductive ControlError where
  | noTemplates
  | indexOutOfRange (index capacity : UInt32)
  | unknownContext (ctx : ContextId)
  deriving DecidableEq, Repr

def ControlError.message : ControlError → String
  | .noTemplates => "at least one template is required"
  | .indexOutOfRange index capacity =>
    s!"template index {index.toNat} out of range for capacity {capacity.toNat}"
  | .unknownContext ctx => s!"unknown execution context {ctx.name}"

structure InstallReport where
  distinct : Nat
  slots : Nat
  deriving DecidableEq, Repr

namespace Transmitter

/-- Fills all slots with `templates` in turn. Where their number does not divide the number of
slots, the first ones are sent once more per cycle than the rest. -/
def install (transmitter : Transmitter) (templates : Array Template) :
    Except ControlError (InstallReport × Transmitter) :=
  if templates.isEmpty then .error .noTemplates
  else
    .ok (⟨templates.size, transmitter.table.slots.size⟩,
      { transmitter with table := transmitter.table.fill templates })

/-- Changes one slot; the index has to name it directly. -/
def putSlot (transmitter : Transmitter) (index : UInt32) (entry : Option Template) :
    Except ControlError Transmitter :=
  let capacity := transmitter.table.capacity
  if index < capacity then
    .ok { transmitter with table := transmitter.table.put index entry }
  else .error (.indexOutOfRange index capacity)

/-- Replaces the template in one slot. -/
def replace (transmitter : Transmitter) (index : UInt32) (template : Template) :
    Except ControlError Transmitter :=
  transmitter.putSlot index (some template)

/-- Empties one slot; frames that reach it are dropped. -/
def clear (transmitter : Transmitter) (index : UInt32) : Except ControlError Transmitter :=
  transmitter.putSlot index none

/-- Stores a cursor value for a context. -/
def setCursor (transmitter : Transmitter) (ctx : ContextId) (value : UInt32) :
    Except ControlError Transmitter :=
  match transmitter.cursor.set? ctx value with
  | some cursor => .ok { transmitter with cursor }
  | none => .error (.unknownContext ctx)

/-- Moves every context back to the first slot. -/
def resetCursors (transmitter : Transmitter) : Transmitter :=
  { transmitter with cursor := transmitter.cursor.reset }

/-- Sets all counters back to zero. -/
def resetStats (transmitter : Transmitter) : Transmitter :=
  { transmitter with stats := transmitter.stats.reset }

/-- Sum of the counters of all contexts. -/
def totals (transmitter : Transmitter) : Counters := transmitter.stats.total

/-- Counts a frame given up by a context, if it has a record. -/
def recordAbort (transmitter : Transmitter) (ctx : ContextId) : Transmitter :=
  { transmitter with stats := transmitter.stats.recordAbort ctx }

end Transmitter

end FrameReplay
