import FrameReplay.Cursor
import FrameReplay.Overwrite
import FrameReplay.Stats
import FrameReplay.Template.Table

/-!
# The transmit decision

For every received frame a context reads its cursor, looks up the template there, overwrites the
frame with it, moves the cursor on and counts the frame. The cursor moves only once the frame is
complete, so that after a failure the same template is tried again on the next frame.
-/

namespace FrameReplay

/-- The verdict on one frame. -/
inductive Action where
  | forward
  | abort
  deriving DecidableEq, Repr

/-- The number that a packet hook knows the verdict by. -/
def Action.code : Action → UInt32
  | .forward => 3
  | .abort => 0

/-- Why a frame was dropped. -/
inductive AbortReason where
  /-- The slot of the index is empty. -/
  | missingTemplate (index : UInt32)
  /-- The template could not be written into the frame. -/
  | overwrite (cause : OverwriteError)
  /-- The context has no statistics record. -/
  | missingStats (ctx : ContextId)
  deriving DecidableEq, Repr

/-- The text of the reason. -/
def AbortReason.message : AbortReason → String
  | .missingTemplate index => s!"no template provisioned at index {index.toNat}"
  | .overwrite cause => cause.message
  | .missingStats ctx => s!"no statistics record for {ctx.name}"

/-- A frame that was made ready to send. -/
structure Transmitted where
  index : UInt32
  /-- Length of the frame afterwards, as counted. -/
  length : UInt64
  deriving DecidableEq, Repr

/-- What the contexts share: the templates, the cursors and the statistics. -/
structure Transmitter where
  table : TemplateTable
  cursor : SequenceCursor
  stats : StatsStore
  deriving Inhabited

/-- Result of an attempt to transmit, with the state that it leaves. -/
structure Attempt (β : Type) where
  /-- What was sent, or why nothing was. -/
  result : Except AbortReason Transmitted
  transmitter : Transmitter
  buffer : β

namespace Transmitter

/-- Cursors and statistics for `contexts` contexts over a table. -/
def forContexts (table : TemplateTable) (contexts : Nat) : Transmitter :=
  ⟨table, SequenceCursor.make contexts table.capacity, StatsStore.make contexts⟩

/-- Counts the frame that context `ctx` made from the template at `index`, after moving the cursor
past it. -/
def account {β : Type} [FrameBuffer β] (transmitter : Transmitter) (ctx : ContextId)
    (index : UInt32) (buffer : β) : Attempt β :=
  let moved := { transmitter with cursor := transmitter.cursor.advance ctx index }
  let length := FrameBuffer.length buffer
  match moved.stats.record? ctx length with
  | some stats => ⟨.ok ⟨index, length⟩, { moved with stats }, buffer⟩
  | none => ⟨.error (.missingStats ctx), moved, buffer⟩

/-- Turns the frame of a buffer into the next one of the context's sequence and counts it. -/
def tryProcess {β : Type} [FrameBuffer β] (transmitter : Transmitter) (ctx : ContextId)
    (buffer : β) : Attempt β :=
  let index := transmitter.cursor.position ctx
  match transmitter.table.lookup index with
  | none => ⟨.error (.missingTemplate index), transmitter, buffer⟩
  | some template =>
    match overwrite template buffer with
    | (.error cause, buffer) => ⟨.error (.overwrite cause), transmitter, buffer⟩
    | (.ok _, buffer) => transmitter.account ctx index buffer

end Transmitter

/-- The verdict that a result amounts to. -/
def Attempt.action {β : Type} (attempt : Attempt β) : Action :=
  match attempt.result with
  | .ok _ => .forward
  | .error _ => .abort

end FrameReplay
