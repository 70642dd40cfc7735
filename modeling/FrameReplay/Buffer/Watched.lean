import FrameReplay.Buffer.Basic

/-!
# Watched buffers

A buffer that keeps a record of the resizes asked of it and is otherwise the buffer inside. What an
operation asks of buffers can be read off the record.
-/

namespace FrameReplay

/-- A buffer with the resizes that were asked of it. -/
structure Watched (β : Type) where
  buffer : β
  /-- All resizes asked for, in order. -/
  requests : List Int32
  deriving Repr

namespace Watched

/-- A buffer that nothing was asked of yet. -/
def fresh {β : Type} (buffer : β) : Watched β := ⟨buffer, []⟩

instance {β : Type} [FrameBuffer β] : FrameBuffer (Watched β) where
  bounds watched := FrameBuffer.bounds watched.buffer
  frame watched := FrameBuffer.frame watched.buffer
  setFrame watched bytes := { watched with buffer := FrameBuffer.setFrame watched.buffer bytes }
  adjustTail watched delta :=
    let (answer, buffer) := FrameBuffer.adjustTail watched.buffer delta
    (answer, ⟨buffer, watched.requests ++ [delta]⟩)
  length watched := FrameBuffer.length watched.buffer

instance {β : Type} [FrameBuffer β] [LawfulFrameBuffer β] : LawfulFrameBuffer (Watched β) where
  frame_setFrame watched := LawfulFrameBuffer.frame_setFrame watched.buffer
  bounds_setFrame watched := LawfulFrameBuffer.bounds_setFrame watched.buffer

end Watched

end FrameReplay
