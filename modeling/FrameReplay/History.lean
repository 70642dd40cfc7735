import FrameReplay.Control

/-!
# Histories

A history is a list of operations on one transmitter, written down so that whole runs can be spoken
about and compared. Frames are processed in buffers that the history brings along, so an operation
depends on nothing but itself and the transmitter. Direct writes to the table (`store`, `unset`)
take any index; the control operations `replace` and `clear` refuse an index that names no slot.
-/

namespace FrameReplay

/-- An operation on a transmitter. -/
inductive Operation (β : Type) where
  /-- A context processes the frame in a buffer. -/
  | process (ctx : ContextId) (buffer : β)
  /-- A frame of a context is counted as given up. -/
  | recordAbort (ctx : ContextId)
  /-- Templates are installed in all slots. -/
  | install (templates : Array Template)
  /-- The template in one slot is replaced. -/
  | replace (index : UInt32) (template : Template)
  | clear (index : UInt32)
  /-- A template is written to the slot of any index. -/
  | store (index : UInt32) (template : Template)
  /-- The slot of any index is emptied. -/
  | unset (index : UInt32)
  /-- The cursor of a context is set. -/
  | setCursor (ctx : ContextId) (value : UInt32)
  | resetCursors
  | resetStats

inductive Answer (β : Type) where
  /-- The result of processing a frame, and the buffer afterwards. -/
  | processed (result : Except AbortReason Transmitted) (buffer : β)
  | installed (report : InstallReport)
  | done
  | refused (error : ControlError)

namespace Transmitter

variable {β : Type} [FrameBuffer β]

/-- What a control operation answers; a refused one leaves the transmitter as it was. -/
def answerControl (transmitter : Transmitter) :
    Except ControlError Transmitter → Answer β × Transmitter
  | .ok next => (.done, next)
  | .error error => (.refused error, transmitter)

def perform (transmitter : Transmitter) : Operation β → Answer β × Transmitter
  | .process ctx buffer =>
    let attempt := transmitter.tryProcess ctx buffer
    (.processed attempt.result attempt.buffer, attempt.transmitter)
  | .recordAbort ctx => (.done, transmitter.recordAbort ctx)
  | .install templates =>
    match transmitter.install templates with
    | .ok (report, next) => (.installed report, next)
    | .error error => (.refused error, transmitter)
  | .replace index template => transmitter.answerControl (transmitter.replace index template)
  | .clear index => transmitter.answerControl (transmitter.clear index)
  | .store index template =>
    (.done, { transmitter with table := transmitter.table.store index template })
  | .unset index => (.done, { transmitter with table := transmitter.table.clear index })
  | .setCursor ctx value => transmitter.answerControl (transmitter.setCursor ctx value)
  | .resetCursors => (.done, transmitter.resetCursors)
  | .resetStats => (.done, transmitter.resetStats)

/-- The transmitter after a history. -/
def after (transmitter : Transmitter) (history : List (Operation β)) : Transmitter :=
  history.foldl (fun transmitter operation => (transmitter.perform operation).2) transmitter

/-- What the operations of a history answer, in order. -/
def answers (transmitter : Transmitter) : List (Operation β) → List (Answer β)
  | [] => []
  | operation :: history =>
    let (answer, next) := transmitter.perform operation
    answer :: next.answers history

@[simp] theorem after_nil (transmitter : Transmitter) :
    transmitter.after ([] : List (Operation β)) = transmitter := rfl

@[simp] theorem after_cons (transmitter : Transmitter) (operation : Operation β)
    (history : List (Operation β)) :
    transmitter.after (operation :: history) =
      (transmitter.perform operation).2.after history := rfl

theorem after_append (transmitter : Transmitter) (early late : List (Operation β)) :
    transmitter.after (early ++ late) = (transmitter.after early).after late :=
  List.foldl_append

end Transmitter

end FrameReplay
