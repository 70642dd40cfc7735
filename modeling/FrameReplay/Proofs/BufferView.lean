import FrameReplay.Proofs.Attempt

/-!
# One kind of buffer seen as another

Overwriting a frame and processing it ask a buffer for no more than its interface.  Where buffers of
one kind answer as buffers of another kind would, both come to the same (`BufferView.overwrite`,
`BufferView.tryProcess`).
-/

namespace FrameReplay

variable {α β : Type} [FrameBuffer α] [FrameBuffer β]

/-- Buffers of one kind seen as buffers of another kind: whatever is asked of the other, it answers
as the buffer itself does. -/
structure BufferView (view : α → β) : Prop where
  bounds (buffer : α) : FrameBuffer.bounds (view buffer) = FrameBuffer.bounds buffer
  frame (buffer : α) : FrameBuffer.frame (view buffer) = FrameBuffer.frame buffer
  setFrame (buffer : α) (bytes : ByteArray) (same : bytes.size = (FrameBuffer.frame buffer).size) :
    FrameBuffer.setFrame (view buffer) bytes = view (FrameBuffer.setFrame buffer bytes)
  adjustTail (buffer : α) (delta : Int32) : FrameBuffer.adjustTail (view buffer) delta =
    ((FrameBuffer.adjustTail buffer delta).1, view (FrameBuffer.adjustTail buffer delta).2)
  length (buffer : α) : FrameBuffer.length (view buffer) = FrameBuffer.length buffer

/-- Where buffers of several kinds are in use, each still acts as what it is. -/
theorem bufferView_inl : BufferView (Sum.inl : α → α ⊕ β) :=
  ⟨fun _ => rfl, fun _ => rfl, fun _ _ _ => rfl, fun _ _ => rfl, fun _ => rfl⟩

namespace BufferView

variable {view : α → β} (same : BufferView view) (buffer : α)

include same

theorem resizeTo (target : Nat) : FrameReplay.resizeTo target (view buffer) =
    ((FrameReplay.resizeTo target buffer).1, view (FrameReplay.resizeTo target buffer).2) := by
  -- The bounds agree, so both go the same way.
  have bounds := same.bounds buffer
  by_cases fits : (FrameBuffer.bounds buffer).length.toNat = target
  · rw [resizeTo_of_same buffer fits, resizeTo_of_same _ (by rw [bounds, fits])]
  · have fits' : (FrameBuffer.bounds (view buffer)).length.toNat ≠ target := by rwa [bounds]
    cases found : resizeDelta? (FrameBuffer.bounds buffer).length target with
    | none =>
      rw [resizeTo_of_none buffer fits found, resizeTo_of_none _ fits' (by rw [bounds, found]),
        bounds]
    | some delta =>
      rw [resizeTo_of_some buffer fits found, resizeTo_of_some _ fits' (by rw [bounds, found]),
        same.adjustTail]

theorem copyFrame (template : Template) : FrameReplay.copyFrame template (view buffer) =
    ((FrameReplay.copyFrame template buffer).1,
      view (FrameReplay.copyFrame template buffer).2) := by
  have within : ∀ n, 0 + (template.payload.extract 0
      (min n (FrameBuffer.frame buffer).size)).size ≤ (FrameBuffer.frame buffer).size := by
    intro n
    rw [ByteArray.size_extract]
    omega
  unfold FrameReplay.copyFrame
  simp only [same.frame]
  rw [same.setFrame buffer _ (size_overlay (within _))]
  split <;> rfl

theorem overwrite (template : Template) : FrameReplay.overwrite template (view buffer) =
    ((FrameReplay.overwrite template buffer).1,
      view (FrameReplay.overwrite template buffer).2) := by
  unfold FrameReplay.overwrite
  rw [same.resizeTo]
  rcases FrameReplay.resizeTo template.effectiveLength buffer with ⟨_ | _, resized⟩
  · rfl
  · simp only [same.bounds]
    split
    · exact same.copyFrame resized template
    · rfl

/-- An attempt only looks at the buffer when it overwrites it. -/
theorem tryProcess (transmitter : Transmitter) (ctx : ContextId) :
    transmitter.tryProcess ctx (view buffer) =
      ⟨(transmitter.tryProcess ctx buffer).result, (transmitter.tryProcess ctx buffer).transmitter,
        view (transmitter.tryProcess ctx buffer).buffer⟩ := by
  have ending := transmitter.ending_tryProcess ctx buffer
  generalize transmitter.tryProcess ctx buffer = attempt at ending ⊢
  -- Both attempts end the same way, with the same length to count if they come that far.
  have overwritten {template : Template} {answer : Except OverwriteError Nat} {after : α}
      (writing : FrameReplay.overwrite template buffer = (answer, after)) :
      FrameReplay.overwrite template (view buffer) = (answer, view after) := by
    rw [same.overwrite, writing]
  cases ending with
  | empty slot => rw [Transmitter.tryProcess_of_empty slot]
  | failed slot writing => rw [Transmitter.tryProcess_of_failed slot (overwritten writing)]
  | unrecorded slot writing record =>
    rw [Transmitter.tryProcess_of_no_record slot (overwritten writing) record]
  | sent slot writing record =>
    rw [Transmitter.tryProcess_of_record slot (overwritten writing) record, same.length]

end BufferView

theorem overwrite_inl (template : Template) (buffer : α) :
    overwrite template (Sum.inl buffer : α ⊕ β) =
      ((overwrite template buffer).1, .inl (overwrite template buffer).2) :=
  bufferView_inl.overwrite buffer template

theorem Transmitter.tryProcess_inl (transmitter : Transmitter) (ctx : ContextId) (buffer : α) :
    transmitter.tryProcess ctx (Sum.inl buffer : α ⊕ β) =
      ⟨(transmitter.tryProcess ctx buffer).result, (transmitter.tryProcess ctx buffer).transmitter,
        .inl (transmitter.tryProcess ctx buffer).buffer⟩ :=
  bufferView_inl.tryProcess buffer transmitter ctx

end FrameReplay
