import FrameReplay.Proofs.Layout

/-!
# Aborts

What a failed attempt leaves behind.  A frame that could not be made leaves the transmitter as it
was.  Only a context without a record gets its cursor moved by a failure, because the cursor moves
before the frame is counted; where contexts have a cursor cell only together with a record, every
failure leaves everything as it was.
-/

namespace FrameReplay.Transmitter

variable {β : Type} [FrameBuffer β]

theorem result_eq_missingTemplate {transmitter : Transmitter} {ctx : ContextId} {buffer : β}
    {index : UInt32}
    (h : (transmitter.tryProcess ctx buffer).result = .error (.missingTemplate index)) :
    index = transmitter.cursor.position ctx ∧
      (transmitter.tryProcess ctx buffer).transmitter = transmitter ∧
      (transmitter.tryProcess ctx buffer).buffer = buffer := by
  have ending := transmitter.ending_tryProcess ctx buffer
  generalize transmitter.tryProcess ctx buffer = attempt at h ending ⊢
  cases ending <;> cases h
  exact ⟨rfl, rfl, rfl⟩

theorem result_eq_overwrite {transmitter : Transmitter} {ctx : ContextId} {buffer : β}
    {cause : OverwriteError}
    (h : (transmitter.tryProcess ctx buffer).result = .error (.overwrite cause)) :
    (transmitter.tryProcess ctx buffer).transmitter = transmitter := by
  have ending := transmitter.ending_tryProcess ctx buffer
  generalize transmitter.tryProcess ctx buffer = attempt at h ending ⊢
  cases ending <;> cases h
  rfl

/-- The template was written into the frame. -/
def Templated (transmitter : Transmitter) (ctx : ContextId) (buffer : β) : Prop :=
  ∃ template written, transmitter.table.lookup (transmitter.cursor.position ctx) = some template ∧
    (overwrite template buffer).1 = .ok written

theorem result_eq_missingStats_iff {transmitter : Transmitter} {ctx lost : ContextId}
    {buffer : β} :
    (transmitter.tryProcess ctx buffer).result = .error (.missingStats lost) ↔
      lost = ctx ∧ transmitter.Templated ctx buffer ∧
        PerContext.get? transmitter.stats ctx = none := by
  constructor
  · intro h
    have ending := transmitter.ending_tryProcess ctx buffer
    generalize transmitter.tryProcess ctx buffer = attempt at h ending
    -- Only one of the four endings reports this error.
    cases ending with
    | empty => cases h
    | failed => cases h
    | unrecorded slot writing record =>
      cases h
      exact ⟨rfl, ⟨_, _, slot, by rw [writing]⟩, record⟩
    | sent => cases h
  · rintro ⟨rfl, ⟨template, written, slot, writing⟩, record⟩
    have both : overwrite template buffer = (.ok written, (overwrite template buffer).2) := by
      rw [← writing]
    rw [tryProcess_of_no_record slot both record]

theorem transmitter_of_missingStats {transmitter : Transmitter} {ctx lost : ContextId}
    {buffer : β} (h : (transmitter.tryProcess ctx buffer).result = .error (.missingStats lost)) :
    (transmitter.tryProcess ctx buffer).transmitter = transmitter.moved ctx := by
  have ending := transmitter.ending_tryProcess ctx buffer
  generalize transmitter.tryProcess ctx buffer = attempt at h ending ⊢
  cases ending <;> cases h
  rfl

/-- After a failure the transmitter is as it was, or its context, which has no record, has moved. -/
theorem transmitter_of_error {transmitter : Transmitter} {ctx : ContextId} {buffer : β}
    {reason : AbortReason} (h : (transmitter.tryProcess ctx buffer).result = .error reason) :
    (transmitter.tryProcess ctx buffer).transmitter = transmitter ∨
      PerContext.get? transmitter.stats ctx = none ∧
        (transmitter.tryProcess ctx buffer).transmitter = transmitter.moved ctx := by
  cases reason with
  | missingTemplate index => exact .inl (result_eq_missingTemplate h).2.1
  | overwrite cause => exact .inl (result_eq_overwrite h)
  | missingStats lost =>
    exact .inr ⟨(result_eq_missingStats_iff.1 h).2.2, transmitter_of_missingStats h⟩

/-! ## Contexts with a cell and a record -/

/-- The same contexts have a cursor cell and a record. -/
def Paired (transmitter : Transmitter) : Prop :=
  transmitter.cursor.cells.size = transmitter.stats.size

theorem paired_forContexts (table : TemplateTable) (contexts : Nat) :
    (forContexts table contexts).Paired := by
  unfold Paired forContexts SequenceCursor.make StatsStore.make
  rw [Array.size_replicate, Array.size_replicate]

theorem Reaches.paired {first last : Transmitter} (h : first.Reaches last)
    (paired : first.Paired) : last.Paired :=
  h.sameLayout.cells.trans (paired.trans h.sameLayout.records.symm)

/-- A context without a record has no cell either, so nobody moves. -/
theorem Paired.moved_eq {transmitter : Transmitter} (paired : transmitter.Paired)
    {ctx : ContextId} (record : PerContext.get? transmitter.stats ctx = none) :
    transmitter.moved ctx = transmitter := by
  have cell : transmitter.cursor.raw? ctx = none := by
    rw [PerContext.get?_eq_none_iff] at record
    exact (PerContext.get?_eq_none_iff _ _).2 (paired ▸ record)
  unfold moved
  rw [SequenceCursor.advance_of_raw?_eq_none _ _ _ cell]

theorem Paired.transmitter_of_abort {transmitter : Transmitter} (paired : transmitter.Paired)
    {ctx : ContextId} {buffer : β} (h : (transmitter.tryProcess ctx buffer).action = .abort) :
    (transmitter.tryProcess ctx buffer).transmitter = transmitter := by
  unfold Attempt.action at h
  split at h
  · cases h
  · rename_i failed
    rcases transmitter_of_error failed with same | ⟨record, moved⟩
    · exact same
    · rw [moved, paired.moved_eq record]

/-- A failed attempt changes no record, no slot and no other context's cursor.  If the frame could
not be made, its own cursor stays too.  If only the record is missing, its own cursor has moved on
by one.  A transmitter that was made with cells and records for the same contexts stays as it is
through every abort. -/
theorem abort_atomic (transmitter : Transmitter) (ctx : ContextId) (buffer : β) :
    let index := transmitter.cursor.position ctx
    let attempt := transmitter.tryProcess ctx buffer
    (∀ reason, attempt.result = .error reason →
      attempt.transmitter.stats = transmitter.stats ∧
      attempt.transmitter.table = transmitter.table ∧
      attempt.transmitter.cursor.capacity = transmitter.cursor.capacity ∧
      ∀ other, other ≠ ctx →
        attempt.transmitter.cursor.raw? other = transmitter.cursor.raw? other) ∧
    (∀ missing, attempt.result = .error (.missingTemplate missing) →
      missing = index ∧ attempt.transmitter = transmitter ∧ attempt.buffer = buffer ∧
      attempt.transmitter.cursor.position ctx = index) ∧
    (∀ cause, attempt.result = .error (.overwrite cause) →
      attempt.transmitter = transmitter ∧ attempt.transmitter.cursor.position ctx = index) ∧
    (∀ lost, attempt.result = .error (.missingStats lost) ↔
      lost = ctx ∧ transmitter.Templated ctx buffer ∧
      PerContext.get? transmitter.stats ctx = none) ∧
    (∀ lost, attempt.result = .error (.missingStats lost) →
      attempt.transmitter.cursor.raw? ctx = (transmitter.cursor.raw? ctx).map fun _ =>
        UInt32.ofNat ((index.toNat + 1) % transmitter.cursor.capacity.toNat)) ∧
    ∀ table contexts, (forContexts table contexts).Reaches transmitter →
      attempt.action = .abort → attempt.transmitter = transmitter := by
  intro index attempt
  refine ⟨?_, ?_, ?_, fun lost => result_eq_missingStats_iff, ?_, ?_⟩
  · intro reason h
    refine ⟨?_, (sameShape_tryProcess ..).table, (sameShape_tryProcess ..).capacity,
      fun other ne => (agree_tryProcess buffer ne).cell⟩
    rcases transmitter_of_error h with same | ⟨-, moved⟩
    · rw [same]
    · rw [moved]
      rfl
  · intro missing h
    obtain ⟨rfl, same, untouched⟩ := result_eq_missingTemplate h
    exact ⟨rfl, same, untouched, by rw [same]⟩
  · intro cause h
    have same := result_eq_overwrite h
    exact ⟨same, by rw [same]⟩
  · intro lost h
    rw [transmitter_of_missingStats h]
    exact raw?_moved_self ..
  · intro table contexts reached h
    exact (reached.paired (paired_forContexts table contexts)).transmitter_of_abort h

end FrameReplay.Transmitter
