import FrameReplay.Engine.Worker
import FrameReplay.Proofs.ContextState
import FrameReplay.Proofs.Fitting

/-!
# Turns of a worker

A worker is on course if its context stands where as many turns as the worker took lead to, and its
sink was handed what those turns send.  Every turn keeps a worker on course (`OnCourse.turn`), and
changes nothing that another context can see (`agree_turn`).
-/

namespace FrameReplay

theorem PacketBuffer.load_of_room (buffer : PacketBuffer) {bytes : ByteArray}
    (room : buffer.headroom + bytes.size ≤ storageSize) :
    ∃ loaded, buffer.load bytes = .ok loaded ∧ loaded.headroom = buffer.headroom :=
  ⟨_, dif_pos room, rfl⟩

namespace Worker

variable {σ : Type} [TxSink σ]

/-! ## What a turn leaves alone -/

section Frame

variable (seed : ByteArray) (transmitter : Transmitter) (worker : Worker σ)

/-- A turn that is not there to be taken changes nothing. -/
theorem turn_of_remaining_eq_zero (h : worker.remaining = 0) :
    worker.turn seed transmitter = (transmitter, worker) := by
  obtain ⟨ctx, remaining, done, buffer, sink⟩ := worker
  subst h
  rfl

/-- A turn is one attempt, counted as given up if it fails, or nothing at all. -/
theorem turn_cases :
    (worker.turn seed transmitter).1 = transmitter ∨
    ∃ loaded : PacketBuffer,
      (worker.turn seed transmitter).1 = (transmitter.tryProcess worker.ctx loaded).transmitter ∨
      (worker.turn seed transmitter).1 =
        (transmitter.tryProcess worker.ctx loaded).transmitter.recordAbort worker.ctx := by
  obtain ⟨ctx, remaining, done, buffer, sink⟩ := worker
  cases remaining with
  | zero => exact .inl rfl
  | succ remaining =>
    unfold turn
    simp only
    -- A seed that cannot be loaded ends the turn before the transmitter is asked.
    cases buffer.load seed with
    | error cause => exact .inl rfl
    | ok loaded =>
      refine .inr ⟨loaded, ?_⟩
      rcases attempt : transmitter.tryProcess ctx loaded with ⟨result, next, after⟩
      cases result with
      | ok sent => exact .inl (by simp only [attempt])
      | error reason => exact .inr (by simp only [attempt])

theorem sameShape_turn : (worker.turn seed transmitter).1.SameShape transmitter := by
  rcases worker.turn_cases seed transmitter with e | ⟨loaded, e | e⟩ <;> rw [e]
  · exact .refl _
  · exact Transmitter.sameShape_tryProcess ..
  · exact (Transmitter.sameShape_recordAbort ..).trans (Transmitter.sameShape_tryProcess ..)

variable {worker} in
/-- A turn changes nothing that another context can see. -/
theorem agree_turn {other : ContextId} (h : other ≠ worker.ctx) :
    (worker.turn seed transmitter).1.Agree other transmitter := by
  rcases worker.turn_cases seed transmitter with e | ⟨loaded, e | e⟩ <;> rw [e]
  · exact .refl _ _
  · exact Transmitter.agree_tryProcess _ h
  · exact (Transmitter.agree_recordAbort h).trans (Transmitter.agree_tryProcess _ h)

theorem remaining_turn_le : (worker.turn seed transmitter).2.remaining ≤ worker.remaining - 1 := by
  obtain ⟨ctx, remaining, done, buffer, sink⟩ := worker
  cases remaining with
  | zero => exact Nat.le_refl _
  | succ remaining =>
    unfold turn
    simp only
    split
    · exact Nat.zero_le _
    · split <;> exact Nat.le_refl _

theorem remaining_turns_le (n : Nat) :
    (turns seed n transmitter worker).2.remaining ≤ worker.remaining - n := by
  induction n generalizing transmitter worker with
  | zero => exact Nat.le_refl _
  | succ n ih =>
    have first := worker.remaining_turn_le seed transmitter
    have later := ih (worker.turn seed transmitter).1 (worker.turn seed transmitter).2
    exact Nat.le_trans later (by omega)

/-- A worker that finished has no turn left. -/
theorem remaining_finish : (worker.finish seed transmitter).2.remaining = 0 := by
  have := worker.remaining_turns_le seed transmitter worker.remaining
  unfold finish
  omega

end Frame

/-! ## What a turn does -/

/-- A worker whose context began in the state `origin` and did nothing but take the worker's
turns. -/
structure OnCourse (makeSink : ContextId → σ) (origin : ContextState) (transmitter : Transmitter)
    (worker : Worker σ) : Prop where
  state : transmitter.state? worker.ctx = some (origin.after transmitter.table worker.done)
  sink : worker.sink =
    (origin.sent transmitter.table worker.done).foldl TxSink.transmit (makeSink worker.ctx)
  headroom : worker.buffer.headroom = defaultHeadroom

/-- What others do does not lead a worker astray. -/
theorem OnCourse.of_agree {makeSink : ContextId → σ} {origin : ContextState}
    {before after : Transmitter} {worker : Worker σ}
    (course : OnCourse makeSink origin before worker)
    (same : after.Agree worker.ctx before) : OnCourse makeSink origin after worker :=
  ⟨by rw [same.state?, same.table, course.state], by rw [same.table, course.sink],
    course.headroom⟩

section Step

variable {seed : ByteArray} {transmitter : Transmitter} {worker : Worker σ}
  {makeSink : ContextId → σ} {origin : ContextState} {left : Nat}

/-- On an empty slot the frame is counted as given up. -/
theorem turn_of_empty {loaded : PacketBuffer} (turns : worker.remaining = left + 1)
    (load : worker.buffer.load seed = .ok loaded)
    (slot : transmitter.table.lookup (transmitter.cursor.position worker.ctx) = none) :
    worker.turn seed transmitter = (transmitter.recordAbort worker.ctx,
      ⟨worker.ctx, left, worker.done + 1, loaded, worker.sink⟩) := by
  obtain ⟨ctx, remaining, done, buffer, sink⟩ := worker
  simp only at turns load slot
  subst turns
  simp only [turn, load, Transmitter.tryProcess_of_empty slot]

/-- On a filled slot the template's frame goes to the sink and is counted. -/
theorem turn_of_filled {loaded : PacketBuffer} {template : Template} {record : Counters}
    (turns : worker.remaining = left + 1) (load : worker.buffer.load seed = .ok loaded)
    (room : loaded.headroom + template.effectiveLength ≤ storageSize)
    (slot : transmitter.table.lookup (transmitter.cursor.position worker.ctx) = some template)
    (counters : PerContext.get? transmitter.stats worker.ctx = some record) :
    worker.turn seed transmitter =
      ((transmitter.moved worker.ctx).counted worker.ctx (UInt64.ofNat template.effectiveLength),
        ⟨worker.ctx, left, worker.done + 1,
          (loaded.withLength template.effectiveLength room).setFrame template.frame,
          TxSink.transmit worker.sink template.frame⟩) := by
  have length : FrameBuffer.length
      ((loaded.withLength template.effectiveLength room).setFrame template.frame) =
        UInt64.ofNat template.effectiveLength := by
    rw [PacketBuffer.length_eq, PacketBuffer.length_setFrame]
    rfl
  have frame : FrameBuffer.frame
      ((loaded.withLength template.effectiveLength room).setFrame template.frame) =
        template.frame := PacketBuffer.frame_setFrame _ template.size_frame
  have attempt := Transmitter.tryProcess_of_record slot (loaded.overwrite_of_room template room)
    counters
  obtain ⟨ctx, remaining, done, buffer, sink⟩ := worker
  simp only at turns load slot attempt
  subst turns
  simp only [turn, load, attempt, length, frame]

/-- A turn keeps a worker on course. -/
theorem OnCourse.turn (course : OnCourse makeSink origin transmitter worker)
    (capacity : transmitter.cursor.capacity = transmitter.table.capacity)
    (fits : seed.size ≤ seedRoom) (turns : worker.remaining = left + 1) :
    OnCourse makeSink origin (worker.turn seed transmitter).1 (worker.turn seed transmitter).2 ∧
    (worker.turn seed transmitter).2.ctx = worker.ctx ∧
    (worker.turn seed transmitter).2.done = worker.done + 1 ∧
    (worker.turn seed transmitter).2.remaining = left := by
  have room : worker.buffer.headroom + seed.size ≤ storageSize := by
    rw [course.headroom]
    simp only [seedRoom, defaultHeadroom, storageSize] at fits ⊢
    omega
  obtain ⟨loaded, load, headroom⟩ := worker.buffer.load_of_room room
  rw [course.headroom] at headroom
  -- The closed form names the slot that the turn reads, and that slot decides what happens.
  have lookup := Transmitter.lookup_position course.state capacity
  cases slot : transmitter.table.entry
      ((origin.after transmitter.table worker.done).start transmitter.table) with
  | none =>
    rw [turn_of_empty turns load (lookup.trans slot)]
    refine ⟨⟨?_, ?_, headroom⟩, rfl, rfl, rfl⟩
    · rw [Transmitter.state?_recordAbort course.state]
      change _ = some (origin.after transmitter.table (worker.done + 1))
      rw [ContextState.after_add, ContextState.after_one_of_empty _ _ slot]
    · change worker.sink = (origin.sent transmitter.table (worker.done + 1)).foldl _ _
      rw [ContextState.sent_add, ContextState.sent_one_of_empty _ _ slot, List.append_nil]
      exact course.sink
  | some template =>
    have room : loaded.headroom + template.effectiveLength ≤ storageSize := by
      have short : template.effectiveLength ≤ templateSize := Nat.min_le_right _ _
      rw [headroom]
      simp only [templateSize, defaultHeadroom, storageSize] at short ⊢
      omega
    rw [turn_of_filled turns load room (lookup.trans slot)
      (Transmitter.state?_eq_some_iff.1 course.state).2]
    refine ⟨⟨?_, ?_, ?_⟩, rfl, rfl, rfl⟩
    · rw [Transmitter.state?_moved_counted course.state capacity]
      change _ = some (origin.after transmitter.table (worker.done + 1))
      rw [ContextState.after_add, ContextState.after_one_of_filled _ _ slot]
    · change TxSink.transmit worker.sink template.frame =
        (origin.sent transmitter.table (worker.done + 1)).foldl _ _
      rw [ContextState.sent_add, ContextState.sent_one_of_filled _ _ slot, List.foldl_append,
        ← course.sink]
      rfl
    · simp only [PacketBuffer.headroom_setFrame]
      exact headroom

end Step

end Worker

end FrameReplay
