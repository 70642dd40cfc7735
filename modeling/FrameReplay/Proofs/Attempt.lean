import FrameReplay.Control
import FrameReplay.Proofs.Cells

/-!
# One attempt to transmit

`Ending` lists the ways in which an attempt can end.  `Agree ctx a b` says that two transmitters
look the same to a context.  An attempt depends on nothing else of the transmitter
(`Agree.tryProcess`), and what it leaves looks the same to every other context
(`agree_tryProcess`).
-/

namespace FrameReplay.Transmitter

variable {β : Type} [FrameBuffer β]

/-- The transmitter after context `ctx` moved past the index at which it stands. -/
def moved (transmitter : Transmitter) (ctx : ContextId) : Transmitter :=
  { transmitter with
    cursor := transmitter.cursor.advance ctx (transmitter.cursor.position ctx) }

/-- The transmitter after a frame of `length` bytes was counted for context `ctx`. -/
def counted (transmitter : Transmitter) (ctx : ContextId) (length : UInt64) : Transmitter :=
  { transmitter with stats := PerContext.update transmitter.stats ctx (·.recordFrame length) }

theorem raw?_moved_self (transmitter : Transmitter) (ctx : ContextId) :
    (transmitter.moved ctx).cursor.raw? ctx = (transmitter.cursor.raw? ctx).map fun _ =>
      UInt32.ofNat (((transmitter.cursor.position ctx).toNat + 1) %
        transmitter.cursor.capacity.toNat) := by
  unfold moved
  rw [SequenceCursor.raw?_advance_self]
  congr
  funext
  apply UInt32.toNat_inj.1
  have bound : transmitter.cursor.capacity.toNat < 4294967296 :=
    transmitter.cursor.capacity.toNat_lt
  have inside := Nat.mod_lt ((transmitter.cursor.position ctx).toNat + 1)
    transmitter.cursor.capacity_pos
  rw [SequenceCursor.toNat_next _ _ (SequenceCursor.position_lt _ _), UInt32.toNat_ofNat']
  exact (Nat.mod_eq_of_lt (by omega)).symm

section Endings

variable {transmitter : Transmitter} {ctx : ContextId} {buffer after : β} {template : Template}

theorem tryProcess_of_empty
    (slot : transmitter.table.lookup (transmitter.cursor.position ctx) = none) :
    transmitter.tryProcess ctx buffer =
      ⟨.error (.missingTemplate (transmitter.cursor.position ctx)), transmitter, buffer⟩ := by
  simp only [tryProcess, slot]

theorem tryProcess_of_failed {cause : OverwriteError}
    (slot : transmitter.table.lookup (transmitter.cursor.position ctx) = some template)
    (writing : overwrite template buffer = (.error cause, after)) :
    transmitter.tryProcess ctx buffer = ⟨.error (.overwrite cause), transmitter, after⟩ := by
  simp only [tryProcess, slot, writing]

theorem tryProcess_of_no_record {written : Nat}
    (slot : transmitter.table.lookup (transmitter.cursor.position ctx) = some template)
    (writing : overwrite template buffer = (.ok written, after))
    (record : PerContext.get? transmitter.stats ctx = none) :
    transmitter.tryProcess ctx buffer =
      ⟨.error (.missingStats ctx), transmitter.moved ctx, after⟩ := by
  simp only [tryProcess, slot, writing, account]
  rw [StatsStore.record?_of_get?_eq_none _ _ _ record]
  rfl

theorem tryProcess_of_record {written : Nat} {counters : Counters}
    (slot : transmitter.table.lookup (transmitter.cursor.position ctx) = some template)
    (writing : overwrite template buffer = (.ok written, after))
    (record : PerContext.get? transmitter.stats ctx = some counters) :
    transmitter.tryProcess ctx buffer =
      ⟨.ok ⟨transmitter.cursor.position ctx, FrameBuffer.length after⟩,
        (transmitter.moved ctx).counted ctx (FrameBuffer.length after), after⟩ := by
  simp only [tryProcess, slot, writing, account]
  rw [StatsStore.record?_of_get?_eq_some _ _ _ record]
  rfl

end Endings

/-- The four ways in which an attempt ends: the slot is empty, the buffer cannot be overwritten, the
context has no record, or the frame is sent. -/
inductive Ending (transmitter : Transmitter) (ctx : ContextId) (buffer : β) : Attempt β → Prop where
  | empty (slot : transmitter.table.lookup (transmitter.cursor.position ctx) = none) :
    Ending transmitter ctx buffer
      ⟨.error (.missingTemplate (transmitter.cursor.position ctx)), transmitter, buffer⟩
  | failed {template : Template} {cause : OverwriteError} {after : β}
      (slot : transmitter.table.lookup (transmitter.cursor.position ctx) = some template)
      (writing : overwrite template buffer = (.error cause, after)) :
    Ending transmitter ctx buffer ⟨.error (.overwrite cause), transmitter, after⟩
  | unrecorded {template : Template} {written : Nat} {after : β}
      (slot : transmitter.table.lookup (transmitter.cursor.position ctx) = some template)
      (writing : overwrite template buffer = (.ok written, after))
      (record : PerContext.get? transmitter.stats ctx = none) :
    Ending transmitter ctx buffer ⟨.error (.missingStats ctx), transmitter.moved ctx, after⟩
  | sent {template : Template} {written : Nat} {after : β} {counters : Counters}
      (slot : transmitter.table.lookup (transmitter.cursor.position ctx) = some template)
      (writing : overwrite template buffer = (.ok written, after))
      (record : PerContext.get? transmitter.stats ctx = some counters) :
    Ending transmitter ctx buffer
      ⟨.ok ⟨transmitter.cursor.position ctx, FrameBuffer.length after⟩,
        (transmitter.moved ctx).counted ctx (FrameBuffer.length after), after⟩

theorem ending_tryProcess (transmitter : Transmitter) (ctx : ContextId) (buffer : β) :
    Ending transmitter ctx buffer (transmitter.tryProcess ctx buffer) := by
  cases slot : transmitter.table.lookup (transmitter.cursor.position ctx) with
  | none =>
    rw [tryProcess_of_empty slot]
    exact .empty slot
  | some template =>
    rcases writing : overwrite template buffer with ⟨answer, after⟩
    cases answer with
    | error cause =>
      rw [tryProcess_of_failed slot writing]
      exact .failed slot writing
    | ok written =>
      cases record : PerContext.get? transmitter.stats ctx with
      | none =>
        rw [tryProcess_of_no_record slot writing record]
        exact .unrecorded slot writing record
      | some counters =>
        rw [tryProcess_of_record slot writing record]
        exact .sent slot writing record

/-! ## What an attempt leaves alone -/

/-- Two transmitters with the same templates and with cells for the same contexts, so that at most
the contents of the cells differ. -/
structure SameShape (a b : Transmitter) : Prop where
  table : a.table = b.table
  capacity : a.cursor.capacity = b.cursor.capacity
  cells : a.cursor.cells.size = b.cursor.cells.size
  records : a.stats.size = b.stats.size

theorem SameShape.refl (transmitter : Transmitter) : SameShape transmitter transmitter :=
  ⟨rfl, rfl, rfl, rfl⟩

theorem SameShape.trans {a b c : Transmitter} (ab : SameShape a b) (bc : SameShape b c) :
    SameShape a c :=
  ⟨ab.table.trans bc.table, ab.capacity.trans bc.capacity, ab.cells.trans bc.cells,
    ab.records.trans bc.records⟩

/-- Two transmitters that look the same to a context. -/
structure Agree (ctx : ContextId) (a b : Transmitter) : Prop where
  table : a.table = b.table
  capacity : a.cursor.capacity = b.cursor.capacity
  cell : a.cursor.raw? ctx = b.cursor.raw? ctx
  record : PerContext.get? a.stats ctx = PerContext.get? b.stats ctx

theorem Agree.refl (ctx : ContextId) (transmitter : Transmitter) :
    Agree ctx transmitter transmitter :=
  ⟨rfl, rfl, rfl, rfl⟩

theorem Agree.trans {ctx : ContextId} {a b c : Transmitter} (ab : Agree ctx a b)
    (bc : Agree ctx b c) : Agree ctx a c :=
  ⟨ab.table.trans bc.table, ab.capacity.trans bc.capacity, ab.cell.trans bc.cell,
    ab.record.trans bc.record⟩

theorem Agree.symm {ctx : ContextId} {a b : Transmitter} (ab : Agree ctx a b) : Agree ctx b a :=
  ⟨ab.table.symm, ab.capacity.symm, ab.cell.symm, ab.record.symm⟩

section Frame

variable (transmitter : Transmitter) (ctx : ContextId) (length : UInt64) (buffer : β)

theorem sameShape_moved : SameShape (transmitter.moved ctx) transmitter :=
  ⟨rfl, rfl, SequenceCursor.size_cells_advance .., rfl⟩

theorem sameShape_counted : SameShape (transmitter.counted ctx length) transmitter :=
  ⟨rfl, rfl, rfl, PerContext.size_update ..⟩

theorem sameShape_recordAbort : SameShape (transmitter.recordAbort ctx) transmitter :=
  ⟨rfl, rfl, rfl, StatsStore.size_recordAbort ..⟩

theorem sameShape_tryProcess :
    SameShape (transmitter.tryProcess ctx buffer).transmitter transmitter := by
  have ending := transmitter.ending_tryProcess ctx buffer
  generalize transmitter.tryProcess ctx buffer = attempt at ending ⊢
  cases ending with
  | empty => exact .refl _
  | failed => exact .refl _
  | unrecorded => exact sameShape_moved ..
  | sent => exact (sameShape_counted ..).trans (sameShape_moved ..)

variable {transmitter ctx} {other : ContextId} (h : other ≠ ctx)
include h

theorem agree_moved : Agree other (transmitter.moved ctx) transmitter :=
  ⟨rfl, rfl, SequenceCursor.raw?_advance_of_ne _ _ _ h, rfl⟩

theorem agree_counted : Agree other (transmitter.counted ctx length) transmitter :=
  ⟨rfl, rfl, rfl, PerContext.get?_update_of_ne _ _ _ h⟩

theorem agree_recordAbort : Agree other (transmitter.recordAbort ctx) transmitter :=
  ⟨rfl, rfl, rfl, StatsStore.get?_recordAbort_of_ne _ _ h⟩

/-- An attempt of one context changes nothing that another context can see. -/
theorem agree_tryProcess :
    Agree other (transmitter.tryProcess ctx buffer).transmitter transmitter := by
  have ending := transmitter.ending_tryProcess ctx buffer
  generalize transmitter.tryProcess ctx buffer = attempt at ending ⊢
  cases ending with
  | empty => exact .refl _ _
  | failed => exact .refl _ _
  | unrecorded => exact agree_moved h
  | sent => exact (agree_counted _ h).trans (agree_moved h)

end Frame

/-! ## What an attempt depends on -/

section Locality

variable {ctx : ContextId} {a b : Transmitter} (same : Agree ctx a b)
include same

theorem Agree.position : a.cursor.position ctx = b.cursor.position ctx :=
  SequenceCursor.position_of_raw?_eq _ _ same.capacity same.cell

theorem Agree.lookup :
    a.table.lookup (a.cursor.position ctx) = b.table.lookup (b.cursor.position ctx) := by
  rw [same.position, same.table]

theorem Agree.moved : Agree ctx (a.moved ctx) (b.moved ctx) := by
  refine ⟨same.table, same.capacity, ?_, same.record⟩
  unfold Transmitter.moved
  rw [SequenceCursor.raw?_advance_self, SequenceCursor.raw?_advance_self, same.cell,
    same.position]
  unfold SequenceCursor.next
  rw [same.capacity]

theorem Agree.counted (length : UInt64) :
    Agree ctx (a.counted ctx length) (b.counted ctx length) := by
  refine ⟨same.table, same.capacity, same.cell, ?_⟩
  unfold Transmitter.counted
  rw [PerContext.get?_update_self, PerContext.get?_update_self, same.record]

theorem Agree.recordAbort : Agree ctx (a.recordAbort ctx) (b.recordAbort ctx) := by
  refine ⟨same.table, same.capacity, same.cell, ?_⟩
  unfold Transmitter.recordAbort
  rw [StatsStore.get?_recordAbort_self, StatsStore.get?_recordAbort_self, same.record]

/-- Transmitters that look the same to a context do the same for it, and look the same to it
afterwards. -/
theorem Agree.tryProcess (buffer : β) :
    (a.tryProcess ctx buffer).result = (b.tryProcess ctx buffer).result ∧
    (a.tryProcess ctx buffer).buffer = (b.tryProcess ctx buffer).buffer ∧
    Agree ctx (a.tryProcess ctx buffer).transmitter (b.tryProcess ctx buffer).transmitter := by
  -- Both see the same slot and the same record, so the second attempt ends as the first one does.
  have ending := a.ending_tryProcess ctx buffer
  generalize a.tryProcess ctx buffer = attempt at ending ⊢
  cases ending with
  | empty slot =>
    rw [same.lookup] at slot
    rw [tryProcess_of_empty slot, same.position]
    exact ⟨rfl, rfl, same⟩
  | failed slot writing =>
    rw [same.lookup] at slot
    rw [tryProcess_of_failed slot writing]
    exact ⟨rfl, rfl, same⟩
  | unrecorded slot writing record =>
    rw [same.lookup] at slot
    rw [same.record] at record
    rw [tryProcess_of_no_record slot writing record]
    exact ⟨rfl, rfl, same.moved⟩
  | sent slot writing record =>
    rw [same.lookup] at slot
    rw [same.record] at record
    rw [tryProcess_of_record slot writing record, same.position]
    exact ⟨rfl, rfl, same.moved.counted _⟩

end Locality

end FrameReplay.Transmitter
