import Mathlib.Algebra.GroupWithZero.Nat
import FrameReplay.Proofs.Attempt
import FrameReplay.Proofs.Walk

/-!
# Where a context stands

A context that has a cursor cell and a record is at every moment fully described by the two.
`ContextState.after` is where it stands after a number of turns, in closed form, and
`ContextState.sent` are the frames that it sent on the way.  Taking turns in two parts comes to the
same as taking them at once (`after_add`, `sent_add`).
-/

namespace FrameReplay

/-- What a transmitter holds for one context. -/
structure ContextState where
  /-- The stored cursor value, which need not name a slot. -/
  cell : UInt32
  /-- What the context has counted. -/
  record : Counters
  deriving DecidableEq, Repr

namespace ContextState

variable (state : ContextState) (table : TemplateTable)

/-- The slot at which the context goes on: its cell, or the first slot if the cell names none. -/
def start : Nat := if state.cell.toNat < table.slots.size then state.cell.toNat else 0

theorem start_lt : state.start table < table.slots.size := by
  unfold start
  split
  · assumption
  · exact table.size_pos

/-- How many of `turns` turns send a frame. -/
def sends (turns : Nat) : Nat := table.reach (state.start table) turns

theorem sends_le (turns : Nat) : state.sends table turns ≤ turns := table.reach_le _ _

/-- The frames that `turns` turns send. -/
def sent (turns : Nat) : List ByteArray :=
  table.frames (state.start table) (state.sends table turns)

/-- Where the context stands after `turns` turns.  As long as nothing was sent the cell keeps its
value, even one that names no slot. -/
def after (turns : Nat) : ContextState where
  cell :=
    if state.sends table turns = 0 then state.cell
    else UInt32.ofNat ((state.start table + state.sends table turns) % table.slots.size)
  record := {
    packets := state.record.packets + UInt64.ofNat (state.sends table turns)
    bytes := state.record.bytes + UInt64.ofNat ((state.sent table turns).map ByteArray.size).sum
    aborted := state.record.aborted + UInt64.ofNat (turns - state.sends table turns) }

theorem cell_after (turns : Nat) :
    (state.after table turns).cell =
      if state.sends table turns = 0 then state.cell
      else UInt32.ofNat ((state.start table + state.sends table turns) % table.slots.size) := rfl

theorem record_after (turns : Nat) :
    (state.after table turns).record =
      ⟨state.record.packets + UInt64.ofNat (state.sends table turns),
        state.record.bytes + UInt64.ofNat ((state.sent table turns).map ByteArray.size).sum,
        state.record.aborted + UInt64.ofNat (turns - state.sends table turns)⟩ := rfl

theorem toNat_slot (table : TemplateTable) (n : Nat) :
    (UInt32.ofNat (n % table.slots.size)).toNat = n % table.slots.size := by
  have inside := Nat.mod_lt n table.size_pos
  have bound : table.slots.size ≤ 4294967295 := table.size_le
  rw [UInt32.toNat_ofNat']
  omega

/-- The next turn goes on behind the last template that was sent. -/
theorem start_after (turns : Nat) :
    (state.after table turns).start table =
      (state.start table + state.sends table turns) % table.slots.size := by
  have inside := Nat.mod_lt (state.start table + state.sends table turns) table.size_pos
  by_cases nothing : state.sends table turns = 0
  · rw [nothing, Nat.add_zero, Nat.mod_eq_of_lt (state.start_lt table)]
    unfold start after
    simp only [nothing, if_true]
  · unfold start after
    simp only [nothing, if_false]
    rw [toNat_slot]
    exact if_pos inside

theorem sends_add (m n : Nat) :
    state.sends table (m + n) = state.sends table m + (state.after table m).sends table n := by
  -- The second part begins at a slot that is reduced modulo the size, which a walk does not see.
  unfold sends
  rw [start_after, TemplateTable.reach_mod, TemplateTable.reach_add]
  rfl

theorem sent_add (m n : Nat) :
    state.sent table (m + n) = state.sent table m ++ (state.after table m).sent table n := by
  unfold sent
  rw [start_after, TemplateTable.frames_mod, sends_add, TemplateTable.frames_add]

@[simp] theorem sends_zero : state.sends table 0 = 0 :=
  Nat.le_zero.1 (state.sends_le table 0)

@[simp] theorem sent_zero : state.sent table 0 = [] := by
  unfold sent
  rw [sends_zero]
  rfl

@[simp] theorem after_zero : state.after table 0 = state := by
  unfold after
  rw [sends_zero, sent_zero]
  simp

theorem after_add (m n : Nat) :
    state.after table (m + n) = (state.after table m).after table n := by
  have sends := state.sends_add table m n
  have sent := state.sent_add table m n
  have le := state.sends_le table m
  have le' := (state.after table m).sends_le table n
  have cell : (state.after table (m + n)).cell = ((state.after table m).after table n).cell := by
    rw [cell_after, cell_after]
    by_cases late : (state.after table m).sends table n = 0
    · rw [late, Nat.add_zero] at sends
      rw [if_pos late, sends, cell_after]
    · -- Two reductions modulo the number of slots come to one.
      rw [if_neg late, if_neg (by omega), start_after, Nat.mod_add_mod, sends, Nat.add_assoc]
  have record : (state.after table (m + n)).record =
      ((state.after table m).after table n).record := by
    have aborted : m + n - (state.sends table m + (state.after table m).sends table n) =
        (m - state.sends table m) + (n - (state.after table m).sends table n) := by omega
    rw [record_after, record_after, record_after, sends, sent, List.map_append, List.sum_append,
      aborted]
    simp only [UInt64.ofNat_add, UInt64.add_assoc]
  cases h : state.after table (m + n)
  cases h' : (state.after table m).after table n
  rw [h, h'] at cell record
  simp only at cell record
  rw [cell, record]

/-! ## One turn -/

theorem sends_one_of_empty (h : table.entry (state.start table) = none) :
    state.sends table 1 = 0 := by
  apply TemplateTable.reach_eq
  · exact Nat.zero_le _
  · intro k hk
    exact absurd hk (Nat.not_lt_zero k)
  · intro _
    exact h

theorem sends_one_of_filled {template : Template}
    (h : table.entry (state.start table) = some template) : state.sends table 1 = 1 := by
  apply TemplateTable.reach_eq
  · exact Nat.le_refl _
  · intro k hk
    rw [show k = 0 by omega, Nat.add_zero, h]
    exact Option.some_ne_none _
  · intro more
    exact absurd more (Nat.lt_irrefl 1)

theorem sent_one_of_empty (h : table.entry (state.start table) = none) :
    state.sent table 1 = [] := by
  unfold sent
  rw [state.sends_one_of_empty table h]
  rfl

theorem sent_one_of_filled {template : Template}
    (h : table.entry (state.start table) = some template) :
    state.sent table 1 = [template.frame] := by
  unfold sent TemplateTable.frames
  rw [state.sends_one_of_filled table h]
  simp only [List.range_one, List.filterMap_cons, Nat.add_zero, h, Option.map_some,
    List.filterMap_nil]

/-- A turn that finds no template leaves the cell and counts one frame given up. -/
theorem after_one_of_empty (h : table.entry (state.start table) = none) :
    state.after table 1 = ⟨state.cell, state.record.recordAbort⟩ := by
  unfold after
  rw [state.sends_one_of_empty table h, state.sent_one_of_empty table h]
  simp [Counters.recordAbort]

/-- A turn that finds a template moves on by one slot and counts one frame of its length. -/
theorem after_one_of_filled {template : Template}
    (h : table.entry (state.start table) = some template) :
    state.after table 1 =
      ⟨UInt32.ofNat ((state.start table + 1) % table.slots.size),
        state.record.recordFrame (UInt64.ofNat template.effectiveLength)⟩ := by
  unfold after
  rw [state.sends_one_of_filled table h, state.sent_one_of_filled table h]
  simp [Counters.recordFrame, template.size_frame]

end ContextState

/-! ## The state inside a transmitter -/

namespace Transmitter

variable {transmitter : Transmitter} {ctx : ContextId} {state : ContextState}

/-- Where a context stands, if it has a cell and a record. -/
def state? (transmitter : Transmitter) (ctx : ContextId) : Option ContextState :=
  match transmitter.cursor.raw? ctx, PerContext.get? transmitter.stats ctx with
  | some cell, some record => some ⟨cell, record⟩
  | _, _ => none

theorem state?_eq_some_iff : transmitter.state? ctx = some state ↔
    transmitter.cursor.raw? ctx = some state.cell ∧
      PerContext.get? transmitter.stats ctx = some state.record := by
  unfold state?
  constructor
  · intro h
    split at h
    · cases h
      exact ⟨by assumption, by assumption⟩
    · cases h
  · rintro ⟨cell, record⟩
    rw [cell, record]

theorem Agree.state? {a b : Transmitter} (same : Agree ctx a b) : a.state? ctx = b.state? ctx := by
  unfold Transmitter.state?
  rw [same.cell, same.record]

/-- A context with a state goes on at the slot that its state says. -/
theorem toNat_position (stands : transmitter.state? ctx = some state)
    (capacity : transmitter.cursor.capacity = transmitter.table.capacity) :
    (transmitter.cursor.position ctx).toNat = state.start transmitter.table := by
  unfold SequenceCursor.position ContextState.start
  rw [(state?_eq_some_iff.1 stands).1, Option.getD_some, SequenceCursor.toNat_clamp, capacity,
    TemplateTable.toNat_capacity]

theorem lookup_position (stands : transmitter.state? ctx = some state)
    (capacity : transmitter.cursor.capacity = transmitter.table.capacity) :
    transmitter.table.lookup (transmitter.cursor.position ctx) =
      transmitter.table.entry (state.start transmitter.table) := by
  rw [TemplateTable.lookup_eq_entry, toNat_position stands capacity]

theorem state?_recordAbort (stands : transmitter.state? ctx = some state) :
    (transmitter.recordAbort ctx).state? ctx = some ⟨state.cell, state.record.recordAbort⟩ := by
  obtain ⟨cell, record⟩ := state?_eq_some_iff.1 stands
  refine state?_eq_some_iff.2 ⟨cell, ?_⟩
  unfold recordAbort
  rw [StatsStore.get?_recordAbort_self, record]
  rfl

theorem state?_moved_counted (stands : transmitter.state? ctx = some state)
    (capacity : transmitter.cursor.capacity = transmitter.table.capacity) (length : UInt64) :
    ((transmitter.moved ctx).counted ctx length).state? ctx =
      some ⟨UInt32.ofNat ((state.start transmitter.table + 1) % transmitter.table.slots.size),
        state.record.recordFrame length⟩ := by
  obtain ⟨cell, record⟩ := state?_eq_some_iff.1 stands
  refine state?_eq_some_iff.2 ⟨?_, ?_⟩
  · unfold counted
    rw [raw?_moved_self, cell, Option.map_some, toNat_position stands capacity, capacity,
      TemplateTable.toNat_capacity]
  · unfold counted
    rw [PerContext.get?_update_self]
    exact congrArg _ record

end Transmitter

end FrameReplay
