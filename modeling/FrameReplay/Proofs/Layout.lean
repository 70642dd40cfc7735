import FrameReplay.History
import FrameReplay.Proofs.Attempt

/-!
# The layout of a transmitter

The number of slots, the capacity of the cursor, and which contexts have a cell and a record are
settled when a transmitter is made.  No operation changes them (`sameLayout_perform`), so they are
the same in every state that operations lead to (`Reaches.sameLayout`).
-/

namespace FrameReplay

/-- The operation is about the table alone. -/
def Operation.writesTable {β : Type} : Operation β → Bool
  | .install _ | .replace .. | .clear _ | .store .. | .unset _ => true
  | _ => false

namespace Transmitter

/-- Two transmitters with as many slots, cells and records, whatever stands in them. -/
structure SameLayout (a b : Transmitter) : Prop where
  slots : a.table.slots.size = b.table.slots.size
  capacity : a.cursor.capacity = b.cursor.capacity
  cells : a.cursor.cells.size = b.cursor.cells.size
  records : a.stats.size = b.stats.size

theorem SameLayout.refl (transmitter : Transmitter) : SameLayout transmitter transmitter :=
  ⟨rfl, rfl, rfl, rfl⟩

theorem SameLayout.trans {a b c : Transmitter} (ab : SameLayout a b) (bc : SameLayout b c) :
    SameLayout a c :=
  ⟨ab.slots.trans bc.slots, ab.capacity.trans bc.capacity, ab.cells.trans bc.cells,
    ab.records.trans bc.records⟩

theorem SameShape.layout {a b : Transmitter} (same : SameShape a b) : SameLayout a b :=
  ⟨by rw [same.table], same.capacity, same.cells, same.records⟩

section Control

variable {transmitter next : Transmitter}

theorem install_eq_ok {templates : Array Template} {report : InstallReport}
    (h : transmitter.install templates = .ok (report, next)) :
    templates.isEmpty = false ∧ report = ⟨templates.size, transmitter.table.slots.size⟩ ∧
      next = { transmitter with table := transmitter.table.fill templates } := by
  unfold install at h
  by_cases none : templates.isEmpty = true
  · rw [if_pos none] at h
    cases h
  · rw [if_neg none] at h
    cases h
    exact ⟨eq_false_of_ne_true none, rfl, rfl⟩

theorem putSlot_eq_ok {index : UInt32} {entry : Option Template}
    (h : transmitter.putSlot index entry = .ok next) :
    index < transmitter.table.capacity ∧
      next = { transmitter with table := transmitter.table.put index entry } := by
  unfold putSlot at h
  by_cases named : index < transmitter.table.capacity
  · simp only [if_pos named] at h
    cases h
    exact ⟨named, rfl⟩
  · simp only [if_neg named] at h
    cases h

end Control

variable {β : Type} [FrameBuffer β]

section Effects

variable {transmitter : Transmitter}

/-- A write to the table, or an attempt at one, changes nothing else. -/
theorem exists_table_of_writesTable {operation : Operation β} (h : operation.writesTable = true) :
    ∃ table : TemplateTable, table.slots.size = transmitter.table.slots.size ∧
      (transmitter.perform operation).2 = { transmitter with table } := by
  -- Replacing and clearing a slot are both answered by the control plane, which may refuse them.
  have putting : ∀ index entry, ∃ table : TemplateTable,
      table.slots.size = transmitter.table.slots.size ∧
      (transmitter.answerControl (β := β) (transmitter.putSlot index entry)).2 =
        { transmitter with table } := by
    intro index entry
    cases outcome : transmitter.putSlot index entry with
    | ok next => exact ⟨_, TemplateTable.size_put .., (putSlot_eq_ok outcome).2⟩
    | error refusal => exact ⟨transmitter.table, rfl, rfl⟩
  cases operation with
  | install templates =>
    cases outcome : transmitter.install templates with
    | ok installed =>
      obtain ⟨-, -, after⟩ := install_eq_ok outcome
      simp only [perform, outcome, after]
      exact ⟨transmitter.table.fill templates, Array.size_ofFn, rfl⟩
    | error refusal =>
      simp only [perform, outcome]
      exact ⟨transmitter.table, rfl, rfl⟩
  | replace index template => exact putting index (some template)
  | clear index => exact putting index none
  | store index template => exact ⟨_, TemplateTable.size_put .., rfl⟩
  | unset index => exact ⟨_, TemplateTable.size_put .., rfl⟩
  | _ => cases h

omit [FrameBuffer β] in
theorem setCursor_of_no_cell {ctx : ContextId} (value : UInt32)
    (cell : transmitter.cursor.raw? ctx = none) :
    transmitter.setCursor ctx value = .error (.unknownContext ctx) := by
  unfold setCursor SequenceCursor.set?
  rw [cell]

/-- Where there is no cell, setting it is refused, which is the same as changing nothing. -/
theorem perform_setCursor (ctx : ContextId) (value : UInt32) :
    (transmitter.perform (.setCursor ctx value : Operation β)).2 =
      { transmitter with cursor := { transmitter.cursor with
        cells := transmitter.cursor.cells.update ctx fun _ => value } } := by
  unfold perform
  cases cell : transmitter.cursor.raw? ctx with
  | some stored =>
    unfold setCursor SequenceCursor.set?
    simp only [cell]
    rfl
  | none =>
    simp only [setCursor_of_no_cell value cell, PerContext.update_of_get?_eq_none _ _ _ cell]
    rfl

end Effects

/-- No operation changes the layout, whether it is carried out or refused. -/
theorem sameLayout_perform (transmitter : Transmitter) (operation : Operation β) :
    SameLayout (transmitter.perform operation).2 transmitter := by
  by_cases writes : operation.writesTable = true
  · obtain ⟨table, size, after⟩ := exists_table_of_writesTable writes
    rw [after]
    exact ⟨size, rfl, rfl, rfl⟩
  · cases operation with
    | process ctx buffer => exact (sameShape_tryProcess ..).layout
    | recordAbort ctx => exact (sameShape_recordAbort ..).layout
    | setCursor ctx value =>
      rw [perform_setCursor]
      exact ⟨rfl, rfl, PerContext.size_update .., rfl⟩
    | resetCursors => exact ⟨rfl, rfl, Array.size_replicate, rfl⟩
    | resetStats => exact ⟨rfl, rfl, rfl, Array.size_replicate⟩
    | _ => exact absurd rfl writes

theorem sameLayout_after (transmitter : Transmitter) (history : List (Operation β)) :
    SameLayout (transmitter.after history) transmitter := by
  induction history generalizing transmitter with
  | nil => exact .refl _
  | cons operation history ih => exact (ih _).trans (sameLayout_perform _ operation)

/-- What operations one after the other lead to, each of them on buffers of any kind. -/
inductive Reaches (first : Transmitter) : Transmitter → Prop where
  | refl : Reaches first first
  | perform {γ : Type} [FrameBuffer γ] {now : Transmitter} (reached : Reaches first now)
      (operation : Operation γ) : Reaches first (now.perform operation).2

theorem Reaches.sameLayout {first last : Transmitter} (h : first.Reaches last) :
    SameLayout last first := by
  induction h with
  | refl => exact .refl _
  | perform _ operation ih => exact (sameLayout_perform _ operation).trans ih

end Transmitter

end FrameReplay
