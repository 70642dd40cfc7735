import Mathlib.Data.List.Induction
import FrameReplay.Buffer.Packet
import FrameReplay.Proofs.Layout
import FrameReplay.Proofs.Trace
import FrameReplay.Proofs.Walk

/-!
# What the slots hold

A slot holds what was put into it last, and nothing if it was emptied last or never written to.
Templates are put into slots one by one, directly under any index that names the slot counted around
or by the control plane under its own number, or into all slots at once.  Refused operations put
nothing anywhere (`lookup_after_eq_lastPut`).
-/

namespace FrameReplay

namespace Operation

variable {β : Type} (capacity slot : Nat)

/-- What an operation puts into a slot of a table with `capacity` slots, if it does.  Direct writes
count the index around; the control plane only takes the number of a slot. -/
def put? : Operation β → Option (Option Template)
  | .install templates =>
    if templates.isEmpty then none else some templates[slot % templates.size]?
  | .replace index template => if index.toNat = slot then some (some template) else none
  | .clear index => if index.toNat = slot then some none else none
  | .store index template => if index.toNat % capacity = slot then some (some template) else none
  | .unset index => if index.toNat % capacity = slot then some none else none
  | _ => none

/-- The operations that a table with `capacity` slots does not take, and why. -/
inductive Refused : Operation β → ControlError → Prop where
  | install : Refused (.install #[]) .noTemplates
  | replace {index : UInt32} (template : Template) (outside : capacity ≤ index.toNat) :
    Refused (.replace index template) (.indexOutOfRange index (UInt32.ofNat capacity))
  | clear {index : UInt32} (outside : capacity ≤ index.toNat) :
    Refused (.clear index) (.indexOutOfRange index (UInt32.ofNat capacity))

end Operation

/-- What a history puts into a slot last, if it ever does. -/
def lastPut? {β : Type} (capacity slot : Nat) (history : List (Operation β)) :
    Option (Option Template) :=
  (history.filterMap (·.put? capacity slot)).getLast?

theorem lastPut?_concat {β : Type} (capacity slot : Nat) (history : List (Operation β))
    (last : Operation β) : lastPut? capacity slot (history ++ [last]) =
      (last.put? capacity slot).or (lastPut? capacity slot history) := by
  unfold lastPut?
  rw [List.filterMap_append, List.getLast?_append]
  cases put : last.put? capacity slot with
  | none => simp [put]
  | some content => simp [put]

namespace TemplateTable

theorem exists_withCapacity {capacity : Nat} (least : 0 < capacity) (most : capacity ≤ maxSlots) :
    ∃ table, withCapacity capacity = .ok table ∧ table.slots.size = capacity ∧
      ∀ n, table.entry n = none := by
  refine ⟨_, dif_pos ⟨least, most⟩, Array.size_replicate, fun n => ?_⟩
  unfold entry
  simp only [Array.getElem_replicate]

theorem provisioned_eq (table : TemplateTable) :
    table.provisioned =
      (List.range table.slots.size).countP fun k => (table.lookup (UInt32.ofNat k)).isSome := by
  have size : table.slots.size ≤ 4294967295 := table.size_le
  have contents : table.slots.toList =
      (List.range table.slots.size).map fun k => table.lookup (UInt32.ofNat k) := by
    apply List.ext_getElem
    · rw [Array.length_toList, List.length_map, List.length_range]
    · intro k inside _
      rw [Array.length_toList] at inside
      have number : (UInt32.ofNat k).toNat = k := by
        rw [UInt32.toNat_ofNat']
        omega
      rw [Array.getElem_toList, List.getElem_map, List.getElem_range]
      simp only [lookup, slot, number, Nat.mod_eq_of_lt inside]
  unfold provisioned
  rw [← Array.countP_toList, contents, List.countP_map]
  rfl

end TemplateTable

namespace Transmitter

/-! ## The control plane -/

section Control

variable (transmitter : Transmitter) {index : UInt32} (content : Option Template)

theorem putSlot_of_lt (inside : index.toNat < transmitter.table.slots.size) :
    transmitter.putSlot index content =
      .ok { transmitter with table := transmitter.table.put index content } := by
  have named : index < transmitter.table.capacity := by
    rwa [UInt32.lt_iff_toNat_lt, TemplateTable.toNat_capacity]
  unfold putSlot
  simp only [if_pos named]

theorem putSlot_of_le (outside : transmitter.table.slots.size ≤ index.toNat) :
    transmitter.putSlot index content =
      .error (.indexOutOfRange index transmitter.table.capacity) := by
  have unnamed : ¬ index < transmitter.table.capacity := by
    rw [UInt32.lt_iff_toNat_lt, TemplateTable.toNat_capacity]
    exact Nat.not_lt.2 outside
  unfold putSlot
  simp only [if_neg unnamed]

theorem install_of_nonempty {templates : Array Template} (some : templates.isEmpty = false) :
    transmitter.install templates = .ok (⟨templates.size, transmitter.table.slots.size⟩,
      { transmitter with table := transmitter.table.fill templates }) := by
  unfold install
  rw [some]
  rfl

end Control

variable {β : Type} [FrameBuffer β] (transmitter : Transmitter)

omit [FrameBuffer β] in
/-- A write that the control plane answers reaches a slot under its own number only. -/
theorem entry_answerControl_putSlot (index : UInt32) (content : Option Template) (n : Nat) :
    (transmitter.answerControl (β := β) (transmitter.putSlot index content)).2.table.entry n =
      if index.toNat = n % transmitter.table.slots.size then content
      else transmitter.table.entry n := by
  by_cases inside : index.toNat < transmitter.table.slots.size
  · rw [transmitter.putSlot_of_lt content inside]
    change (transmitter.table.put index content).entry n = _
    rw [TemplateTable.entry_put, Nat.mod_eq_of_lt inside]
  · have other := Nat.mod_lt n transmitter.table.size_pos
    rw [transmitter.putSlot_of_le content (Nat.not_lt.1 inside), if_neg (by omega)]
    rfl

/-- An operation changes a slot by what it puts there. -/
theorem entry_perform (operation : Operation β) (n : Nat) :
    (transmitter.perform operation).2.table.entry n =
      (operation.put? transmitter.table.slots.size (n % transmitter.table.slots.size)).getD
        (transmitter.table.entry n) := by
  -- What a single write puts is the new content where it hits the slot.
  have single : ∀ (hits : Prop) [Decidable hits] (content : Option Template),
      (if hits then content else transmitter.table.entry n) =
        (if hits then some content else none).getD (transmitter.table.entry n) := by
    intro hits _ content
    split <;> rfl
  cases operation with
  | process ctx buffer =>
    change (transmitter.tryProcess ctx buffer).transmitter.table.entry n = _
    rw [(transmitter.sameShape_tryProcess ctx buffer).table]
    rfl
  | install templates =>
    cases empty : templates.isEmpty with
    | true =>
      cases Array.isEmpty_iff.1 empty
      rfl
    | false =>
      simp only [perform, transmitter.install_of_nonempty empty, Operation.put?, empty,
        TemplateTable.entry_fill]
      rfl
  | replace index template =>
    exact (transmitter.entry_answerControl_putSlot index (some template) n).trans (single _ _)
  | clear index => exact (transmitter.entry_answerControl_putSlot index none n).trans (single _ _)
  | store index template =>
    exact (transmitter.table.entry_put index (some template) n).trans (single _ _)
  | unset index => exact (transmitter.table.entry_put index none n).trans (single _ _)
  | setCursor ctx value =>
    rw [perform_setCursor]
    rfl
  | _ => rfl

/-- A slot holds what a history put there last, or what it held before. -/
theorem entry_after (history : List (Operation β)) (n : Nat) :
    (transmitter.after history).table.entry n =
      (lastPut? transmitter.table.slots.size (n % transmitter.table.slots.size) history).getD
        (transmitter.table.entry n) := by
  -- The last operation counts for more than all before.
  induction history using List.reverseRecOn with
  | nil => rfl
  | append_singleton early last ih =>
    have size : (transmitter.after early).table.slots.size = transmitter.table.slots.size :=
      (transmitter.sameLayout_after early).slots
    rw [after_append, lastPut?_concat]
    simp only [after_cons, after_nil]
    rw [entry_perform, size, ih]
    cases last.put? transmitter.table.slots.size (n % transmitter.table.slots.size) <;> rfl

omit [FrameBuffer β] in
theorem answerControl_putSlot_eq_refused_iff (index : UInt32) (content : Option Template)
    (error : ControlError) :
    (transmitter.answerControl (β := β) (transmitter.putSlot index content)).1 = .refused error ↔
      transmitter.table.slots.size ≤ index.toNat ∧
        error = .indexOutOfRange index (UInt32.ofNat transmitter.table.slots.size) := by
  by_cases inside : index.toNat < transmitter.table.slots.size
  · rw [transmitter.putSlot_of_lt content inside]
    exact ⟨nofun, fun ⟨outside, _⟩ => absurd inside (Nat.not_lt.2 outside)⟩
  · rw [transmitter.putSlot_of_le content (Nat.not_lt.1 inside)]
    constructor
    · intro refused
      cases refused
      exact ⟨Nat.not_lt.1 inside, rfl⟩
    · rintro ⟨-, rfl⟩
      rfl

/-- The control plane refuses what the table does not take, and nothing else. -/
theorem perform_eq_refused_iff {operation : Operation β} (writes : operation.writesTable = true)
    (error : ControlError) :
    (transmitter.perform operation).1 = .refused error ↔
      operation.Refused transmitter.table.slots.size error := by
  cases operation with
  | install templates =>
    cases empty : templates.isEmpty with
    | true =>
      cases Array.isEmpty_iff.1 empty
      constructor
      · intro refused
        cases refused
        exact .install
      · intro refused
        cases refused
        rfl
    | false =>
      simp only [perform, transmitter.install_of_nonempty empty]
      constructor
      · intro refused
        cases refused
      · intro refused
        cases refused
        cases empty
  | replace index template =>
    refine (transmitter.answerControl_putSlot_eq_refused_iff index (some template) error).trans ?_
    constructor
    · rintro ⟨outside, rfl⟩
      exact .replace template outside
    · intro refused
      cases refused with
      | replace _ outside => exact ⟨outside, rfl⟩
  | clear index =>
    refine (transmitter.answerControl_putSlot_eq_refused_iff index none error).trans ?_
    constructor
    · rintro ⟨outside, rfl⟩
      exact .clear outside
    · intro refused
      cases refused with
      | clear outside => exact ⟨outside, rfl⟩
  | store index template => constructor <;> intro refused <;> cases refused
  | unset index => constructor <;> intro refused <;> cases refused
  | _ => cases writes

/-- A new table is a map from slots to templates in which the last write wins.  Whatever a history
does, under any index stands what was put last into the slot that the index names, counted around,
and as many slots are provisioned as hold a template.  No write to the table touches cursors or
counters.  Refused are the installation of no templates, and replacing or clearing under an index
that is no slot's own; these change nothing. -/
theorem lookup_after_eq_lastPut {capacity : Nat} (least : 0 < capacity)
    (most : capacity ≤ 4294967295) :
    ∃ table, TemplateTable.withCapacity capacity = .ok table ∧
      ∀ (cursor : SequenceCursor) (stats : StatsStore) (history : List (Operation β)),
        let now := Transmitter.after ⟨table, cursor, stats⟩ history
        (∀ index : UInt32, now.table.lookup index =
          (lastPut? capacity (index.toNat % capacity) history).join) ∧
        now.table.provisioned =
          (List.range capacity).countP (fun k => (now.table.lookup (UInt32.ofNat k)).isSome) ∧
        ∀ operation : Operation β, operation.writesTable = true →
          (now.perform operation).2.cursor = now.cursor ∧
          (now.perform operation).2.stats = now.stats ∧
          ∀ error, ((now.perform operation).1 = .refused error ↔
              operation.Refused capacity error) ∧
            (operation.Refused capacity error → (now.perform operation).2 = now) := by
  obtain ⟨table, made, size, vacant⟩ := TemplateTable.exists_withCapacity least most
  refine ⟨table, made, fun cursor stats history => ?_⟩
  intro now
  have slots : now.table.slots.size = capacity :=
    (sameLayout_after ⟨table, cursor, stats⟩ history).slots.trans size
  refine ⟨fun index => ?_, ?_, fun operation writes => ?_⟩
  · have held := entry_after ⟨table, cursor, stats⟩ history index.toNat
    simp only [size, vacant] at held
    rw [TemplateTable.lookup_eq_entry, held]
    cases lastPut? capacity (index.toNat % capacity) history <;> rfl
  · rw [TemplateTable.provisioned_eq, slots]
  · obtain ⟨_, -, after⟩ := now.exists_table_of_writesTable writes
    have refusals := now.perform_eq_refused_iff writes
    rw [slots] at refusals
    refine ⟨by rw [after], by rw [after], fun error => ⟨refusals error, fun refused => ?_⟩⟩
    exact perform_of_refused ((refusals error).2 refused)

/-- Writes under indices that name slots of three counted around, templates in all slots, and a
refused clearing of a slot that there is not. -/
theorem lookup_after_eq_lastPut_aliases :
    let one : Template := ⟨1, Template.pad [40], Template.size_pad (by decide)⟩
    let two : Template := ⟨2, Template.pad [41, 42], Template.size_pad (by decide)⟩
    let history : List (Operation PacketBuffer) :=
      [.store 7 two, .install #[one, two], .process ⟨0⟩ .empty, .replace 2 two, .clear 5, .unset 4]
    0 < 3 ∧ 3 ≤ 4294967295 ∧ ∃ table, TemplateTable.withCapacity 3 = .ok table ∧
      let now := Transmitter.after (.forContexts table 1) history
      now.table.lookup 0 = some one ∧ now.table.lookup 4 = none ∧ now.table.lookup 8 = some two ∧
        now.table.provisioned = 2 ∧
        (now.perform (.clear 5 : Operation PacketBuffer)).2 = now := by
  intro one two history
  obtain ⟨table, made, law⟩ :=
    @lookup_after_eq_lastPut PacketBuffer _ 3 (by decide) (by decide)
  obtain ⟨held, provisioned, refusals⟩ := law (.make 1 table.capacity) (.make 1) history
  refine ⟨by decide, by decide, table, made, held 0, held 4, held 8, provisioned.trans ?_, ?_⟩
  · simp only [held]
    rfl
  · exact ((refusals (.clear 5) rfl).2.2 _).2 (.clear (by decide))

end Transmitter

end FrameReplay
