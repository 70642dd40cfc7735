import FrameReplay.Template.Basic

/-!
# Template tables

A table has a fixed number of slots, each with a template or without one. Every index is taken
modulo the number of slots, so that each 32-bit index names a slot.
-/

namespace FrameReplay

/-- Slots for templates, addressed by index modulo their number. -/
structure TemplateTable where
  slots : Array (Option Template)
  /-- There is at least one slot. -/
  size_pos : 0 < slots.size
  /-- A 32-bit index reaches every slot. -/
  size_le : slots.size ≤ maxSlots

namespace TemplateTable

/-- A table of `capacity` slots without templates. -/
def withCapacity (capacity : Nat) : Except TemplateError TemplateTable :=
  if h : 0 < capacity ∧ capacity ≤ maxSlots then
    .ok ⟨Array.replicate capacity none, by simpa using h.1, by simpa using h.2⟩
  else .error (.invalidCapacity capacity)

/-- A table of the default capacity without templates. -/
def empty : TemplateTable :=
  ⟨Array.replicate defaultSlots none, by simp, by simp [defaultSlots, maxSlots]⟩

instance : Inhabited TemplateTable := ⟨empty⟩

def capacity (table : TemplateTable) : UInt32 := UInt32.ofNat table.slots.size

theorem toNat_capacity (table : TemplateTable) : table.capacity.toNat = table.slots.size := by
  have h := table.size_le
  simp only [maxSlots] at h
  simp only [capacity, UInt32.toNat_ofNat']
  omega

/-- The slot that an index names. -/
def slot (table : TemplateTable) (index : UInt32) : Nat := index.toNat % table.slots.size

theorem slot_lt (table : TemplateTable) (index : UInt32) : table.slot index < table.slots.size :=
  Nat.mod_lt _ table.size_pos

/-- The template in the slot of `index`. -/
def lookup (table : TemplateTable) (index : UInt32) : Option Template :=
  have inside := table.slot_lt index
  table.slots[table.slot index]

/-- Puts a template, or none, into the slot of `index`. -/
def put (table : TemplateTable) (index : UInt32) (entry : Option Template) : TemplateTable where
  slots := table.slots.set (table.slot index) entry (table.slot_lt index)
  size_pos := by simpa using table.size_pos
  size_le := by simpa using table.size_le

theorem size_put (table : TemplateTable) (index : UInt32) (entry : Option Template) :
    (table.put index entry).slots.size = table.slots.size :=
  Array.size_set (table.slot_lt index)

/-- Puts a template into the slot of `index`. -/
def store (table : TemplateTable) (index : UInt32) (template : Template) : TemplateTable :=
  table.put index (some template)

/-- Empties the slot of `index`. -/
def clear (table : TemplateTable) (index : UInt32) : TemplateTable := table.put index none

/-- Fills every slot, going through `templates` again and again; without templates every slot is
emptied. -/
def fill (table : TemplateTable) (templates : Array Template) : TemplateTable where
  slots := Array.ofFn fun i : Fin table.slots.size => templates[i.val % templates.size]?
  size_pos := by simpa using table.size_pos
  size_le := by simpa using table.size_le

/-- Number of slots with a template. -/
def provisioned (table : TemplateTable) : Nat := table.slots.countP Option.isSome

/-- The table as it is shown in diagnostics. -/
def describe (table : TemplateTable) : String :=
  s!"TemplateTable \x7b capacity: {table.capacity.toNat}, provisioned: {table.provisioned} \x7d"

end TemplateTable

end FrameReplay
