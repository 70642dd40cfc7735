import FrameReplay.Stats
import FrameReplay.Template.Table

/-!
# Walking through a table

A context that takes turns sends the templates from its slot on, in the order of the slots and
beginning again behind the last one, until it comes to an empty slot.  There it stays, and every
further turn is given up.  `reach` is the number of turns that find a template, and `frames` is what
they send.  Walks may be cut anywhere (`reach_add`, `frames_add`).
-/

namespace FrameReplay

namespace TemplateTable

variable (table : TemplateTable) (start : Nat)

/-- The content of the slot that a number names, counted around. -/
def entry (n : Nat) : Option Template :=
  have inside := Nat.mod_lt n table.size_pos
  table.slots[n % table.slots.size]

theorem lookup_eq_entry (index : UInt32) : table.lookup index = table.entry index.toNat := rfl

theorem entry_mod_add (n k : Nat) :
    table.entry (n % table.slots.size + k) = table.entry (n + k) := by
  unfold entry
  simp only [Nat.mod_add_mod]

theorem entry_put (index : UInt32) (content : Option Template) (n : Nat) :
    (table.put index content).entry n =
      if index.toNat % table.slots.size = n % table.slots.size then content else table.entry n := by
  have found : ∀ (any : TemplateTable), any.slots[n % any.slots.size]? = some (any.entry n) :=
    fun any => Array.getElem?_eq_getElem (Nat.mod_lt n any.size_pos)
  apply Option.some.inj
  rw [← found, size_put]
  show (table.slots.set (table.slot index) content (table.slot_lt index))[_]? = _
  rw [Array.getElem?_set, apply_ite some, found]
  rfl

/-- How many slots lie between `start` and the first empty slot, if there is an empty one. -/
def gap? : Option Nat :=
  (List.range table.slots.size).find? fun d => (table.entry (start + d)).isNone

theorem gap?_eq_some {d : Nat} (h : table.gap? start = some d) :
    table.entry (start + d) = none ∧ ∀ k < d, table.entry (start + k) ≠ none := by
  obtain ⟨empty, below⟩ := List.find?_range_eq_some.1 h
  refine ⟨Option.isNone_iff_eq_none.1 empty, fun k hk => ?_⟩
  exact Option.isSome_iff_ne_none.1 (by simpa using below.2 k hk)

theorem gap?_eq_none (h : table.gap? start = none) (k : Nat) : table.entry (start + k) ≠ none := by
  -- One round over the slots sees every slot.
  have inside := Nat.mod_lt k table.size_pos
  have seen := List.find?_range_eq_none.1 h (k % table.slots.size) inside
  rw [Nat.add_comm, ← entry_mod_add, Nat.add_comm]
  exact Option.isSome_iff_ne_none.1 (by simpa using seen)

/-- How many of `turns` turns from `start` on find a template: all of them, or those in front of
the first empty slot. -/
def reach (turns : Nat) : Nat :=
  match table.gap? start with
  | some d => min turns d
  | none => turns

theorem reach_le (turns : Nat) : table.reach start turns ≤ turns := by
  unfold reach
  split
  · exact Nat.min_le_left _ _
  · exact Nat.le_refl _

theorem entry_of_lt_reach {turns k : Nat} (h : k < table.reach start turns) :
    table.entry (start + k) ≠ none := by
  unfold reach at h
  split at h
  · rename_i d found
    exact (table.gap?_eq_some start found).2 k (by omega)
  · rename_i found
    exact table.gap?_eq_none start found k

theorem entry_reach {turns : Nat} (h : table.reach start turns < turns) :
    table.entry (start + table.reach start turns) = none := by
  unfold reach at h ⊢
  split at h
  · rename_i d found
    rw [Nat.min_eq_right (by omega)]
    exact (table.gap?_eq_some start found).1
  · omega

/-- The reach is the only number with its two properties: templates up to it, and behind it an
empty slot or no turn. -/
theorem reach_eq {turns n : Nat} (le : n ≤ turns)
    (filled : ∀ k < n, table.entry (start + k) ≠ none)
    (last : n < turns → table.entry (start + n) = none) : table.reach start turns = n := by
  have bound := table.reach_le start turns
  -- A walk that stopped earlier met an empty slot too soon, one that went on passed one.
  rcases Nat.lt_trichotomy (table.reach start turns) n with less | same | more
  · exact absurd (table.entry_reach start (by omega)) (filled _ less)
  · exact same
  · exact absurd (last (by omega)) (table.entry_of_lt_reach start more)

theorem reach_mod (turns : Nat) :
    table.reach (start % table.slots.size) turns = table.reach start turns := by
  apply reach_eq
  · exact table.reach_le start turns
  · intro k h
    rw [entry_mod_add]
    exact table.entry_of_lt_reach start h
  · intro h
    rw [entry_mod_add]
    exact table.entry_reach start h

theorem reach_add (m n : Nat) :
    table.reach start (m + n) =
      table.reach start m + table.reach (start + table.reach start m) n := by
  have bm := table.reach_le start m
  have bn := table.reach_le (start + table.reach start m) n
  apply reach_eq
  · omega
  · intro k hk
    by_cases early : k < table.reach start m
    · exact table.entry_of_lt_reach start early
    · have := table.entry_of_lt_reach (start + table.reach start m)
        (show k - table.reach start m < table.reach (start + table.reach start m) n by omega)
      rwa [show start + table.reach start m + (k - table.reach start m) = start + k by omega]
        at this
  · intro h
    by_cases short : table.reach (start + table.reach start m) n < n
    · have := table.entry_reach (start + table.reach start m) short
      rwa [Nat.add_assoc] at this
    · -- The second part took all its turns, so the first one stopped early, at an empty slot.
      have stuck := table.entry_reach start (show table.reach start m < m by omega)
      by_cases none : n = 0
      · rw [show table.reach (start + table.reach start m) n = 0 by omega, Nat.add_zero]
        exact stuck
      · have moved := table.entry_of_lt_reach (start + table.reach start m)
          (show 0 < table.reach (start + table.reach start m) n by omega)
        rw [Nat.add_zero] at moved
        exact absurd stuck moved

/-- The frames in `count` slots from `start` on. -/
def frames (count : Nat) : List ByteArray :=
  (List.range count).filterMap fun k => (table.entry (start + k)).map Template.frame

theorem frames_mod (count : Nat) :
    table.frames (start % table.slots.size) count = table.frames start count := by
  unfold frames
  simp only [entry_mod_add]

theorem frames_add (m n : Nat) :
    table.frames start (m + n) = table.frames start m ++ table.frames (start + m) n := by
  unfold frames
  rw [List.range_add, List.filterMap_append, List.filterMap_map]
  simp only [Function.comp_def, Nat.add_assoc]

/-! ## Full tables -/

section Full

variable {table : TemplateTable} {start : Nat}

theorem entry_fill (table : TemplateTable) (templates : Array Template) (n : Nat) :
    (table.fill templates).entry n = templates[n % table.slots.size % templates.size]? := by
  unfold entry fill
  simp only [Array.size_ofFn, Array.getElem_ofFn]

/-- Without an empty slot every turn finds a template. -/
theorem reach_of_full (full : ∀ k, table.entry (start + k) ≠ none) (turns : Nat) :
    table.reach start turns = turns := by
  apply reach_eq
  · exact Nat.le_refl _
  · intro k _
    exact full k
  · intro more
    exact absurd more (Nat.lt_irrefl _)

theorem sizes_frames_of_full {length : Nat → Nat}
    (full : ∀ k, ∃ template, table.entry (start + k) = some template ∧
      template.effectiveLength = length k) (count : Nat) :
    (table.frames start count).map ByteArray.size = (List.range count).map length := by
  induction count with
  | zero => rfl
  | succ count ih =>
    obtain ⟨template, found, size⟩ := full count
    have last : table.frames (start + count) 1 = [template.frame] := by
      unfold frames
      simp only [List.range_one, List.filterMap_cons, Nat.add_zero, found, Option.map_some,
        List.filterMap_nil]
    rw [frames_add, last, List.map_append, ih, List.range_succ, List.map_append, List.map_singleton,
      List.map_singleton, template.size_frame, size]

end Full

end TemplateTable

end FrameReplay
