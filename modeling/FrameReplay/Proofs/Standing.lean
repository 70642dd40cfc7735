import Mathlib.Data.List.DropRight
import FrameReplay.Buffer.Faulty
import FrameReplay.Proofs.Layout
import FrameReplay.Proofs.Trace

/-!
# Where the cursors stand

A cell is placed from outside, when its value is set or all cursors are reset, and it is moved by
the frames that its context fills from templates.  What it holds follows from where it was placed
last and from the moves since then: as long as there is none, the value as it was set, which need
not name a slot; and after that the number of a slot (`cells_eq_standing`).
-/

namespace FrameReplay

/-- What a cell holds that was placed at `value` and moved since then. -/
def standing (capacity : Nat) (value : UInt32) (moves : Nat) : UInt32 :=
  if moves = 0 then value
  else UInt32.ofNat (((if value.toNat < capacity then value.toNat else 0) + moves) % capacity)

namespace SequenceCursor

variable (cursor : SequenceCursor) (value : UInt32) (moves : Nat)

/-- A cell that was moved holds the number of a slot. -/
theorem toNat_standing_of_moved (moved : moves ≠ 0) :
    (standing cursor.capacity.toNat value moves).toNat =
      ((if value.toNat < cursor.capacity.toNat then value.toNat else 0) + moves) %
        cursor.capacity.toNat := by
  have small : cursor.capacity.toNat < 4294967296 := cursor.capacity.toNat_lt
  have inside := Nat.mod_lt
    ((if value.toNat < cursor.capacity.toNat then value.toNat else 0) + moves) cursor.capacity_pos
  rw [standing, if_neg moved, UInt32.toNat_ofNat']
  exact Nat.mod_eq_of_lt (by omega)

/-- Moves are counted from the slot that the value reads as. -/
theorem toNat_clamp_standing :
    (cursor.clamp (standing cursor.capacity.toNat value moves)).toNat =
      ((if value.toNat < cursor.capacity.toNat then value.toNat else 0) + moves) %
        cursor.capacity.toNat := by
  have slots := cursor.capacity_pos
  rw [toNat_clamp]
  by_cases still : moves = 0
  · -- The value itself reads as a slot already.
    rw [standing, if_pos still, still, Nat.add_zero]
    have inside : (if value.toNat < cursor.capacity.toNat then value.toNat else 0) <
        cursor.capacity.toNat := by
      split <;> omega
    exact (Nat.mod_eq_of_lt inside).symm
  · rw [cursor.toNat_standing_of_moved value moves still]
    exact if_pos (Nat.mod_lt _ slots)

theorem standing_standing (more : Nat) :
    standing cursor.capacity.toNat (standing cursor.capacity.toNat value moves) more =
      standing cursor.capacity.toNat value (moves + more) := by
  have reached := cursor.toNat_clamp_standing value moves
  rw [toNat_clamp] at reached
  by_cases still : more = 0
  · rw [still]
    rfl
  · have moved : moves + more ≠ 0 := by omega
    rw [standing, if_neg still, reached, standing, if_neg moved, Nat.mod_add_mod, Nat.add_assoc]

end SequenceCursor

/-! ## Placing and moving -/

/-- The frame was filled from a template, whether it could be counted then or not. -/
def frameFilled : Except AbortReason Transmitted → Bool
  | .ok _ => true
  | .error (.missingStats _) => true
  | .error _ => false

namespace Moment

variable {β : Type}

/-- The value at which the cell of a context is placed at this moment. -/
def placed? (ctx : ContextId) (moment : Moment β) : Option UInt32 :=
  match moment.operation with
  | .setCursor c value => if c = ctx then some value else none
  | .resetCursors => some 0
  | _ => none

/-- A context fills a frame from a template at this moment. -/
def filled (ctx : ContextId) (moment : Moment β) : Bool :=
  match moment.operation, moment.answer with
  | .process c _, .processed result _ => c = ctx && frameFilled result
  | _, _ => false

theorem eq_setCursor_or_zero_of_placed? {ctx : ContextId} {moment : Moment β} {value : UInt32}
    (h : moment.placed? ctx = some value) :
    moment.operation = .setCursor ctx value ∨ value = 0 := by
  unfold placed? at h
  split at h
  · rename_i c value' operation
    by_cases mine : c = ctx
    · rw [if_pos mine] at h
      cases h
      exact .inl (mine ▸ operation)
    · rw [if_neg mine] at h
      cases h
  · cases h
    exact .inr rfl
  · cases h

theorem filled_of_placed? {ctx : ContextId} {moment : Moment β} {value : UInt32}
    (h : moment.placed? ctx = some value) : moment.filled ctx = false := by
  unfold filled
  cases operation : moment.operation with
  | process c buffer =>
    unfold placed? at h
    rw [operation] at h
    cases h
  | _ => rfl

end Moment

section Placing

variable {β : Type} (ctx : ContextId)

/-- Where a context was placed last. -/
def lastPlaced? (trace : List (Moment β)) : Option UInt32 :=
  (trace.filterMap (·.placed? ctx)).getLast?

/-- The part of a trace behind the last moment at which a context was placed. -/
def sincePlaced (trace : List (Moment β)) : List (Moment β) :=
  trace.rtakeWhile fun moment => (moment.placed? ctx).isNone

/-- How often a context moved since it was placed last. -/
def movesSincePlaced (trace : List (Moment β)) : Nat :=
  (sincePlaced ctx trace).countP (·.filled ctx)

variable {ctx} {trace : List (Moment β)} {last : Moment β}

theorem lastPlaced?_concat :
    lastPlaced? ctx (trace ++ [last]) = (last.placed? ctx).or (lastPlaced? ctx trace) := by
  unfold lastPlaced?
  rw [List.filterMap_append, List.getLast?_append]
  cases placed : last.placed? ctx with
  | none => simp [placed]
  | some value => simp [placed]

theorem sincePlaced_concat_of_placed {value : UInt32} (h : last.placed? ctx = some value) :
    sincePlaced ctx (trace ++ [last]) = [] := by
  apply List.rtakeWhile_concat_neg
  rw [h]
  exact Bool.false_ne_true

theorem sincePlaced_concat_of_not_placed (h : last.placed? ctx = none) :
    sincePlaced ctx (trace ++ [last]) = sincePlaced ctx trace ++ [last] := by
  apply List.rtakeWhile_concat_pos
  rw [h]
  rfl

theorem movesSincePlaced_concat_of_placed {value : UInt32} (h : last.placed? ctx = some value) :
    movesSincePlaced ctx (trace ++ [last]) = 0 := by
  unfold movesSincePlaced
  rw [sincePlaced_concat_of_placed h, List.countP_nil]

theorem movesSincePlaced_concat_of_not_placed (h : last.placed? ctx = none) :
    movesSincePlaced ctx (trace ++ [last]) =
      movesSincePlaced ctx trace + (last.filled ctx).toNat := by
  unfold movesSincePlaced
  rw [sincePlaced_concat_of_not_placed h, List.countP_append, List.countP_singleton]
  cases last.filled ctx <;> rfl

/-- A trace is cut behind the last moment at which a context was placed, if there is one. -/
theorem lastPlaced?_cases (ctx : ContextId) (trace : List (Moment β)) :
    (lastPlaced? ctx trace = none ∧ sincePlaced ctx trace = trace) ∨
    ∃ early moment value, trace = early ++ moment :: sincePlaced ctx trace ∧
      moment.placed? ctx = some value ∧ lastPlaced? ctx trace = some value := by
  -- The cut is looked for from the back, as `sincePlaced` does.
  induction trace using List.reverseRecOn with
  | nil => exact .inl ⟨rfl, rfl⟩
  | append_singleton trace last ih =>
    rw [lastPlaced?_concat]
    cases placed : last.placed? ctx with
    | some value =>
      rw [sincePlaced_concat_of_placed placed]
      exact .inr ⟨trace, last, value, rfl, placed, rfl⟩
    | none =>
      rw [sincePlaced_concat_of_not_placed placed]
      rcases ih with ⟨never, all⟩ | ⟨early, moment, value, cut, placing, found⟩
      · exact .inl ⟨never, by rw [all]⟩
      · refine .inr ⟨early, moment, value, ?_, placing, found⟩
        rw [← List.cons_append, ← List.append_assoc, ← cut]

end Placing

namespace Transmitter

variable {β : Type} [FrameBuffer β] (transmitter : Transmitter) (ctx : ContextId)

/-! ## What the cells hold -/

theorem raw?_moved_eq_standing :
    (transmitter.moved ctx).cursor.raw? ctx =
      (transmitter.cursor.raw? ctx).map (standing transmitter.cursor.capacity.toNat · 1) := by
  rw [raw?_moved_self]
  unfold SequenceCursor.position
  cases transmitter.cursor.raw? ctx with
  | none => rfl
  | some stored =>
    rw [Option.getD_some, SequenceCursor.toNat_clamp]
    rfl

/-- An attempt moves its context if it fills the frame, and no other context. -/
theorem raw?_tryProcess (owner : ContextId) (buffer : β) :
    (transmitter.tryProcess owner buffer).transmitter.cursor.raw? ctx =
      (transmitter.cursor.raw? ctx).map (standing transmitter.cursor.capacity.toNat ·
        (owner = ctx && frameFilled (transmitter.tryProcess owner buffer).result).toNat) := by
  by_cases mine : owner = ctx
  · subst mine
    rw [decide_eq_true rfl, Bool.true_and]
    have ending := transmitter.ending_tryProcess owner buffer
    generalize transmitter.tryProcess owner buffer = attempt at ending ⊢
    cases ending with
    | empty slot => exact Option.map_id'.symm
    | failed slot writing => exact Option.map_id'.symm
    | unrecorded slot writing record => exact transmitter.raw?_moved_eq_standing owner
    | sent slot writing record => exact transmitter.raw?_moved_eq_standing owner
  · rw [decide_eq_false mine, Bool.false_and, (agree_tryProcess buffer (Ne.symm mine)).cell]
    exact Option.map_id'.symm

/-- Every operation places a cell, or moves it, or leaves it as it is. -/
theorem raw?_perform (operation : Operation β) :
    (transmitter.perform operation).2.cursor.raw? ctx =
      (transmitter.cursor.raw? ctx).map fun stored =>
        standing transmitter.cursor.capacity.toNat
          (((transmitter.moment operation).placed? ctx).getD stored)
          ((transmitter.moment operation).filled ctx).toNat := by
  -- Most operations do not come near the cells.
  have still : ∀ operation : Operation β, (transmitter.moment operation).placed? ctx = none →
      (transmitter.moment operation).filled ctx = false →
      (transmitter.perform operation).2.cursor = transmitter.cursor →
      (transmitter.perform operation).2.cursor.raw? ctx =
        (transmitter.cursor.raw? ctx).map fun stored =>
          standing transmitter.cursor.capacity.toNat
            (((transmitter.moment operation).placed? ctx).getD stored)
            ((transmitter.moment operation).filled ctx).toNat := by
    intro operation nowhere idle same
    rw [nowhere, idle, same]
    exact Option.map_id'.symm
  by_cases writes : operation.writesTable = true
  · obtain ⟨table, -, after⟩ := transmitter.exists_table_of_writesTable writes
    have idle : (transmitter.moment operation).placed? ctx = none ∧
        (transmitter.moment operation).filled ctx = false := by
      cases operation <;> first | exact ⟨rfl, rfl⟩ | cases writes
    exact still _ idle.1 idle.2 (by rw [after])
  · cases operation with
    | process owner buffer => exact transmitter.raw?_tryProcess ctx owner buffer
    | recordAbort owner => exact still _ rfl rfl rfl
    | setCursor owner value =>
      rw [perform_setCursor]
      by_cases mine : owner = ctx
      · subst mine
        have placed : (transmitter.moment (.setCursor owner value : Operation β)).placed? owner =
            some value := if_pos rfl
        rw [placed]
        exact PerContext.get?_update_self ..
      · have nowhere : (transmitter.moment (.setCursor owner value : Operation β)).placed? ctx =
            none := if_neg mine
        rw [nowhere]
        have other := PerContext.get?_update_of_ne transmitter.cursor.cells owner (fun _ => value)
          (Ne.symm mine)
        exact other.trans Option.map_id'.symm
    | resetCursors => exact SequenceCursor.raw?_reset _ _
    | resetStats => exact still _ rfl rfl rfl
    | _ => exact absurd rfl writes

/-- At the end of a history a cell stands where it came to from where it was placed last, or from
where it stood at the beginning if it was not placed. -/
theorem raw?_after (history : List (Operation β)) :
    (transmitter.after history).cursor.raw? ctx =
      (transmitter.cursor.raw? ctx).map fun stored =>
        standing transmitter.cursor.capacity.toNat
          ((lastPlaced? ctx (transmitter.trace history)).getD stored)
          (movesSincePlaced ctx (transmitter.trace history)) := by
  -- The last operation is the one that may cut off all moves before.
  induction history using List.reverseRecOn with
  | nil => exact Option.map_id'.symm
  | append_singleton early last ih =>
    have single : (transmitter.after early).trace [last] =
        [(transmitter.after early).moment last] := rfl
    have capacity : (transmitter.after early).cursor.capacity = transmitter.cursor.capacity :=
      (transmitter.sameLayout_after early).capacity
    rw [after_append, trace_append, single, lastPlaced?_concat]
    simp only [after_cons, after_nil]
    rw [raw?_perform, ih, capacity, Option.map_map]
    -- Either the last operation makes the earlier ones void, or the moves add up.
    congr
    funext stored
    simp only [Function.comp_apply]
    cases placed : ((transmitter.after early).moment last).placed? ctx with
    | some value =>
      rw [movesSincePlaced_concat_of_placed placed, Moment.filled_of_placed? placed]
      rfl
    | none =>
      rw [movesSincePlaced_concat_of_not_placed placed]
      simp only [Option.getD_none, Option.none_or, SequenceCursor.standing_standing]

/-- A value that names no slot was set and not touched since, or stood there from the beginning. -/
theorem untouched_of_le {history : List (Operation β)} {found : UInt32}
    (held : (transmitter.after history).cursor.raw? ctx = some found)
    (outside : transmitter.cursor.capacity.toNat ≤ found.toNat) :
    movesSincePlaced ctx (transmitter.trace history) = 0 ∧
    ((transmitter.cursor.raw? ctx = some found ∧
        sincePlaced ctx (transmitter.trace history) = transmitter.trace history) ∨
      ∃ early moment,
        transmitter.trace history =
          early ++ moment :: sincePlaced ctx (transmitter.trace history) ∧
        moment.operation = .setCursor ctx found) := by
  rw [raw?_after] at held
  generalize transmitter.trace history = trace at held ⊢
  obtain ⟨stored, began, stands⟩ := Option.map_eq_some_iff.1 held
  -- A move would have brought the cell to a slot.
  have still : movesSincePlaced ctx trace = 0 := by
    by_contra moved
    have reached := transmitter.cursor.toNat_standing_of_moved
      ((lastPlaced? ctx trace).getD stored) _ moved
    rw [stands] at reached
    have inside : found.toNat < transmitter.cursor.capacity.toNat := by
      rw [reached]
      exact Nat.mod_lt _ transmitter.cursor.capacity_pos
    omega
  refine ⟨still, ?_⟩
  rw [still] at stands
  rcases lastPlaced?_cases ctx trace with ⟨never, all⟩ | ⟨early, moment, value, cut, placing, last⟩
  · rw [never] at stands
    exact .inl ⟨began.trans (congrArg some stands), all⟩
  · rw [last] at stands
    have set : value = found := stands
    rw [set] at placing
    refine .inr ⟨early, moment, cut, ?_⟩
    rcases Moment.eq_setCursor_or_zero_of_placed? placing with operation | zero
    · exact operation
    · -- A reset leads to a slot.
      have slots := transmitter.cursor.capacity_pos
      rw [zero, UInt32.toNat_zero] at outside
      omega

/-- Whatever a history does, a cell holds what follows from the value at which it was placed last,
or with which it began, and from the moves since then.  New cursors begin with zero.  The index that
is read names a slot, and one more is not too much for 32 bits.  A value that names no slot is one
that was set and not touched since, or with which the cell began.  A context without a cell reads
index zero and cannot be set. -/
theorem cells_eq_standing (history : List (Operation β)) :
    let capacity := transmitter.cursor.capacity.toNat
    let trace := transmitter.trace history
    let last := transmitter.after history
    (∀ ctx stored, transmitter.cursor.raw? ctx = some stored →
      last.cursor.raw? ctx = some
        (standing capacity ((lastPlaced? ctx trace).getD stored) (movesSincePlaced ctx trace))) ∧
    (∀ contexts slots, transmitter.cursor = .make contexts slots →
      ∀ ctx stored, transmitter.cursor.raw? ctx = some stored → stored = 0) ∧
    (∀ ctx, (last.cursor.position ctx).toNat < capacity ∧
      (last.cursor.position ctx + 1).toNat = (last.cursor.position ctx).toNat + 1) ∧
    (∀ ctx found, last.cursor.raw? ctx = some found → capacity ≤ found.toNat →
      movesSincePlaced ctx trace = 0 ∧
      ((transmitter.cursor.raw? ctx = some found ∧ sincePlaced ctx trace = trace) ∨
        ∃ early moment, trace = early ++ moment :: sincePlaced ctx trace ∧
          moment.operation = .setCursor ctx found)) ∧
    (∀ ctx, transmitter.cursor.raw? ctx = none →
      last.cursor.raw? ctx = none ∧ last.cursor.position ctx = 0 ∧
      ∀ value, last.perform (.setCursor ctx value : Operation β) =
        (.refused (.unknownContext ctx), last)) := by
  intro capacity trace last
  refine ⟨?_, ?_, ?_, fun ctx _ => transmitter.untouched_of_le ctx, ?_⟩
  · intro ctx stored held
    rw [raw?_after, held]
    rfl
  · intro contexts slots new ctx stored held
    rw [new] at held
    exact SequenceCursor.eq_zero_of_raw?_make ctx held
  · intro ctx
    have inside := last.cursor.position_lt ctx
    refine ⟨?_, last.cursor.toNat_add_one _ inside⟩
    rw [(transmitter.sameLayout_after history).capacity] at inside
    exact UInt32.lt_iff_toNat_lt.1 inside
  · intro ctx ghost
    have none : last.cursor.raw? ctx = none := by
      rw [raw?_after, ghost]
      rfl
    refine ⟨none, last.cursor.position_of_raw?_eq_none ctx none, fun value => ?_⟩
    unfold perform
    simp only [setCursor_of_no_cell value none]
    rfl

/-- One context over a table of three slots, the last of which is empty. -/
def lastEmpty : Transmitter :=
  let template : Template := ⟨3, Template.pad [9, 8, 7], Template.size_pad (by decide)⟩
  .forContexts ⟨#[some template, some template, none], Nat.zero_lt_succ 2,
    (by decide : 3 ≤ maxSlots)⟩ 1

/-- The value names no slot, so the moves are counted from zero.  There is no move from the empty
slot. -/
example :
    let calls := List.replicate 4 (.process ⟨0⟩ (⟨.empty, ⟨0, 0⟩, none, 0, .comply⟩ : FaultyBuffer))
    (lastEmpty.after (.setCursor ⟨0⟩ 9 :: calls)).cursor.raw? ⟨0⟩ = some (standing 3 9 2) := by
  decide +kernel

end Transmitter

end FrameReplay
