import Mathlib.Data.List.Forall2
import FrameReplay.Proofs.Fitting
import FrameReplay.Proofs.Layout
import FrameReplay.Proofs.Trace
import FrameReplay.Proofs.Walk

/-!
# Runs that cannot be told apart

Two histories are alike if they do the same things in the same order and differ only in what they
bring along.  Of a received frame nothing counts but the headroom in front of it: neither its
length nor a byte of it, nor what an earlier frame left behind (`verdicts_of_alike`).  Of a template
nothing counts but its frame: neither the length that it declares nor the bytes behind its frame
(`answers_of_equivalent`).
-/

namespace FrameReplay

/-- Two operations that do the same, with templates related by `stock` and buffers by `frames`. -/
inductive Operation.Alike {β : Type} (stock : Template → Template → Prop) (frames : β → β → Prop) :
    Operation β → Operation β → Prop where
  | process (ctx : ContextId) {x y : β} (buffers : frames x y) :
    Alike stock frames (.process ctx x) (.process ctx y)
  | recordAbort (ctx : ContextId) : Alike stock frames (.recordAbort ctx) (.recordAbort ctx)
  | install {early late : Array Template}
      (templates : List.Forall₂ stock early.toList late.toList) :
    Alike stock frames (.install early) (.install late)
  | replace (index : UInt32) {early late : Template} (templates : stock early late) :
    Alike stock frames (.replace index early) (.replace index late)
  | clear (index : UInt32) : Alike stock frames (.clear index) (.clear index)
  | store (index : UInt32) {early late : Template} (templates : stock early late) :
    Alike stock frames (.store index early) (.store index late)
  | unset (index : UInt32) : Alike stock frames (.unset index) (.unset index)
  | setCursor (ctx : ContextId) (value : UInt32) :
    Alike stock frames (.setCursor ctx value) (.setCursor ctx value)
  | resetCursors : Alike stock frames .resetCursors .resetCursors
  | resetStats : Alike stock frames .resetStats .resetStats

theorem Operation.Alike.eq_or_process {β : Type} {frames : β → β → Prop}
    {first second : Operation β} (alike : first.Alike Eq frames second) :
    first = second ∨
      ∃ ctx x y, frames x y ∧ first = .process ctx x ∧ second = .process ctx y := by
  cases alike with
  | process ctx buffers => exact .inr ⟨ctx, _, _, buffers, rfl, rfl⟩
  | install templates =>
    rw [List.forall₂_eq_eq_eq] at templates
    exact .inl (congrArg _ (Array.toList_inj.1 templates))
  | replace index templates => exact .inl (congrArg _ templates)
  | store index templates => exact .inl (congrArg _ templates)
  | _ => exact .inl rfl

/-! ## Received frames -/

namespace PacketBuffer

/-- The buffer after `template` was written over a frame that has room for it. -/
def templated (buffer : PacketBuffer) (template : Template)
    (room : buffer.headroom + template.effectiveLength ≤ storageSize) : PacketBuffer :=
  (buffer.withLength template.effectiveLength room).setFrame template.frame

variable {x y : PacketBuffer} (template : Template)
  (room : x.headroom + template.effectiveLength ≤ storageSize)
  (room' : y.headroom + template.effectiveLength ≤ storageSize)

theorem frame_templated : FrameBuffer.frame (x.templated template room) = template.frame :=
  frame_setFrame (x.withLength _ room) template.size_frame

theorem bounds_templated (same : x.headroom = y.headroom) :
    FrameBuffer.bounds (x.templated template room) =
      FrameBuffer.bounds (y.templated template room') := by
  have place : ∀ (buffer : PacketBuffer) (fits : buffer.headroom + _ ≤ storageSize),
      FrameBuffer.bounds (buffer.templated template fits) = ⟨UInt64.ofNat buffer.headroom,
        UInt64.ofNat (buffer.headroom + template.effectiveLength)⟩ :=
    fun buffer fits => LawfulFrameBuffer.bounds_setFrame (buffer.withLength _ fits) template.frame
  rw [place x room, place y room', same]

end PacketBuffer

/-- Two attempts with the same verdict that leave the same state, and the same frame in the same
place if it is sent.  The reasons for an abort may differ. -/
structure Attempt.Congruent (p q : Attempt PacketBuffer) : Prop where
  action : p.action = q.action
  forwarded : p.action = .forward → p.result = q.result ∧
    FrameBuffer.bounds p.buffer = FrameBuffer.bounds q.buffer ∧
    FrameBuffer.frame p.buffer = FrameBuffer.frame q.buffer
  transmitter : p.transmitter = q.transmitter

/-- Two moments at which the same state is met, and the frame that is processed comes to the same
if there is one. -/
structure Moment.Congruent (m n : Moment PacketBuffer) : Prop where
  before : m.before = n.before
  attempt : ∀ ctx x, m.operation = .process ctx x → ∃ y, n.operation = .process ctx y ∧
    (m.before.tryProcess ctx x).Congruent (n.before.tryProcess ctx y)

theorem Attempt.Congruent.aborted (reason reason' : AbortReason) (left : Transmitter)
    (x y : PacketBuffer) : Congruent ⟨.error reason, left, x⟩ ⟨.error reason', left, y⟩ :=
  ⟨rfl, nofun, rfl⟩

theorem Attempt.Congruent.refl (p : Attempt PacketBuffer) : p.Congruent p :=
  ⟨rfl, fun _ => ⟨rfl, rfl, rfl⟩, rfl⟩

theorem Moment.Congruent.refl (m : Moment PacketBuffer) : m.Congruent m :=
  ⟨rfl, fun _ x h => ⟨x, h, .refl _⟩⟩

namespace Transmitter

/-- What an attempt on a packet buffer comes to depends on the headroom of the buffer alone. -/
theorem congruent_tryProcess (transmitter : Transmitter) (ctx : ContextId) {x y : PacketBuffer}
    (same : x.headroom = y.headroom) :
    (transmitter.tryProcess ctx x).Congruent (transmitter.tryProcess ctx y) := by
  cases slot : transmitter.table.lookup (transmitter.cursor.position ctx) with
  | none =>
    rw [tryProcess_of_empty slot, tryProcess_of_empty slot]
    exact .aborted ..
  | some template =>
    by_cases room : x.headroom + template.effectiveLength ≤ storageSize
    · have room' : y.headroom + template.effectiveLength ≤ storageSize := same ▸ room
      have writing : overwrite template x = (.ok _, x.templated template room) :=
        x.overwrite_of_room template room
      have writing' : overwrite template y = (.ok _, y.templated template room') :=
        y.overwrite_of_room template room'
      have bounds := PacketBuffer.bounds_templated template room room' same
      have frame := (PacketBuffer.frame_templated template room).trans
        (PacketBuffer.frame_templated template room').symm
      generalize x.templated template room = left at writing bounds frame
      generalize y.templated template room' = left' at writing' bounds frame
      -- What is counted is read off the bounds, so both runs count the same.
      have length : FrameBuffer.length left = FrameBuffer.length left' :=
        congrArg Bounds.length bounds
      cases record : PerContext.get? transmitter.stats ctx with
      | none =>
        rw [tryProcess_of_no_record slot writing record,
          tryProcess_of_no_record slot writing' record]
        exact .aborted ..
      | some counters =>
        rw [tryProcess_of_record slot writing record, tryProcess_of_record slot writing' record,
          length]
        exact ⟨rfl, fun _ => ⟨rfl, bounds, frame⟩, rfl⟩
    · -- Neither buffer has the room; only the reasons tell how long the frames were.
      have room' : ¬ y.headroom + template.effectiveLength ≤ storageSize := same ▸ room
      obtain ⟨_, -, refused⟩ := x.overwrite_of_no_room template (Nat.lt_of_not_le room)
      obtain ⟨_, -, refused'⟩ := y.overwrite_of_no_room template (Nat.lt_of_not_le room')
      rw [tryProcess_of_failed slot refused, tryProcess_of_failed slot refused']
      exact .aborted ..

/-- Two histories bring along packet buffers with the same headroom, and any frames and any stale
bytes behind it.  All verdicts are the same, frames that are sent are the same and lie in the same
place, and both runs go through the same states. -/
theorem verdicts_of_alike (transmitter : Transmitter) {first second : List (Operation PacketBuffer)}
    (alike : List.Forall₂ (Operation.Alike Eq fun x y => x.headroom = y.headroom) first second) :
    List.Forall₂ Moment.Congruent (transmitter.trace first) (transmitter.trace second) ∧
    transmitter.after first = transmitter.after second := by
  induction alike generalizing transmitter with
  | nil => exact ⟨.nil, rfl⟩
  | @cons operation operation' first second step _ ih =>
    have one : (transmitter.moment operation).Congruent (transmitter.moment operation') ∧
        (transmitter.perform operation).2 = (transmitter.perform operation').2 := by
      rcases step.eq_or_process with rfl | ⟨ctx, x, y, same, rfl, rfl⟩
      · exact ⟨.refl _, rfl⟩
      · have congruent := transmitter.congruent_tryProcess ctx same
        refine ⟨⟨rfl, ?_⟩, congruent.transmitter⟩
        intro _ _ h
        cases h
        exact ⟨y, rfl, congruent⟩
    obtain ⟨moments, next⟩ := one
    obtain ⟨traces, last⟩ := ih (transmitter.perform operation).2
    simp only [trace, after_cons, ← next]
    exact ⟨.cons moments traces, last⟩

/-- One context over a table of one slot. -/
def ofTemplate (template : Template) : Transmitter :=
  .forContexts ⟨#[some template], Nat.one_pos, (by decide : 1 ≤ maxSlots)⟩ 1

/-- A buffer whose storage is full of sevens, with a frame of 60 bytes. -/
def stale (headroom : Nat) (inside : headroom + 60 ≤ storageSize) : PacketBuffer where
  headroom
  length := 60
  storage := (List.replicate storageSize 7).toByteArray
  size_storage := by simp
  inside

theorem verdicts_of_alike_stale :
    let overlong := ofTemplate ⟨3000, Template.pad [40, 41], Template.size_pad (by decide)⟩
    let fresh : List (Operation PacketBuffer) :=
      [.process ⟨0⟩ .empty, .setCursor ⟨0⟩ 1, .process ⟨0⟩ (.withHeadroom 2049)]
    let used : List (Operation PacketBuffer) :=
      [.process ⟨0⟩ (stale 256 (by decide)), .setCursor ⟨0⟩ 1,
        .process ⟨0⟩ (stale 2049 (by decide))]
    List.Forall₂ (Operation.Alike Eq fun x y => x.headroom = y.headroom) fresh used ∧
    List.Forall₂ Moment.Congruent (overlong.trace fresh) (overlong.trace used) ∧
    overlong.after fresh = overlong.after used := by
  intro overlong fresh used
  have alike : List.Forall₂ (Operation.Alike Eq fun x y => x.headroom = y.headroom) fresh used :=
    .cons (.process _ rfl) (.cons (.setCursor _ _) (.cons (.process _ rfl) .nil))
  exact ⟨alike, verdicts_of_alike overlong alike⟩

end Transmitter

/-! ## Templates -/

namespace Template

/-- Two templates with the same effective length and the same bytes up to it. -/
structure Equivalent (a b : Template) : Prop where
  length : a.effectiveLength = b.effectiveLength
  bytes : (octets a.payload).take a.effectiveLength = (octets b.payload).take b.effectiveLength

variable {a b : Template}

theorem Equivalent.extract (same : a.Equivalent b) {n : Nat} (short : n ≤ a.effectiveLength) :
    a.payload.extract 0 n = b.payload.extract 0 n := by
  apply octets_inj
  have bytes := congrArg (List.take n) same.bytes
  rw [List.take_take, List.take_take, ← same.length, Nat.min_eq_left short] at bytes
  rw [octets_extract, octets_extract, List.drop_zero, List.drop_zero, Nat.sub_zero]
  exact bytes

/-- Every template is equivalent to the one that is made from its frame. -/
theorem exists_ofFrame_equivalent (template : Template) :
    ∃ made, ofFrame (octets template.frame) = .ok made ∧ template.Equivalent made := by
  have size : (octets template.frame).length = template.effectiveLength :=
    (length_octets _).trans template.size_frame
  have short : template.effectiveLength ≤ templateSize := Nat.min_le_right _ _
  have made : ofFrame (octets template.frame) = .ok
      ⟨UInt32.ofNat (octets template.frame).length, pad (octets template.frame),
        size_pad (size ▸ short)⟩ := dif_pos (size ▸ short)
  have length := effectiveLength_ofFrame made
  refine ⟨_, made, ?_, ?_⟩
  · rw [length, size]
  · -- The padding lies behind the frame.
    rw [length, octets_pad, List.take_left, octets_frame]

/-- Bytes behind the declared length do not count. -/
theorem equivalent_pad_append {length : UInt32} (front back : Octets)
    (size : (pad (front ++ back)).size = templateSize) (size' : (pad front).size = templateSize)
    (short : length.toNat ≤ front.length) :
    Equivalent ⟨length, pad (front ++ back), size⟩ ⟨length, pad front, size'⟩ := by
  have inside : min length.toNat templateSize ≤ front.length :=
    Nat.le_trans (Nat.min_le_left _ _) short
  refine ⟨rfl, ?_⟩
  show (octets (pad (front ++ back))).take (min length.toNat templateSize) =
    (octets (pad front)).take (min length.toNat templateSize)
  rw [octets_pad, octets_pad, List.append_assoc, List.take_append_of_le_length inside,
    List.take_append_of_le_length inside]

variable {β : Type} [FrameBuffer β]

/-- Writing a template into a buffer reads no more of it than its frame. -/
theorem Equivalent.copyFrame (same : a.Equivalent b) (buffer : β) :
    FrameReplay.copyFrame a buffer = FrameReplay.copyFrame b buffer := by
  unfold FrameReplay.copyFrame
  simp only [← same.length, same.extract (Nat.min_le_left _ _)]

theorem Equivalent.overwrite (same : a.Equivalent b) (buffer : β) :
    FrameReplay.overwrite a buffer = FrameReplay.overwrite b buffer := by
  unfold FrameReplay.overwrite
  simp only [← same.length, same.copyFrame]

end Template

namespace TemplateTable

/-- Two tables of one size with equivalent templates in their slots. -/
structure Equivalent (a b : TemplateTable) : Prop where
  size : a.slots.size = b.slots.size
  entries : ∀ n, Option.Rel Template.Equivalent (a.entry n) (b.entry n)

variable {a b : TemplateTable} (same : a.Equivalent b)

include same

theorem Equivalent.capacity : a.capacity = b.capacity := by
  unfold TemplateTable.capacity
  rw [same.size]

theorem Equivalent.lookup_eq_none {index : UInt32} (slot : a.lookup index = none) :
    b.lookup index = none := by
  have entries := same.entries index.toNat
  rw [← lookup_eq_entry, ← lookup_eq_entry, slot] at entries
  cases h : b.lookup index with
  | none => rfl
  | some other =>
    rw [h] at entries
    cases entries

/-- Where one table holds a template, the other holds one that is written in the same way. -/
theorem Equivalent.exists_lookup {β : Type} [FrameBuffer β] {index : UInt32} {template : Template}
    (slot : a.lookup index = some template) (buffer : β) :
    ∃ other, b.lookup index = some other ∧ overwrite other buffer = overwrite template buffer := by
  have entries := same.entries index.toNat
  rw [← lookup_eq_entry, ← lookup_eq_entry, slot] at entries
  cases h : b.lookup index with
  | none =>
    rw [h] at entries
    cases entries
  | some other =>
    rw [h] at entries
    cases entries with
    | some equivalent => exact ⟨other, rfl, (equivalent.overwrite buffer).symm⟩

theorem Equivalent.put (index : UInt32) {entry entry' : Option Template}
    (written : Option.Rel Template.Equivalent entry entry') :
    (a.put index entry).Equivalent (b.put index entry') := by
  constructor
  · rw [size_put, size_put, same.size]
  · intro n
    rw [entry_put, entry_put, ← same.size]
    split
    · exact written
    · exact same.entries n

theorem Equivalent.fill {templates templates' : Array Template}
    (stock : List.Forall₂ Template.Equivalent templates.toList templates'.toList) :
    (a.fill templates).Equivalent (b.fill templates') := by
  have size : templates.size = templates'.size := stock.length_eq
  constructor
  · exact Array.size_ofFn.trans (same.size.trans Array.size_ofFn.symm)
  · intro n
    rw [entry_fill, entry_fill, ← same.size, ← size]
    generalize n % a.slots.size % templates.size = place
    by_cases inside : place < templates.size
    · have inside' : place < templates'.size := size ▸ inside
      rw [Array.getElem?_eq_getElem inside, Array.getElem?_eq_getElem inside']
      exact .some (stock.get inside inside')
    · rw [Array.getElem?_eq_none (by omega), Array.getElem?_eq_none (by omega)]
      exact .none

end TemplateTable

namespace Transmitter

/-- Two transmitters with equivalent templates in their slots, and the same cells and records. -/
structure Restocked (a b : Transmitter) : Prop where
  table : a.table.Equivalent b.table
  cursor : a.cursor = b.cursor
  stats : a.stats = b.stats

variable {β : Type} [FrameBuffer β] {a b : Transmitter} (same : a.Restocked b)

include same

/-- An attempt comes to the same with equivalent templates. -/
theorem Restocked.tryProcess (ctx : ContextId) (buffer : β) :
    (a.tryProcess ctx buffer).result = (b.tryProcess ctx buffer).result ∧
    (a.tryProcess ctx buffer).buffer = (b.tryProcess ctx buffer).buffer ∧
    (a.tryProcess ctx buffer).transmitter.Restocked (b.tryProcess ctx buffer).transmitter := by
  obtain ⟨stock, cursor, stats⟩ := a
  obtain ⟨table, rfl, rfl⟩ := same
  have ending := Transmitter.ending_tryProcess ⟨stock, b.cursor, b.stats⟩ ctx buffer
  generalize Transmitter.tryProcess ⟨stock, b.cursor, b.stats⟩ ctx buffer = attempt at ending ⊢
  -- The other template is written instead, and the attempt ends in the same way.
  cases ending with
  | empty slot =>
    have slot' : b.table.lookup (b.cursor.position ctx) = none := table.lookup_eq_none slot
    rw [tryProcess_of_empty slot']
    exact ⟨rfl, rfl, table, rfl, rfl⟩
  | failed slot writing =>
    obtain ⟨other, slot', same⟩ := table.exists_lookup slot buffer
    rw [writing] at same
    rw [tryProcess_of_failed slot' same]
    exact ⟨rfl, rfl, table, rfl, rfl⟩
  | unrecorded slot writing record =>
    obtain ⟨other, slot', same⟩ := table.exists_lookup slot buffer
    rw [writing] at same
    rw [tryProcess_of_no_record slot' same record]
    exact ⟨rfl, rfl, table, rfl, rfl⟩
  | sent slot writing record =>
    obtain ⟨other, slot', same⟩ := table.exists_lookup slot buffer
    rw [writing] at same
    rw [tryProcess_of_record slot' same record]
    exact ⟨rfl, rfl, table, rfl, rfl⟩

omit [FrameBuffer β] in
/-- A slot is put, or its index refused, on both sides. -/
theorem Restocked.putSlot (index : UInt32) {entry entry' : Option Template}
    (written : Option.Rel Template.Equivalent entry entry') :
    (a.answerControl (β := β) (a.putSlot index entry)).1 =
      (b.answerControl (β := β) (b.putSlot index entry')).1 ∧
    (a.answerControl (β := β) (a.putSlot index entry)).2.Restocked
      (b.answerControl (β := β) (b.putSlot index entry')).2 := by
  unfold Transmitter.putSlot
  rw [same.table.capacity]
  by_cases named : index < b.table.capacity
  · simp only [if_pos named, answerControl]
    exact ⟨trivial, same.table.put index written, same.cursor, same.stats⟩
  · simp only [if_neg named, answerControl]
    exact ⟨trivial, same⟩

omit [FrameBuffer β] in
theorem Restocked.setCursor (ctx : ContextId) (value : UInt32) :
    (a.answerControl (β := β) (a.setCursor ctx value)).1 =
      (b.answerControl (β := β) (b.setCursor ctx value)).1 ∧
    (a.answerControl (β := β) (a.setCursor ctx value)).2.Restocked
      (b.answerControl (β := β) (b.setCursor ctx value)).2 := by
  unfold Transmitter.setCursor
  rw [same.cursor]
  cases b.cursor.set? ctx value with
  | none => exact ⟨rfl, same⟩
  | some cursor => exact ⟨rfl, same.table, rfl, same.stats⟩

theorem Restocked.install {templates templates' : Array Template}
    (stock : List.Forall₂ Template.Equivalent templates.toList templates'.toList) :
    (a.perform (.install templates : Operation β)).1 =
      (b.perform (.install templates' : Operation β)).1 ∧
    (a.perform (.install templates : Operation β)).2.Restocked
      (b.perform (.install templates' : Operation β)).2 := by
  have size : templates.size = templates'.size := stock.length_eq
  have none : templates.isEmpty = templates'.isEmpty := by
    unfold Array.isEmpty
    rw [size]
  unfold Transmitter.perform Transmitter.install
  simp only [none, size, same.table.size]
  cases templates'.isEmpty with
  | true => exact ⟨rfl, same⟩
  | false => exact ⟨rfl, same.table.fill stock, same.cursor, same.stats⟩

/-- An operation with equivalent templates is answered in the same way, and the transmitters stay
equivalent. -/
theorem Restocked.perform {first second : Operation β}
    (alike : first.Alike Template.Equivalent Eq second) :
    (a.perform first).1 = (b.perform second).1 ∧
      (a.perform first).2.Restocked (b.perform second).2 := by
  cases alike with
  | @process ctx buffer _ buffers =>
    subst buffers
    obtain ⟨result, left, after⟩ := same.tryProcess ctx buffer
    unfold Transmitter.perform
    simp only [result, left]
    exact ⟨trivial, after⟩
  | recordAbort ctx =>
    exact ⟨rfl, same.table, same.cursor, congrArg (StatsStore.recordAbort · ctx) same.stats⟩
  | install templates => exact same.install templates
  | replace index templates => exact same.putSlot index (.some templates)
  | clear index => exact same.putSlot index .none
  | store index templates =>
    exact ⟨rfl, same.table.put index (.some templates), same.cursor, same.stats⟩
  | unset index => exact ⟨rfl, same.table.put index .none, same.cursor, same.stats⟩
  | setCursor ctx value => exact same.setCursor ctx value
  | resetCursors =>
    exact ⟨rfl, same.table, congrArg SequenceCursor.reset same.cursor, same.stats⟩
  | resetStats => exact ⟨rfl, same.table, same.cursor, congrArg StatsStore.reset same.stats⟩

/-- Histories that do the same with equivalent templates are answered in the same way from moment to
moment. -/
theorem Restocked.trace {first second : List (Operation β)}
    (alike : List.Forall₂ (Operation.Alike Template.Equivalent Eq) first second) :
    List.Forall₂ (fun m n => m.answer = n.answer ∧ m.before.Restocked n.before)
      (a.trace first) (b.trace second) ∧
    (a.after first).Restocked (b.after second) := by
  induction alike generalizing a b with
  | nil => exact ⟨.nil, same⟩
  | cons step _ ih =>
    obtain ⟨answer, next⟩ := same.perform step
    obtain ⟨traces, last⟩ := ih next
    exact ⟨.cons ⟨answer, same⟩ traces, last⟩

omit same

/-- The history that a script comes to.  Every step of a script may look at all answers before it,
so that it can use a buffer again as it was left. -/
def historyOf (transmitter : Transmitter) (seen : List (Answer β)) :
    List (List (Answer β) → Operation β) → List (Operation β)
  | [] => []
  | step :: script =>
    step seen :: (transmitter.perform (step seen)).2.historyOf
      (seen ++ [(transmitter.perform (step seen)).1]) script

theorem Restocked.historyOf (same : a.Restocked b) {seen : List (Answer β)}
    {first second : List (List (Answer β) → Operation β)}
    (alike : List.Forall₂ (fun f g => ∀ seen, (f seen).Alike Template.Equivalent Eq (g seen))
      first second) :
    List.Forall₂ (Operation.Alike Template.Equivalent Eq)
      (a.historyOf seen first) (b.historyOf seen second) := by
  induction alike generalizing a b seen with
  | nil => exact .nil
  | cons step _ ih =>
    obtain ⟨answer, next⟩ := same.perform (step seen)
    simp only [Transmitter.historyOf, answer]
    exact .cons (step seen) (ih next)

/-- Two scripts that do the same with equivalent templates, on tables with equivalent templates.
Every answer is the same, the buffer that it leaves included, and so are all cursors and all records
at every moment.  A template that declares too much, or has bytes behind its frame, is equivalent to
one made from its frame. -/
theorem answers_of_equivalent (same : a.Restocked b)
    {first second : List (List (Answer β) → Operation β)}
    (alike : List.Forall₂ (fun f g => ∀ seen, (f seen).Alike Template.Equivalent Eq (g seen))
      first second) :
    let one := a.historyOf [] first
    let two := b.historyOf [] second
    List.Forall₂ (fun m n => m.answer = n.answer ∧ m.before.cursor = n.before.cursor ∧
      m.before.stats = n.before.stats) (a.trace one) (b.trace two) ∧
    (a.after one).cursor = (b.after two).cursor ∧ (a.after one).stats = (b.after two).stats ∧
    ∀ template : Template, ∃ made,
      Template.ofFrame (octets template.frame) = .ok made ∧ template.Equivalent made := by
  intro one two
  have histories : List.Forall₂ (Operation.Alike Template.Equivalent Eq) one two :=
    same.historyOf alike
  obtain ⟨traces, last⟩ := same.trace histories
  refine ⟨traces.imp ?_, last.cursor, last.stats, Template.exists_ofFrame_equivalent⟩
  intro m n ⟨answer, before⟩
  exact ⟨answer, before.cursor, before.stats⟩

/-- A frame is processed, the template replaced, and the frame that was left processed again. -/
def reuse (template : Template) : List (List (Answer PacketBuffer) → Operation PacketBuffer) :=
  [fun _ => .process ⟨0⟩ .empty, fun _ => .replace 0 template, fun
    | .processed _ left :: _ => .process ⟨0⟩ left
    | _ => .resetStats]

/-- The first templates differ in the length that they declare, the others behind their frame. -/
theorem answers_of_equivalent_reuse :
    let overlong : Template := ⟨3000, Template.pad [1, 2], Template.size_pad (by decide)⟩
    let full : Template := ⟨2048, Template.pad [1, 2], Template.size_pad (by decide)⟩
    let ragged : Template := ⟨2, Template.pad [40, 41, 42], Template.size_pad (by decide)⟩
    let clean : Template := ⟨2, Template.pad [40, 41], Template.size_pad (by decide)⟩
    (ofTemplate overlong).Restocked (ofTemplate full) ∧
    List.Forall₂ (fun f g => ∀ seen, (f seen).Alike Template.Equivalent Eq (g seen))
      (reuse ragged) (reuse clean) ∧
    ((ofTemplate overlong).after ((ofTemplate overlong).historyOf [] (reuse ragged))).stats =
      ((ofTemplate full).after ((ofTemplate full).historyOf [] (reuse clean))).stats := by
  intro overlong full ragged clean
  have length : overlong.effectiveLength = full.effectiveLength := by decide
  have first : overlong.Equivalent full := by
    refine ⟨length, ?_⟩
    rw [length]
  have second : ragged.Equivalent clean :=
    Template.equivalent_pad_append [40, 41] [42] _ _ (by decide)
  have same : (ofTemplate overlong).Restocked (ofTemplate full) := by
    refine ⟨⟨rfl, fun n => ?_⟩, rfl, rfl⟩
    unfold TemplateTable.entry ofTemplate forContexts
    simp only [List.size_toArray, List.length_cons, List.length_nil, Nat.zero_add, Nat.mod_one]
    exact .some first
  have alike : List.Forall₂ (fun f g => ∀ seen, (f seen).Alike Template.Equivalent Eq (g seen))
      (reuse ragged) (reuse clean) := by
    refine .cons (fun _ => .process _ rfl) (.cons (fun _ => .replace _ second)
      (.cons (fun seen => ?_) .nil))
    rcases seen with - | ⟨- | - | - | -, -⟩
    · exact .resetStats
    · exact .process _ rfl
    all_goals exact .resetStats
  obtain ⟨-, -, stats, -⟩ := answers_of_equivalent same alike
  exact ⟨same, alike, stats⟩

end Transmitter

end FrameReplay
