import Mathlib.Data.Int.CardIntervalMod
import Mathlib.Data.Nat.Periodic
import FrameReplay.Proofs.BufferView
import FrameReplay.Proofs.Fitting
import FrameReplay.Proofs.Layout
import FrameReplay.Proofs.Trace
import FrameReplay.Proofs.Walk

/-!
# Rotation through installed templates

Once templates are installed, every context goes round and round through them, each from where its
cursor stands.  The slots, the indices behind which a cursor begins again, and the templates may be
of three different numbers.  Where the first two agree, one round sends every template equally often
up to one.
-/

namespace FrameReplay

/-- In one round, from wherever it begins, a residue is met once for every time that the modulus
goes into the round, and once more if it is among the first. -/
theorem countP_round {modulus place : Nat} (inside : place < modulus) (start round : Nat) :
    (List.range round).countP (fun k => (start + k) % round % modulus = place) =
      round / modulus + if place < round % modulus then 1 else 0 := by
  have periodic : Function.Periodic (fun x => x % round % modulus = place) round := by
    intro x
    simp only [Nat.add_mod_right]
  -- A window as long as the period may as well begin at zero.
  have rotated := Nat.filter_multiset_Ico_card_eq_of_periodic start round _ periodic
  have window : (List.range round).countP (fun k => (start + k) % round % modulus = place) =
      Multiset.card (Multiset.filter (fun x => x % round % modulus = place)
        (Multiset.Ico start (start + round))) := by
    change _ = Multiset.card
      (Multiset.filter _ (List.range' start (start + round - start) : Multiset Nat))
    rw [Nat.add_sub_cancel_left, List.range'_eq_map_range, Multiset.filter_coe, Multiset.coe_card,
      ← List.countP_eq_length_filter, List.countP_map]
    rfl
  have residues : round.count (fun x => x % round % modulus = place) =
      round.count (· ≡ place [MOD modulus]) := by
    apply List.countP_congr
    intro x below
    simp only [decide_eq_true_eq]
    rw [Nat.mod_eq_of_lt (List.mem_range.1 below), Nat.ModEq, Nat.mod_eq_of_lt inside]
  rw [window, rotated, residues, Nat.count_modEq_card round (Nat.zero_lt_of_lt inside),
    Nat.mod_eq_of_lt inside]

/-- Counting in a window of a list whose items are known by their places. -/
theorem countP_window {α : Type} {items : List α} {p : α → Bool} {q : Nat → Bool}
    (known : ∀ j item, items[j]? = some item → p item = q j) {early n : Nat}
    (enough : early + n ≤ items.length) :
    ((items.drop early).take n).countP p = (List.range n).countP fun k => q (early + k) := by
  have verdicts : ((items.drop early).take n).map p =
      (List.range n).map fun k => q (early + k) := by
    apply List.ext_getElem
    · simp only [List.length_map, List.length_take, List.length_drop, List.length_range]
      omega
    · intro k _ inside
      rw [List.length_map, List.length_range] at inside
      have there : items[early + k]? = some items[early + k] :=
        List.getElem?_eq_getElem (by omega)
      simp only [List.getElem_map, List.getElem_take, List.getElem_drop, List.getElem_range]
      exact known _ _ there
  have counted := congrArg (List.countP id) verdicts
  rw [List.countP_map, List.countP_map] at counted
  exact counted

/-! ## Histories that keep the rotation -/

/-- Whether an operation leaves it to the contexts where they go on and what they find there. -/
def Operation.keepsRotation {β : Type} : Operation β → Bool
  | .process .. | .recordAbort _ | .resetStats => true
  | _ => false

/-- Nothing is written to the table or to a cursor from outside. -/
def Moment.Quiet {β : Type} (moment : Moment β) : Prop :=
  moment.operation.keepsRotation = true ∨ ∃ error, moment.answer = .refused error

namespace Transmitter

variable {β : Type} [FrameBuffer β]

theorem same_of_quiet {now : Transmitter} {operation : Operation β} {ctx : ContextId}
    (quiet : (now.moment operation).Quiet) (other : (now.moment operation).isCall ctx = false) :
    (now.perform operation).2.table = now.table ∧
      (now.perform operation).2.cursor.raw? ctx = now.cursor.raw? ctx := by
  rcases quiet with keeps | ⟨error, refused⟩
  · cases operation with
    | process owner buffer =>
      have same : Agree ctx (now.tryProcess owner buffer).transmitter now :=
        agree_tryProcess buffer (Ne.symm (of_decide_eq_false other))
      exact ⟨same.table, same.cell⟩
    | recordAbort owner => exact ⟨rfl, rfl⟩
    | resetStats => exact ⟨rfl, rfl⟩
    | _ => cases keeps
  · rw [perform_of_refused refused]
    exact ⟨rfl, rfl⟩

/-- The templates of `base` are installed, and a context with a cell and a record goes on at index
`phase`, counted around. -/
structure Poised (base : Transmitter) (ctx : ContextId) (phase : Nat) (now : Transmitter) :
    Prop where
  table : now.table = base.table
  capacity : now.cursor.capacity = base.cursor.capacity
  position : (now.cursor.position ctx).toNat = phase % base.cursor.capacity.toNat
  cell : ctx.index < now.cursor.cells.size
  record : ctx.index < now.stats.size

variable {base now : Transmitter} {ctx : ContextId} {phase : Nat}

theorem Poised.perform (poised : Poised base ctx phase now) {operation : Operation β}
    (quiet : (now.moment operation).Quiet) (other : (now.moment operation).isCall ctx = false) :
    Poised base ctx phase (now.perform operation).2 := by
  obtain ⟨table, cell⟩ := same_of_quiet quiet other
  have layout := sameLayout_perform now operation
  refine ⟨table.trans poised.table, layout.capacity.trans poised.capacity, ?_, ?_, ?_⟩
  · rw [SequenceCursor.position_of_raw?_eq now.cursor ctx layout.capacity cell, poised.position]
  · rw [layout.cells]
    exact poised.cell
  · rw [layout.records]
    exact poised.record

/-- A context that has moved on stands at the next index, counted around. -/
theorem toNat_position_moved (transmitter : Transmitter)
    (cell : ctx.index < transmitter.cursor.cells.size) :
    ((transmitter.moved ctx).cursor.position ctx).toNat =
      ((transmitter.cursor.position ctx).toNat + 1) % transmitter.cursor.capacity.toNat := by
  have stored : transmitter.cursor.raw? ctx = some transmitter.cursor.cells[ctx.index] :=
    Array.getElem?_eq_getElem cell
  change ((transmitter.moved ctx).cursor.clamp
    (((transmitter.moved ctx).cursor.raw? ctx).getD 0)).toNat = _
  unfold moved
  rw [SequenceCursor.raw?_advance_self, stored, Option.map_some, Option.getD_some,
    SequenceCursor.toNat_clamp, SequenceCursor.toNat_next _ _ (SequenceCursor.position_lt _ _)]
  exact if_pos (Nat.mod_lt _ transmitter.cursor.capacity_pos)

/-- A call on a packet buffer with room for any template sends the template at the index where the
context stands, and the context moves on. -/
theorem Poised.call (poised : Poised base ctx phase now) {template : Template}
    (slot : base.table.entry (phase % base.cursor.capacity.toNat) = some template)
    (packet : PacketBuffer) (low : packet.headroom ≤ 2048) :
    ∃ sent, (now.tryProcess ctx packet).result = .ok sent ∧
      sent.index.toNat = phase % base.cursor.capacity.toNat ∧
      (now.tryProcess ctx packet).buffer.frame = template.frame ∧
      Poised base ctx (phase + 1) (now.tryProcess ctx packet).transmitter := by
  have short : template.effectiveLength ≤ 2048 := Nat.min_le_right _ _
  have room : packet.headroom + template.effectiveLength ≤ storageSize := by
    simp only [storageSize]
    omega
  have found : now.table.lookup (now.cursor.position ctx) = some template := by
    rw [TemplateTable.lookup_eq_entry, poised.position, poised.table, slot]
  have recorded := poised.record
  have counters : PerContext.get? now.stats ctx = some now.stats[ctx.index] :=
    Array.getElem?_eq_getElem recorded
  have written : ((packet.withLength template.effectiveLength room).setFrame template.frame).frame =
      template.frame :=
    PacketBuffer.frame_setFrame (packet.withLength _ room) template.size_frame
  rw [tryProcess_of_record found (packet.overwrite_of_room template room) counters]
  generalize (packet.withLength template.effectiveLength room).setFrame template.frame = left
    at written ⊢
  refine ⟨_, rfl, poised.position, written, ?_⟩
  have shape := (sameShape_counted (now.moved ctx) ctx (FrameBuffer.length left)).trans
    (sameShape_moved now ctx)
  refine ⟨shape.table.trans poised.table, shape.capacity.trans poised.capacity, ?_, ?_, ?_⟩
  · change ((now.moved ctx).cursor.position ctx).toNat = _
    rw [toNat_position_moved now poised.cell, poised.position, poised.capacity, Nat.mod_add_mod]
  · rw [shape.cells]
    exact poised.cell
  · rw [shape.records]
    exact poised.record

/-- Along a quiet history the calls of a context go on from index to index. -/
theorem Poised.calls (poised : Poised base ctx phase now)
    (full : ∀ index, ∃ template, base.table.entry index = some template)
    {history : List (Operation (PacketBuffer ⊕ β))}
    (quiet : ∀ moment ∈ now.trace history, moment.Quiet)
    (low : ∀ buffer, .process ctx buffer ∈ history →
      ∃ packet : PacketBuffer, buffer = .inl packet ∧ packet.headroom ≤ 2048)
    {j : Nat} {moment : Moment (PacketBuffer ⊕ β)}
    (call : ((now.trace history).filter (·.isCall ctx))[j]? = some moment) :
    ∃ sent packet template, moment.answer = .processed (.ok sent) (.inl packet) ∧
      moment.sent? ctx = some sent ∧
      sent.index.toNat = (phase + j) % base.cursor.capacity.toNat ∧
      base.table.entry ((phase + j) % base.cursor.capacity.toNat) = some template ∧
      packet.frame = template.frame := by
  -- A call moves the phase on by one; all else leaves the context poised where it was.
  induction history generalizing now phase j with
  | nil => cases call
  | cons operation history ih =>
    obtain ⟨first, others⟩ := List.forall_mem_cons.1 quiet
    have low' : ∀ buffer, .process ctx buffer ∈ history →
        ∃ packet : PacketBuffer, buffer = .inl packet ∧ packet.headroom ≤ 2048 :=
      fun buffer later => low buffer (List.mem_cons_of_mem _ later)
    unfold trace at call
    cases mine : (now.moment operation).isCall ctx with
    | false =>
      rw [List.filter_cons_of_neg (by simp [mine])] at call
      exact ih (poised.perform first mine) others low' call
    | true =>
      rw [List.filter_cons_of_pos mine] at call
      obtain ⟨buffer, process⟩ := Moment.exists_of_isCall mine
      cases process
      obtain ⟨packet, rfl, room⟩ := low _ List.mem_cons_self
      obtain ⟨template, slot⟩ := full (phase % base.cursor.capacity.toNat)
      obtain ⟨sent, result, index, frame, next⟩ := poised.call slot packet room
      have attempt := tryProcess_inl (β := β) now ctx packet
      cases j with
      | zero =>
        cases call
        refine ⟨sent, _, template, ?_, ?_, index, slot, frame⟩
        · change Answer.processed _ _ = _
          rw [attempt, result]
        · rw [sent?_moment, attempt, result]
          rfl
      | succ j =>
        have moved : Poised base ctx (phase + 1)
            (now.perform (.process ctx (.inl packet : PacketBuffer ⊕ β))).2 := by
          change Poised base ctx (phase + 1)
            (now.tryProcess ctx (Sum.inl packet : PacketBuffer ⊕ β)).transmitter
          rw [attempt]
          exact next
        rw [show phase + (j + 1) = phase + 1 + j by omega]
        exact ih moved others low' call

/-- Templates are installed while a context has any value stored.  As long as nobody writes to the
table or to a cursor, each of its calls on a packet buffer with room for any template sends a frame,
and the calls go round from the stored value, or from the first slot if that value names none.  A
round of calls sends every template equally often, and the first ones once more if the number of
templates does not divide the round. -/
theorem rotation_after_install (transmitter : Transmitter) {templates : Array Template}
    (filled : templates.size ≠ 0) {ctx : ContextId} {stored : UInt32}
    (cell : transmitter.cursor.raw? ctx = some stored)
    (record : (PerContext.get? transmitter.stats ctx).isSome) :
    let slots := transmitter.table.slots.size
    let capacity := transmitter.cursor.capacity.toNat
    let start := if stored.toNat < capacity then stored.toNat else 0
    ∃ next, transmitter.install templates = .ok (⟨templates.size, slots⟩, next) ∧
      ∀ history : List (Operation (PacketBuffer ⊕ β)),
        (∀ moment ∈ next.trace history, moment.Quiet) →
        (∀ buffer, .process ctx buffer ∈ history →
          ∃ packet : PacketBuffer, buffer = .inl packet ∧ packet.headroom ≤ 2048) →
        let calls := (next.trace history).filter (·.isCall ctx)
        (∀ j moment, calls[j]? = some moment →
          ∃ sent packet template, moment.answer = .processed (.ok sent) (.inl packet) ∧
            sent.index.toNat = (start + j) % capacity ∧
            templates[(start + j) % capacity % slots % templates.size]? = some template ∧
            packet.frame = template.frame) ∧
        (capacity = slots → ∀ early place, early + slots ≤ calls.length → place < templates.size →
          ((calls.drop early).take slots).countP (fun moment => (moment.sent? ctx).any fun sent =>
            sent.index.toNat % slots % templates.size = place) =
          slots / templates.size + if place < slots % templates.size then 1 else 0) := by
  intro slots capacity start
  have nonempty : templates.isEmpty = false := by
    rw [Array.isEmpty_eq_false_iff]
    exact fun none => filled (by rw [none]; rfl)
  refine ⟨{ transmitter with table := transmitter.table.fill templates }, ?_, ?_⟩
  · unfold install
    rw [nonempty]
    rfl
  · intro history quiet low calls
    have poised : Poised { transmitter with table := transmitter.table.fill templates } ctx start
        { transmitter with table := transmitter.table.fill templates } := by
      have below : start < capacity := by
        have := transmitter.cursor.capacity_pos
        unfold start
        split <;> assumption
      refine ⟨rfl, rfl, ?_, ?_, (PerContext.isSome_get?_iff _ _).1 record⟩
      · change (transmitter.cursor.position ctx).toNat = start % capacity
        unfold SequenceCursor.position
        rw [cell, Option.getD_some, SequenceCursor.toNat_clamp, Nat.mod_eq_of_lt below]
      · exact (PerContext.isSome_get?_iff _ _).1 (Option.isSome_of_eq_some cell)
    have full : ∀ index, ∃ template,
        (transmitter.table.fill templates).entry index = some template := by
      intro index
      have inside : index % slots % templates.size < templates.size :=
        Nat.mod_lt _ (Nat.pos_of_ne_zero filled)
      exact ⟨_, (TemplateTable.entry_fill _ _ _).trans (Array.getElem?_eq_getElem inside)⟩
    refine ⟨?_, ?_⟩
    · intro j moment call
      obtain ⟨sent, packet, template, answer, -, index, slot, frame⟩ :=
        poised.calls full quiet low call
      rw [TemplateTable.entry_fill] at slot
      exact ⟨sent, packet, template, answer, index, slot, frame⟩
    · intro same early place enough inside
      have known : ∀ j moment, calls[j]? = some moment →
          ((moment.sent? ctx).any fun sent =>
            sent.index.toNat % slots % templates.size = place) =
          decide ((start + j) % slots % templates.size = place) := by
        intro j moment call
        obtain ⟨sent, packet, template, -, sends, index, -⟩ := poised.calls full quiet low call
        change sent.index.toNat = (start + j) % capacity at index
        rw [sends, Option.any_some, index, same, Nat.mod_mod]
      rw [countP_window known enough, ← countP_round inside (start + early) slots]
      simp only [Nat.add_assoc]

/-- One context with a stored value that names none of the three slots. -/
def astray : Transmitter :=
  { Transmitter.forContexts ⟨#[none, none, none], by decide, by decide⟩ 1 with
    cursor := ⟨#[7], 3, by decide⟩ }

def twoTemplates : Array Template :=
  #[⟨2, Template.pad [20, 21], Template.size_pad (by decide)⟩,
    ⟨1, Template.pad [22], Template.size_pad (by decide)⟩]

/-- Three calls, with a refused write in front of them and what is no write in between. -/
def threeCalls : List (Operation (PacketBuffer ⊕ PacketBuffer)) :=
  [.clear 5, .process ⟨0⟩ (.inl .empty), .resetStats, .process ⟨0⟩ (.inl .empty),
    .process ⟨1⟩ (.inr .empty), .recordAbort ⟨0⟩, .process ⟨0⟩ (.inl (.withHeadroom 2048))]

theorem rotation_after_install_threeCalls :
    twoTemplates.size ≠ 0 ∧ astray.cursor.raw? ⟨0⟩ = some 7 ∧
    (PerContext.get? astray.stats ⟨0⟩).isSome ∧
    ∃ next, astray.install twoTemplates = .ok (⟨2, 3⟩, next) ∧
      (∀ moment ∈ next.trace threeCalls, moment.Quiet) ∧
      ((next.trace threeCalls).filter (·.isCall ⟨0⟩)).length = 3 ∧
      (((next.trace threeCalls).filter (·.isCall ⟨0⟩)).take 3).countP
        (fun moment => (moment.sent? ⟨0⟩).any fun sent => sent.index.toNat % 3 % 2 = 0) = 2 := by
  have filled : twoTemplates.size ≠ 0 := by decide
  have cell : astray.cursor.raw? ⟨0⟩ = some 7 := rfl
  have record : (PerContext.get? astray.stats ⟨0⟩).isSome := rfl
  obtain ⟨next, installed, rounds⟩ :=
    rotation_after_install (β := PacketBuffer) astray filled cell record
  have installed' : astray.install twoTemplates = .ok (⟨2, 3⟩,
    { astray with table := astray.table.fill twoTemplates }) := rfl
  have same := installed'.symm.trans installed
  cases same
  have quiet : ∀ moment ∈ Transmitter.trace { astray with table := astray.table.fill twoTemplates }
      threeCalls, moment.Quiet := by
    simp only [threeCalls, trace, List.forall_mem_cons]
    exact ⟨.inr ⟨_, rfl⟩, .inl rfl, .inl rfl, .inl rfl, .inl rfl, .inl rfl, .inl rfl,
      List.forall_mem_nil _⟩
  have low : ∀ buffer, Operation.process ⟨0⟩ buffer ∈ threeCalls →
      ∃ packet : PacketBuffer, buffer = .inl packet ∧ packet.headroom ≤ 2048 := by
    intro buffer member
    simp only [threeCalls, List.mem_cons] at member
    rcases member with h | h | h | h | h | h | h | h <;> cases h
    · exact ⟨.empty, rfl, by decide⟩
    · exact ⟨.empty, rfl, by decide⟩
    · exact ⟨.withHeadroom 2048, rfl, by decide⟩
  have three : ((Transmitter.trace { astray with table := astray.table.fill twoTemplates }
      threeCalls).filter (·.isCall ⟨0⟩)).length = 3 := by
    rfl
  exact ⟨filled, cell, record, _, installed, quiet, three,
    (rounds threeCalls quiet low).2 rfl 0 0 (Nat.le_of_eq three.symm) (by decide)⟩

end Transmitter

end FrameReplay
