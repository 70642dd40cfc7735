import Mathlib.Algebra.GroupWithZero.Nat
import Mathlib.Data.List.DropRight
import FrameReplay.Buffer.Faulty
import FrameReplay.Proofs.BufferView
import FrameReplay.Proofs.Fitting
import FrameReplay.Proofs.Layout
import FrameReplay.Proofs.Trace

/-!
# Accounting

The records are read off the history: each one counts what its context sent and gave up since the
statistics were last reset.  A length that is counted is the length of the frame that was sent.  It
covers the whole template, whatever the buffer does when it is asked to resize, as long as writing
into the frame does not move its bounds.
-/

namespace FrameReplay

/-! ## Adding up counters -/

namespace Counters

theorem add_eq (a b : Counters) :
    a + b = ⟨a.packets + b.packets, a.bytes + b.bytes, a.aborted + b.aborted⟩ := rfl

theorem add_assoc (a b c : Counters) : a + b + c = a + (b + c) := by
  simp only [add_eq, UInt64.add_assoc]

@[simp] theorem add_zero (a : Counters) : a + zero = a := by
  simp only [add_eq, zero, UInt64.add_zero]

theorem recordFrame_eq (record : Counters) (length : UInt64) :
    record.recordFrame length = record + ⟨1, length, 0⟩ := by
  simp only [add_eq, recordFrame, UInt64.add_zero]

theorem recordAbort_eq (record : Counters) : record.recordAbort = record + ⟨0, 0, 1⟩ := by
  simp only [add_eq, recordAbort, UInt64.add_zero]

theorem foldl_add (records : List Counters) (start : Counters) :
    records.foldl (· + ·) start =
      start + ⟨UInt64.ofNat (records.map (·.packets.toNat)).sum,
        UInt64.ofNat (records.map (·.bytes.toNat)).sum,
        UInt64.ofNat (records.map (·.aborted.toNat)).sum⟩ := by
  induction records generalizing start with
  | nil => exact start.add_zero.symm
  | cons record records ih =>
    rw [List.foldl_cons, ih, add_assoc]
    simp only [List.map_cons, List.sum_cons, UInt64.ofNat_add, UInt64.ofNat_toNat, add_eq]

end Counters

theorem StatsStore.total_eq_sum (stats : StatsStore) :
    stats.total = ⟨UInt64.ofNat (stats.toList.map (·.packets.toNat)).sum,
      UInt64.ofNat (stats.toList.map (·.bytes.toNat)).sum,
      UInt64.ofNat (stats.toList.map (·.aborted.toNat)).sum⟩ := by
  unfold total
  rw [← Array.foldl_toList, Counters.foldl_add]
  simp only [Counters.add_eq, Counters.zero, UInt64.zero_add]

/-! ## The length that is counted -/

theorem Bounds.le_length_of_fits {bounds : Bounds} {want : UInt64} (h : bounds.fits want = true) :
    want.toNat ≤ bounds.length.toNat := by
  have room : bounds.start.toNat + want.toNat ≤ bounds.stop.toNat := of_decide_eq_true h
  rw [toNat_length]
  omega

section Writing

variable {β : Type} [FrameBuffer β]
  (steady : ∀ (buffer : β) (bytes : ByteArray),
    FrameBuffer.bounds (FrameBuffer.setFrame buffer bytes) = FrameBuffer.bounds buffer)

include steady

theorem effectiveLength_le_length_of_overwrite {template : Template} {buffer after : β}
    {written : Nat} (h : overwrite template buffer = (.ok written, after)) :
    template.effectiveLength ≤ (FrameBuffer.bounds after).length.toNat := by
  have short : template.effectiveLength ≤ 2048 := Nat.min_le_right _ _
  unfold overwrite at h
  rcases resizing : resizeTo template.effectiveLength buffer with ⟨cause | done, resized⟩
  · rw [resizing] at h
    cases h
  · rw [resizing] at h
    simp only at h
    split at h
    · rename_i fits
      -- Copying moves no bound, so the bounds that were checked are those that are counted.
      have bounds : FrameBuffer.bounds after = FrameBuffer.bounds resized := by
        unfold copyFrame at h
        simp only at h
        split at h
        · cases h
          exact steady _ _
        · cases h
      have covered := Bounds.le_length_of_fits fits
      rw [UInt64.toNat_ofNat'] at covered
      rw [bounds]
      omega
    · cases h

end Writing

/-! ## What the operations enter -/

namespace Moment

variable {β : Type}

/-- A frame of a context is given up. -/
def gaveUp (ctx : ContextId) (moment : Moment β) : Bool :=
  match moment.operation with
  | .recordAbort c => c = ctx
  | _ => false

/-- The statistics are reset. -/
def isReset (moment : Moment β) : Bool :=
  match moment.operation with
  | .resetStats => true
  | _ => false

end Moment

section Tally

variable {β : Type} (ctx : ContextId)

/-- What a context sent and gave up along a trace. -/
def tally (trace : List (Moment β)) : Counters where
  packets := UInt64.ofNat (trace.filterMap (·.sent? ctx)).length
  bytes := UInt64.ofNat ((trace.filterMap (·.sent? ctx)).map (·.length.toNat)).sum
  aborted := UInt64.ofNat (trace.countP (·.gaveUp ctx))

theorem tally_append (early late : List (Moment β)) :
    tally ctx (early ++ late) = tally ctx early + tally ctx late := by
  simp only [tally, Counters.add_eq, List.filterMap_append, List.length_append, List.map_append,
    List.sum_append, List.countP_append, UInt64.ofNat_add]

theorem tally_of_sent {moment : Moment β} {sent : Transmitted} (h : moment.sent? ctx = some sent)
    (kept : moment.gaveUp ctx = false) : tally ctx [moment] = ⟨1, sent.length, 0⟩ := by
  simp [tally, h, kept]

theorem tally_of_gaveUp {moment : Moment β} (nothing : moment.sent? ctx = none)
    (h : moment.gaveUp ctx = true) : tally ctx [moment] = ⟨0, 0, 1⟩ := by
  simp [tally, h, nothing]

theorem tally_of_neither {moment : Moment β} (nothing : moment.sent? ctx = none)
    (kept : moment.gaveUp ctx = false) : tally ctx [moment] = .zero := by
  simp [tally, nothing, kept, Counters.zero]

/-- The part of a trace behind the last reset of the statistics. -/
def sinceReset (trace : List (Moment β)) : List (Moment β) :=
  trace.rtakeWhile fun moment => !moment.isReset

end Tally

namespace Transmitter

/-! ## What the records hold -/

variable {β : Type} [FrameBuffer β] (transmitter : Transmitter) (ctx : ContextId)

/-- An attempt enters what it sends in the record of its context, and nothing anywhere else. -/
theorem get?_stats_tryProcess (owner : ContextId) (buffer : β) :
    PerContext.get? (transmitter.tryProcess owner buffer).transmitter.stats ctx =
      (PerContext.get? transmitter.stats ctx).map
        (· + tally ctx [transmitter.moment (.process owner buffer)]) := by
  have kept : (transmitter.moment (.process owner buffer)).gaveUp ctx = false := rfl
  by_cases mine : owner = ctx
  · subst mine
    have what := transmitter.sent?_moment owner buffer
    have ending := transmitter.ending_tryProcess owner buffer
    generalize transmitter.tryProcess owner buffer = attempt at what ending ⊢
    -- Of the four endings only the last one reaches the record.
    cases ending with
    | empty slot => simp [tally_of_neither owner what kept]
    | failed slot writing => simp [tally_of_neither owner what kept]
    | unrecorded slot writing record =>
      rw [tally_of_neither owner what kept]
      simp [moved]
    | sent slot writing record =>
      rw [tally_of_sent owner what kept]
      unfold counted
      rw [PerContext.get?_update_self]
      simp only [Counters.recordFrame_eq]
      rfl
  · have nothing : (transmitter.moment (.process owner buffer)).sent? ctx = none :=
      Moment.sent?_of_isCall_eq_false (decide_eq_false mine)
    rw [tally_of_neither ctx nothing kept, (agree_tryProcess buffer (Ne.symm mine)).record]
    simp

/-- Every operation but a reset adds to the records what is entered for it. -/
theorem get?_stats_perform {operation : Operation β}
    (kept : (transmitter.moment operation).isReset = false) :
    PerContext.get? (transmitter.perform operation).2.stats ctx =
      (PerContext.get? transmitter.stats ctx).map
        (· + tally ctx [transmitter.moment operation]) := by
  have silent : ∀ operation : Operation β, (transmitter.moment operation).sent? ctx = none →
      (transmitter.moment operation).gaveUp ctx = false →
      (transmitter.perform operation).2.stats = transmitter.stats →
      PerContext.get? (transmitter.perform operation).2.stats ctx =
        (PerContext.get? transmitter.stats ctx).map
          (· + tally ctx [transmitter.moment operation]) := by
    intro operation nothing kept same
    rw [tally_of_neither ctx nothing kept, same]
    simp
  by_cases writes : operation.writesTable = true
  · obtain ⟨table, -, after⟩ := transmitter.exists_table_of_writesTable writes
    have idle : (transmitter.moment operation).isCall ctx = false ∧
        (transmitter.moment operation).gaveUp ctx = false := by
      cases operation <;> first | exact ⟨rfl, rfl⟩ | cases writes
    exact silent _ (Moment.sent?_of_isCall_eq_false idle.1) idle.2 (by rw [after])
  · cases operation with
    | process owner buffer => exact transmitter.get?_stats_tryProcess ctx owner buffer
    | recordAbort owner =>
      by_cases mine : owner = ctx
      · subst mine
        have entered : (transmitter.moment (.recordAbort owner : Operation β)).gaveUp owner =
            true := decide_eq_true rfl
        rw [tally_of_gaveUp owner rfl entered]
        simp only [← Counters.recordAbort_eq]
        exact StatsStore.get?_recordAbort_self _ _
      · have kept : (transmitter.moment (.recordAbort owner : Operation β)).gaveUp ctx = false :=
          decide_eq_false mine
        rw [tally_of_neither ctx rfl kept]
        simp only [Counters.add_zero, Option.map_id']
        exact StatsStore.get?_recordAbort_of_ne _ _ (Ne.symm mine)
    | setCursor owner value =>
      refine silent _ rfl rfl ?_
      rw [perform_setCursor]
    | resetCursors => exact silent _ rfl rfl rfl
    | resetStats => cases kept
    | _ => exact absurd rfl writes

theorem get?_stats_perform_of_isReset {operation : Operation β}
    (h : (transmitter.moment operation).isReset = true) :
    PerContext.get? (transmitter.perform operation).2.stats ctx =
      (PerContext.get? transmitter.stats ctx).map fun _ => Counters.zero := by
  cases operation with
  | resetStats => exact StatsStore.get?_reset _ _
  | _ => cases h

/-- At the end of a history a record holds what was entered since the last reset, on top of what it
held at the beginning if there was none. -/
theorem get?_stats_after (history : List (Operation β)) :
    PerContext.get? (transmitter.after history).stats ctx =
      (PerContext.get? transmitter.stats ctx).map fun record =>
        (if (transmitter.trace history).any Moment.isReset then Counters.zero else record) +
          tally ctx (sinceReset (transmitter.trace history)) := by
  -- The last operation is the one that may cut off what was entered before.
  induction history using List.reverseRecOn with
  | nil =>
    have nothing : tally ctx (sinceReset (transmitter.trace ([] : List (Operation β)))) = .zero :=
      rfl
    rw [nothing]
    simp [trace]
  | append_singleton early last ih =>
    have single : (transmitter.after early).trace [last] =
        [(transmitter.after early).moment last] := rfl
    rw [after_append, trace_append, single, List.any_append]
    simp only [after_cons, after_nil]
    unfold sinceReset at ih ⊢
    cases kept : ((transmitter.after early).moment last).isReset with
    | false =>
      rw [get?_stats_perform _ _ kept, ih, List.rtakeWhile_concat_pos _ _ _ (by simp [kept]),
        tally_append]
      simp only [Option.map_map, Function.comp_def, Counters.add_assoc, List.any_cons, kept,
        List.any_nil, Bool.or_false]
    | true =>
      rw [get?_stats_perform_of_isReset _ _ kept, ih,
        List.rtakeWhile_concat_neg _ _ _ (by simp [kept])]
      simp only [Option.map_map, Function.comp_def, List.any_cons, kept, Bool.true_or, Bool.or_true,
        if_true]
      rfl

variable {transmitter ctx} in
theorem result_eq_ok {buffer : β} {sent : Transmitted}
    (h : (transmitter.tryProcess ctx buffer).result = .ok sent) :
    (PerContext.get? transmitter.stats ctx).isSome ∧
      sent.length = FrameBuffer.length (transmitter.tryProcess ctx buffer).buffer ∧
      ∃ template written, transmitter.table.lookup sent.index = some template ∧
        overwrite template buffer = (.ok written, (transmitter.tryProcess ctx buffer).buffer) := by
  have ending := transmitter.ending_tryProcess ctx buffer
  generalize transmitter.tryProcess ctx buffer = attempt at h ending ⊢
  cases ending with
  | empty => cases h
  | failed => cases h
  | unrecorded => cases h
  | sent slot writing record =>
    cases h
    exact ⟨by rw [record]; rfl, rfl, _, _, slot, writing⟩

/-- Whatever a history does, every record counts the frames and bytes that its context sent and the
frames that it gave up since the last reset.  Only contexts with a record send.  What is counted
for a frame is its length between the bounds of the buffer, if the buffer counts no other one; it
covers the template, and in a packet buffer it is the template's length. -/
theorem records_balance
    (steady : ∀ (buffer : β) (bytes : ByteArray),
      FrameBuffer.bounds (FrameBuffer.setFrame buffer bytes) = FrameBuffer.bounds buffer)
    (plain : ∀ buffer : β, FrameBuffer.length buffer = (FrameBuffer.bounds buffer).length)
    (transmitter : Transmitter) (history : List (Operation (PacketBuffer ⊕ β))) :
    let trace := transmitter.trace history
    let last := transmitter.after history
    (∀ ctx record, PerContext.get? transmitter.stats ctx = some record →
      PerContext.get? last.stats ctx =
        some ((if trace.any Moment.isReset then .zero else record) +
          tally ctx (sinceReset trace))) ∧
    (∀ moment ∈ trace, ∀ ctx buffer sent left,
      moment.operation = .process ctx buffer → moment.answer = .processed (.ok sent) left →
      (PerContext.get? transmitter.stats ctx).isSome ∧
      sent.length = (FrameBuffer.bounds left).length ∧
      ∃ template, moment.before.table.lookup sent.index = some template ∧
        template.effectiveLength ≤ sent.length.toNat ∧
        ∀ packet, buffer = .inl packet → sent.length.toNat = template.effectiveLength) ∧
    last.totals = ⟨UInt64.ofNat (last.stats.toList.map (·.packets.toNat)).sum,
      UInt64.ofNat (last.stats.toList.map (·.bytes.toNat)).sum,
      UInt64.ofNat (last.stats.toList.map (·.aborted.toNat)).sum⟩ := by
  intro trace last
  refine ⟨?_, ?_, StatsStore.total_eq_sum _⟩
  · intro ctx record held
    rw [get?_stats_after, held]
    rfl
  · intro moment met ctx buffer sent left operation answer
    obtain ⟨early, operation', late, -, rfl⟩ := eq_moment_of_mem_trace met
    cases operation
    injection answer with outcome rest
    obtain ⟨recorded, length, template, written, slot, writing⟩ := result_eq_ok outcome
    have plain' : ∀ buffer : PacketBuffer ⊕ β,
        FrameBuffer.length buffer = (FrameBuffer.bounds buffer).length := by
      intro buffer
      cases buffer with
      | inl packet => rfl
      | inr other => exact plain other
    rw [plain', rest] at length
    rw [rest] at writing
    rw [get?_stats_after, Option.isSome_map] at recorded
    have steady' : ∀ (buffer : PacketBuffer ⊕ β) (bytes : ByteArray),
        FrameBuffer.bounds (FrameBuffer.setFrame buffer bytes) = FrameBuffer.bounds buffer := by
      intro buffer bytes
      cases buffer with
      | inl packet => exact LawfulFrameBuffer.bounds_setFrame packet bytes
      | inr other => exact steady other bytes
    refine ⟨recorded, length, template, slot, ?_, ?_⟩
    · rw [length]
      exact effectiveLength_le_length_of_overwrite steady' writing
    · rintro packet rfl
      rw [overwrite_inl] at writing
      injection writing with done filled
      rw [length, ← filled]
      exact (PacketBuffer.toNat_length _).trans
        (PacketBuffer.length_of_overwrite (Prod.ext done rfl))

/-- One context over a table of one slot, which holds a template of two bytes. -/
def oneSlot : Transmitter :=
  .forContexts
    ⟨#[some ⟨2, Template.pad [40, 41], Template.size_pad (by decide)⟩], by decide, by decide⟩ 1

/-- Two frames are sent from an empty buffer that grows by three bytes too many.  The reset comes
between them, and behind it a buffer with its bounds the wrong way round takes no frame. -/
def resetBetween : List (Operation (PacketBuffer ⊕ FaultyBuffer)) :=
  [.process ⟨0⟩ (.inr ⟨.empty, ⟨0, 0⟩, none, 3, .comply⟩), .recordAbort ⟨0⟩, .resetStats,
    .process ⟨0⟩ (.inr ⟨.empty, ⟨0, 0⟩, none, 3, .comply⟩),
    .process ⟨0⟩ (.inr ⟨.empty, ⟨9, 4⟩, none, 0, .ignore⟩), .recordAbort ⟨0⟩]

theorem records_balance_resetBetween :
    (∀ (buffer : FaultyBuffer) (bytes : ByteArray),
      FrameBuffer.bounds (FrameBuffer.setFrame buffer bytes) = FrameBuffer.bounds buffer) ∧
    (∀ buffer : FaultyBuffer,
      FrameBuffer.length buffer = (FrameBuffer.bounds buffer).length) ∧
    PerContext.get? (oneSlot.after resetBetween).stats ⟨0⟩ = some ⟨1, 5, 1⟩ := by
  have steady : ∀ (buffer : FaultyBuffer) (bytes : ByteArray),
      FrameBuffer.bounds (FrameBuffer.setFrame buffer bytes) = FrameBuffer.bounds buffer :=
    LawfulFrameBuffer.bounds_setFrame
  have plain : ∀ buffer : FaultyBuffer,
      FrameBuffer.length buffer = (FrameBuffer.bounds buffer).length := fun _ => rfl
  obtain ⟨records, -⟩ := records_balance steady plain oneSlot resetBetween
  have cut : (oneSlot.trace resetBetween).any Moment.isReset = true := by decide +kernel
  have entered : tally ⟨0⟩ (sinceReset (oneSlot.trace resetBetween)) = ⟨1, 5, 1⟩ := by
    decide +kernel
  have held := records ⟨0⟩ .zero rfl
  rw [cut, entered] at held
  exact ⟨steady, plain, held⟩

end Transmitter

end FrameReplay
