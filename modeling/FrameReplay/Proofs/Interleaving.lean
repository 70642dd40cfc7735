import FrameReplay.Buffer.Faulty
import FrameReplay.History
import FrameReplay.Proofs.Attempt

/-!
# Interleavings

Contexts work side by side, each on buffers of its own, while nobody writes to the table.  A script
is one order in which their calls happen.  What a context sees of a script is what it would see if
it worked alone (`run_alone`), so any two orders of the same calls come to the same.
-/

namespace FrameReplay

/-- What a context does by itself.  It has many buffers, each under a name. -/
inductive ContextCall (κ β : Type) where
  /-- The frame in a buffer is processed. -/
  | process (name : κ)
  /-- Something else is done to a buffer, such as loading a frame. -/
  | change (name : κ) (f : β → β)
  /-- A frame is counted as given up. -/
  | recordAbort
  /-- The cursor is set. -/
  | setCursor (value : UInt32)

/-- A transmitter and the buffers of all contexts. -/
structure Workplace (κ β : Type) where
  /-- What the contexts share. -/
  transmitter : Transmitter
  /-- What each context has for itself. -/
  buffers : ContextId → κ → β

/-- The part of a script, or of its answers, that belongs to one context. -/
def own {α : Type} (ctx : ContextId) (script : List (ContextId × α)) : List (ContextId × α) :=
  script.filter (·.1 = ctx)

theorem own_cons_self {α : Type} (ctx : ContextId) (item : α) (script : List (ContextId × α)) :
    own ctx ((ctx, item) :: script) = (ctx, item) :: own ctx script :=
  List.filter_cons_of_pos (decide_eq_true rfl)

theorem own_cons_of_ne {α : Type} {ctx other : ContextId} (h : other ≠ ctx) (item : α)
    (script : List (ContextId × α)) : own ctx ((other, item) :: script) = own ctx script :=
  List.filter_cons_of_neg (by simpa using h)

namespace Workplace

variable {κ β : Type} [DecidableEq κ] [FrameBuffer β]

/-- Puts a buffer in the place of another one. -/
def put (place : Workplace κ β) (ctx : ContextId) (name : κ) (buffer : β) : Workplace κ β :=
  { place with
    buffers := fun c n => if c = ctx ∧ n = name then buffer else place.buffers c n }

/-- Carries out one call of a context. -/
def perform (place : Workplace κ β) (ctx : ContextId) :
    ContextCall κ β → Answer β × Workplace κ β
  | .process name =>
    let attempt := place.transmitter.tryProcess ctx (place.buffers ctx name)
    (.processed attempt.result attempt.buffer,
      { place.put ctx name attempt.buffer with transmitter := attempt.transmitter })
  | .change name f => (.done, place.put ctx name (f (place.buffers ctx name)))
  | .recordAbort => (.done, { place with transmitter := place.transmitter.recordAbort ctx })
  | .setCursor value =>
    let (answer, transmitter) :=
      place.transmitter.answerControl (place.transmitter.setCursor ctx value)
    (answer, { place with transmitter })

/-- The workplace after a script. -/
def after (place : Workplace κ β) : List (ContextId × ContextCall κ β) → Workplace κ β
  | [] => place
  | (ctx, call) :: script => (place.perform ctx call).2.after script

/-- What the calls of a script answer, in order. -/
def answers (place : Workplace κ β) :
    List (ContextId × ContextCall κ β) → List (ContextId × Answer β)
  | [] => []
  | (ctx, call) :: script =>
    (ctx, (place.perform ctx call).1) :: (place.perform ctx call).2.answers script

/-- Two workplaces that look the same to a context. -/
structure Agree (ctx : ContextId) (a b : Workplace κ β) : Prop where
  transmitter : a.transmitter.Agree ctx b.transmitter
  buffers : a.buffers ctx = b.buffers ctx

omit [DecidableEq κ] [FrameBuffer β] in
theorem Agree.refl (ctx : ContextId) (place : Workplace κ β) : Agree ctx place place :=
  ⟨.refl _ _, rfl⟩

omit [DecidableEq κ] [FrameBuffer β] in
theorem Agree.trans {ctx : ContextId} {a b c : Workplace κ β} (ab : Agree ctx a b)
    (bc : Agree ctx b c) : Agree ctx a c :=
  ⟨ab.transmitter.trans bc.transmitter, ab.buffers.trans bc.buffers⟩

omit [DecidableEq κ] [FrameBuffer β] in
theorem Agree.symm {ctx : ContextId} {a b : Workplace κ β} (ab : Agree ctx a b) : Agree ctx b a :=
  ⟨ab.transmitter.symm, ab.buffers.symm⟩

end Workplace

/-! ## One call -/

namespace Transmitter

variable {β : Type} {ctx other : ContextId}

theorem agree_setCursor (transmitter : Transmitter) (value : UInt32) (h : other ≠ ctx) :
    Agree other (transmitter.answerControl (β := β) (transmitter.setCursor ctx value)).2
      transmitter := by
  unfold setCursor SequenceCursor.set?
  cases cell : transmitter.cursor.raw? ctx with
  | none =>
    simp only [answerControl]
    exact .refl _ _
  | some stored =>
    simp only [answerControl]
    exact ⟨rfl, rfl, PerContext.get?_update_of_ne _ _ _ h, rfl⟩

theorem Agree.setCursor {a b : Transmitter} (same : Agree ctx a b) (value : UInt32) :
    (a.answerControl (β := β) (a.setCursor ctx value)).1 =
      (b.answerControl (β := β) (b.setCursor ctx value)).1 ∧
    Agree ctx (a.answerControl (β := β) (a.setCursor ctx value)).2
      (b.answerControl (β := β) (b.setCursor ctx value)).2 := by
  unfold Transmitter.setCursor SequenceCursor.set?
  rw [same.cell]
  cases cell : b.cursor.raw? ctx with
  | none =>
    simp only [answerControl]
    exact ⟨trivial, same⟩
  | some stored =>
    simp only [answerControl]
    refine ⟨trivial, same.table, same.capacity, ?_, same.record⟩
    unfold SequenceCursor.raw?
    rw [PerContext.get?_update_self, PerContext.get?_update_self]
    exact congrArg _ same.cell

end Transmitter

namespace Workplace

variable {κ β : Type} [DecidableEq κ] [FrameBuffer β] {ctx other : ContextId}

omit [FrameBuffer β] in
theorem buffers_put_of_ne (place : Workplace κ β) (name : κ) (buffer : β) (h : other ≠ ctx) :
    (place.put ctx name buffer).buffers other = place.buffers other := by
  funext n
  exact if_neg fun e => h e.1

omit [FrameBuffer β] in
theorem Agree.buffers_put {a b : Workplace κ β} (same : Agree ctx a b) (name : κ) (buffer : β) :
    (a.put ctx name buffer).buffers ctx = (b.put ctx name buffer).buffers ctx := by
  funext n
  unfold put
  simp only [same.buffers]

/-- A call of one context changes nothing that another context can see. -/
theorem agree_perform (place : Workplace κ β) (call : ContextCall κ β) (h : other ≠ ctx) :
    Agree other (place.perform ctx call).2 place := by
  cases call with
  | process name => exact ⟨Transmitter.agree_tryProcess _ h, buffers_put_of_ne _ _ _ h⟩
  | change name f => exact ⟨.refl _ _, buffers_put_of_ne _ _ _ h⟩
  | recordAbort => exact ⟨Transmitter.agree_recordAbort h, rfl⟩
  | setCursor value => exact ⟨Transmitter.agree_setCursor _ _ h, rfl⟩

/-- A call answers the same in workplaces that look the same to its context, and they look the
same to it afterwards. -/
theorem Agree.perform {a b : Workplace κ β} (same : Agree ctx a b) (call : ContextCall κ β) :
    (a.perform ctx call).1 = (b.perform ctx call).1 ∧
    Agree ctx (a.perform ctx call).2 (b.perform ctx call).2 := by
  cases call with
  | process name =>
    obtain ⟨result, buffer, after⟩ := same.transmitter.tryProcess (a.buffers ctx name)
    unfold Workplace.perform
    rw [← same.buffers]
    simp only [result, buffer]
    exact ⟨trivial, after, same.buffers_put _ _⟩
  | change name f =>
    unfold Workplace.perform
    rw [← same.buffers]
    exact ⟨rfl, same.transmitter, same.buffers_put _ _⟩
  | recordAbort => exact ⟨rfl, same.transmitter.recordAbort, same.buffers⟩
  | setCursor value =>
    obtain ⟨answer, after⟩ := same.transmitter.setCursor (β := β) value
    exact ⟨answer, after, same.buffers⟩

/-! ## Whole scripts -/

/-- A context gets the same answers, and is left with the same cells and buffers, whether the
others work in between or not. -/
theorem run_alone {a b : Workplace κ β} (same : Agree ctx a b)
    (script : List (ContextId × ContextCall κ β)) :
    own ctx (a.answers script) = b.answers (own ctx script) ∧
    Agree ctx (a.after script) (b.after (own ctx script)) := by
  induction script generalizing a b with
  | nil => exact ⟨rfl, same⟩
  | cons step script ih =>
    obtain ⟨c, call⟩ := step
    by_cases mine : c = ctx
    · subst mine
      obtain ⟨answer, next⟩ := same.perform call
      obtain ⟨answers, last⟩ := ih next
      simp only [Workplace.answers, Workplace.after, own_cons_self]
      rw [answer, answers]
      exact ⟨rfl, last⟩
    · -- The call belongs to someone else: it leaves what `ctx` sees, and the lone run skips it.
      obtain ⟨answers, last⟩ := ih ((agree_perform a call (Ne.symm mine)).trans same)
      simp only [Workplace.answers, Workplace.after, own_cons_of_ne mine]
      exact ⟨answers, last⟩

/-- Two orders of the same calls give every context the same answers and leave it with the same
cursor cell, record and buffers, namely those that it gets when it works alone.  No call changes
what another context sees. -/
theorem interleavings_agree (place : Workplace κ β)
    (first second : List (ContextId × ContextCall κ β))
    (same : ∀ ctx, own ctx first = own ctx second) :
    (∀ ctx,
      own ctx (place.answers first) = own ctx (place.answers second) ∧
      own ctx (place.answers first) = place.answers (own ctx first) ∧
      Agree ctx (place.after first) (place.after second) ∧
      Agree ctx (place.after first) (place.after (own ctx first))) ∧
    ∀ (now : Workplace κ β) (ctx : ContextId) (call : ContextCall κ β) (other : ContextId),
      other ≠ ctx → Agree other (now.perform ctx call).2 now := by
  refine ⟨fun ctx => ?_, fun now ctx call other h => agree_perform now call h⟩
  obtain ⟨answers, last⟩ := run_alone (Agree.refl ctx place) first
  obtain ⟨answers', last'⟩ := run_alone (Agree.refl ctx place) second
  rw [← same ctx] at answers' last'
  exact ⟨answers.trans answers'.symm, answers, last.trans last'.symm, last⟩

/-- Two contexts with two buffers each, over a table of two slots, which hold templates of one byte
and of three.  The buffers add a byte to all that is asked of them. -/
def twoContexts : Workplace Bool FaultyBuffer where
  transmitter := .forContexts
    ⟨#[some ⟨1, Template.pad [40], Template.size_pad (by decide)⟩,
      some ⟨3, Template.pad [50, 51, 52], Template.size_pad (by decide)⟩], by decide, by decide⟩ 2
  buffers _ _ := ⟨.empty, ⟨0, 0⟩, none, 1, .comply⟩

/-- One context sends both templates, the other one skips the first of them. -/
theorem interleavings_agree_twoContexts :
    let send (ctx : ContextId) (name : Bool) : ContextId × ContextCall Bool FaultyBuffer :=
      (ctx, .process name)
    let skip : ContextId × ContextCall Bool FaultyBuffer := (⟨1⟩, .setCursor 1)
    let first := [send ⟨0⟩ true, skip, send ⟨0⟩ false, send ⟨1⟩ true]
    let second := [skip, send ⟨1⟩ true, send ⟨0⟩ true, send ⟨0⟩ false]
    (∀ ctx, own ctx first = own ctx second) ∧
    PerContext.get? (twoContexts.after first).transmitter.stats ⟨0⟩ = some ⟨2, 6, 0⟩ ∧
    PerContext.get? (twoContexts.after second).transmitter.stats ⟨1⟩ = some ⟨1, 4, 0⟩ ∧
    ∀ ctx, own ctx (twoContexts.answers first) = own ctx (twoContexts.answers second) ∧
      own ctx (twoContexts.answers first) = twoContexts.answers (own ctx first) ∧
      Agree ctx (twoContexts.after first) (twoContexts.after second) := by
  intro send skip first second
  have same : ∀ ctx, own ctx first = own ctx second := by
    intro ctx
    by_cases one : (⟨0⟩ : ContextId) = ctx
    · subst one
      rfl
    · by_cases other : (⟨1⟩ : ContextId) = ctx
      · subst other
        rfl
      · simp [own, first, second, send, skip, one, other]
  have sent : PerContext.get? (twoContexts.after first).transmitter.stats ⟨0⟩ =
      some ⟨2, 6, 0⟩ := by decide +kernel
  have skipped : PerContext.get? (twoContexts.after second).transmitter.stats ⟨1⟩ =
      some ⟨1, 4, 0⟩ := by decide +kernel
  refine ⟨same, sent, skipped, fun ctx => ?_⟩
  obtain ⟨answers, alone, last, -⟩ := (interleavings_agree twoContexts _ _ same).1 ctx
  exact ⟨answers, alone, last⟩

end Workplace

end FrameReplay
