import Mathlib.Tactic.ByContra
import FrameReplay.History
import FrameReplay.Proofs.Attempt

/-!
# Traces

The trace of a history shows every operation at the moment when it is carried out: the transmitter
that it meets, and what it answers.  Whatever is counted along a history is counted on its trace.
-/

namespace FrameReplay

/-- An operation at the moment when it is carried out. -/
structure Moment (β : Type) where
  /-- The transmitter that the operation meets. -/
  before : Transmitter
  operation : Operation β
  answer : Answer β

namespace Moment

variable {β : Type}

/-- A context processes a frame. -/
def isCall (ctx : ContextId) (moment : Moment β) : Bool :=
  match moment.operation with
  | .process c _ => c = ctx
  | _ => false

/-- What a context sends at this moment. -/
def sent? (ctx : ContextId) (moment : Moment β) : Option Transmitted :=
  match moment.operation, moment.answer with
  | .process c _, .processed (.ok sent) _ => if c = ctx then some sent else none
  | _, _ => none

theorem exists_of_isCall {ctx : ContextId} {moment : Moment β} (h : moment.isCall ctx = true) :
    ∃ buffer, moment.operation = .process ctx buffer := by
  unfold isCall at h
  split at h
  · rename_i owner buffer operation
    exact ⟨buffer, by rw [operation, of_decide_eq_true h]⟩
  · cases h

theorem sent?_eq_some {ctx : ContextId} {moment : Moment β} {sent : Transmitted}
    (h : moment.sent? ctx = some sent) : ∃ buffer left,
      moment.operation = .process ctx buffer ∧ moment.answer = .processed (.ok sent) left := by
  unfold sent? at h
  split at h
  · rename_i c buffer sent' left operation answer
    by_cases mine : c = ctx
    · rw [if_pos mine] at h
      cases h
      exact ⟨buffer, left, mine ▸ operation, answer⟩
    · rw [if_neg mine] at h
      cases h
  · cases h

theorem sent?_of_isCall_eq_false {ctx : ContextId} {moment : Moment β}
    (h : moment.isCall ctx = false) : moment.sent? ctx = none := by
  by_contra some
  obtain ⟨sent, some⟩ := Option.ne_none_iff_exists'.1 some
  obtain ⟨buffer, left, operation, -⟩ := sent?_eq_some some
  unfold isCall at h
  rw [operation] at h
  exact absurd h (by simp)

end Moment

namespace Transmitter

variable {β : Type} [FrameBuffer β]

def moment (transmitter : Transmitter) (operation : Operation β) : Moment β :=
  ⟨transmitter, operation, (transmitter.perform operation).1⟩

/-- The operations of a history in order, each at its moment. -/
def trace (transmitter : Transmitter) : List (Operation β) → List (Moment β)
  | [] => []
  | operation :: history =>
    transmitter.moment operation :: (transmitter.perform operation).2.trace history

theorem trace_append (transmitter : Transmitter) (early late : List (Operation β)) :
    transmitter.trace (early ++ late) =
      transmitter.trace early ++ (transmitter.after early).trace late := by
  induction early generalizing transmitter with
  | nil => rfl
  | cons operation early ih =>
    rw [List.cons_append, trace, trace, ih, after_cons, List.cons_append]

/-- A moment of a history comes after some operations and before others. -/
theorem eq_moment_of_mem_trace {transmitter : Transmitter} {history : List (Operation β)}
    {moment : Moment β} (h : moment ∈ transmitter.trace history) :
    ∃ early operation late, history = early ++ operation :: late ∧
      moment = (transmitter.after early).moment operation := by
  induction history generalizing transmitter with
  | nil => cases h
  | cons operation history ih =>
    rcases List.mem_cons.1 h with rfl | later
    · exact ⟨[], operation, history, rfl, rfl⟩
    · obtain ⟨early, operation', late, split, rfl⟩ := ih later
      exact ⟨operation :: early, operation', late, by rw [split]; rfl, rfl⟩

theorem sent?_moment (transmitter : Transmitter) (ctx : ContextId) (buffer : β) :
    (transmitter.moment (.process ctx buffer)).sent? ctx =
      (transmitter.tryProcess ctx buffer).result.toOption := by
  unfold moment perform Moment.sent?
  cases outcome : (transmitter.tryProcess ctx buffer).result with
  | ok sent => simp only [outcome, if_true, Except.toOption]
  | error reason => simp only [outcome, Except.toOption]

/-- A refused operation leaves everything as it was. -/
theorem perform_of_refused {transmitter : Transmitter} {operation : Operation β}
    {error : ControlError} (h : (transmitter.perform operation).1 = .refused error) :
    (transmitter.perform operation).2 = transmitter := by
  -- Whatever the control plane answers goes through `answerControl`; other answers are no refusal.
  have control : ∀ outcome : Except ControlError Transmitter,
      (transmitter.answerControl (β := β) outcome).1 = .refused error →
        (transmitter.answerControl (β := β) outcome).2 = transmitter := by
    intro outcome h
    cases outcome with
    | ok next => cases h
    | error refusal => rfl
  cases operation with
  | process ctx buffer => cases h
  | recordAbort ctx => cases h
  | install templates =>
    unfold perform at h ⊢
    cases outcome : transmitter.install templates with
    | ok installed => simp only [outcome] at h; cases h
    | error refusal => simp only [outcome]
  | replace index template => exact control _ h
  | clear index => exact control _ h
  | store index template => cases h
  | unset index => cases h
  | setCursor ctx value => exact control _ h
  | resetCursors => cases h
  | resetStats => cases h

end Transmitter

end FrameReplay
