import FrameReplay.Buffer.Faulty
import FrameReplay.Proofs.LengthDifference
import FrameReplay.Proofs.SafeOverwrite

/-!
# The resize that is asked for

An overwrite asks a buffer for at most one resize, and asks before it writes.  The bounds that the
buffer reports may be any two words.  For almost all of them the request is the difference of the
lengths, or there is none if the difference does not fit 32 bits; lengths close below 2^64 are the
exception (`overwrite_requests`).
-/

namespace FrameReplay

section

variable {β : Type} [FrameBuffer β] (template : Template)

/-- Copying asks for nothing. -/
theorem requests_copyFrame (watched : Watched β) :
    (copyFrame template watched).2.requests = watched.requests := by
  unfold copyFrame
  simp only
  split <;> rfl

theorem requests_overwrite (watched : Watched β) :
    (overwrite template watched).2.requests =
      (resizeTo template.effectiveLength watched).2.requests := by
  unfold overwrite
  rcases resizeTo template.effectiveLength watched with ⟨_ | done, resized⟩
  · rfl
  · simp only
    split
    · exact requests_copyFrame template resized
    · rfl

variable (buffer : β)

theorem overwrite_of_unfit
    (other : (FrameBuffer.bounds buffer).length.toNat ≠ template.effectiveLength)
    (unfit : resizeDelta? (FrameBuffer.bounds buffer).length template.effectiveLength = none) :
    overwrite template (Watched.fresh buffer) =
      (.error (.deltaOverflow (FrameBuffer.bounds buffer).length template.effectiveLength),
        Watched.fresh buffer) := by
  unfold overwrite
  rw [resizeTo_of_none (Watched.fresh buffer) other unfit]
  rfl

theorem requests_of_found
    (other : (FrameBuffer.bounds buffer).length.toNat ≠ template.effectiveLength) {delta : Int32}
    (found :
      resizeDelta? (FrameBuffer.bounds buffer).length template.effectiveLength = some delta) :
    (overwrite template (Watched.fresh buffer)).2.requests = [delta] := by
  rw [requests_overwrite, resizeTo_of_some (Watched.fresh buffer) other found]
  rfl

/-- Once a resize is asked for, no error speaks of a difference that does not fit. -/
theorem answer_of_found
    (other : (FrameBuffer.bounds buffer).length.toNat ≠ template.effectiveLength) {delta : Int32}
    (found : resizeDelta? (FrameBuffer.bounds buffer).length template.effectiveLength = some delta)
    (current : UInt64) (target : Nat) :
    (overwrite template (Watched.fresh buffer)).1 ≠ .error (.deltaOverflow current target) := by
  unfold overwrite
  rw [resizeTo_of_some (Watched.fresh buffer) other found]
  -- The resize is refused, the bounds are found too narrow, or the copy is reached.
  rcases FrameBuffer.adjustTail (Watched.fresh buffer) delta with ⟨refusal | done, resized⟩
  · exact nofun
  · simp only [Except.mapError]
    split
    · unfold copyFrame
      simp only
      split <;> exact nofun
    · exact nofun

section

variable (other : (FrameBuffer.bounds buffer).length.toNat ≠ template.effectiveLength)

include other

/-- A difference that fits is asked for as it is. -/
theorem asks_of_near
    (near : (FrameBuffer.bounds buffer).length.toNat ≤ template.effectiveLength + 2147483648) :
    (∃ delta, (overwrite template (Watched.fresh buffer)).2.requests = [delta] ∧
      delta.toInt = (template.effectiveLength : Int) - (FrameBuffer.bounds buffer).length.toNat) ∧
    ∀ current required,
      (overwrite template (Watched.fresh buffer)).1 ≠ .error (.deltaOverflow current required) := by
  have short : template.effectiveLength ≤ 2048 := Nat.min_le_right _ _
  obtain ⟨delta, found, exact⟩ := resizeDelta?_of_near (by omega) near
  exact ⟨⟨delta, requests_of_found template buffer other found, exact⟩,
    answer_of_found template buffer other found⟩

/-- A difference that does not fit is refused. -/
theorem refuses_of_far
    (far : template.effectiveLength + 2147483648 < (FrameBuffer.bounds buffer).length.toNat)
    (below : (FrameBuffer.bounds buffer).length.toNat + 2147483648 ≤
      18446744073709551616 + template.effectiveLength) :
    overwrite template (Watched.fresh buffer) =
      (.error (.deltaOverflow (FrameBuffer.bounds buffer).length template.effectiveLength),
        Watched.fresh buffer) := by
  have short : template.effectiveLength ≤ 2048 := Nat.min_le_right _ _
  exact overwrite_of_unfit template buffer other (resizeDelta?_of_far (by omega) far below)

/-- Close below 2^64 a growth is asked for where the frame has to shrink. -/
theorem asks_of_wrapped
    (beyond : 18446744073709551616 + template.effectiveLength <
      (FrameBuffer.bounds buffer).length.toNat + 2147483648) :
    ∃ delta, (overwrite template (Watched.fresh buffer)).2.requests = [delta] ∧
      delta.toInt = (template.effectiveLength : Int) - (FrameBuffer.bounds buffer).length.toNat +
        18446744073709551616 := by
  have short : template.effectiveLength ≤ 2048 := Nat.min_le_right _ _
  obtain ⟨delta, found, exact⟩ := resizeDelta?_of_wrapped (by omega) beyond
  exact ⟨delta, requests_of_found template buffer other found, exact⟩

end

end

/-- An overwrite of a frame whose reported length is not the template's asks the buffer for one
resize, by exactly the difference of the lengths, if that fits 32 bits, and otherwise refuses and
leaves the buffer alone; it never asks for a growth of a frame that has to shrink, or the reverse.
This holds of all lengths that exceed the template's by 2^64 - 2^31 at most.  Of a longer frame it
asks a growth by the difference and 2^64, although the frame has to shrink. -/
theorem overwrite_requests {β : Type} [FrameBuffer β] (template : Template) (buffer : β) :
    let bounds := FrameBuffer.bounds buffer
    let length := bounds.stop.toNat - bounds.start.toNat
    let target := template.effectiveLength
    let difference : Int := target - length
    let fits := -2147483648 ≤ difference ∧ difference < 2147483648
    let wrapped := 18446744073709551616 + target < length + 2147483648
    let outcome := overwrite template (Watched.fresh buffer)
    length ≠ target →
    overwrite template buffer = (outcome.1, outcome.2.buffer) ∧
    (¬ wrapped →
      (fits → (∃ delta, outcome.2.requests = [delta] ∧ delta.toInt = difference) ∧
        ∀ current required, outcome.1 ≠ .error (.deltaOverflow current required)) ∧
      (¬ fits → outcome.1 = .error (.deltaOverflow bounds.length target) ∧
        outcome.2 = Watched.fresh buffer) ∧
      ∀ delta ∈ outcome.2.requests, (0 < delta.toInt ↔ length < target) ∧
        (delta.toInt < 0 ↔ target < length)) ∧
    (wrapped → target < length ∧ ∃ delta, outcome.2.requests = [delta] ∧
      delta.toInt = difference + 18446744073709551616 ∧ 0 < delta.toInt) := by
  intro bounds length target difference fits wrapped outcome other
  have short : target ≤ 2048 := Nat.min_le_right _ _
  have reported : (FrameBuffer.bounds buffer).length.toNat = length := Bounds.toNat_length bounds
  have bound := (FrameBuffer.bounds buffer).length.toNat_lt
  have plain : overwrite template buffer = (outcome.1, outcome.2.buffer) := by
    obtain ⟨requests, answer, after, -, -, plain, watched, -⟩ := overwrite_fresh template buffer
    rw [plain, show outcome = _ from watched]
  have near := asks_of_near template buffer (by rw [reported]; exact other)
  have far := refuses_of_far template buffer (by rw [reported]; exact other)
  have beyond := asks_of_wrapped template buffer (by rw [reported]; exact other)
  rw [reported] at near far beyond bound
  refine ⟨plain, fun regular => ?_, fun high => ?_⟩
  · by_cases close : length ≤ target + 2147483648
    · -- The difference fits, and its sign says which length is the greater.
      obtain ⟨⟨delta, asked, exact⟩, answered⟩ := near close
      have fit : fits := by
        show -2147483648 ≤ (target : Int) - length ∧ (target : Int) - length < 2147483648
        omega
      refine ⟨fun _ => ⟨⟨delta, asked, exact⟩, answered⟩, fun unfit => absurd fit unfit, ?_⟩
      intro requested mem
      rw [show outcome.2.requests = [delta] from asked, List.mem_singleton] at mem
      rw [mem, exact]
      omega
    · -- The difference does not fit, and nothing is asked for.
      have refused := far (by omega) (Nat.le_of_not_lt regular)
      have unfit : ¬ fits := by
        show ¬ (-2147483648 ≤ (target : Int) - length ∧ (target : Int) - length < 2147483648)
        omega
      have alone : outcome.2 = Watched.fresh buffer := congrArg Prod.snd refused
      refine ⟨fun fit => absurd fit unfit, fun _ => ⟨congrArg Prod.fst refused, alone⟩, ?_⟩
      intro requested mem
      rw [alone] at mem
      cases mem
  · obtain ⟨delta, asked, exact⟩ := beyond high
    have shrinks : target < length := by
      have high : 18446744073709551616 + target < length + 2147483648 := high
      omega
    refine ⟨shrinks, delta, asked, exact, ?_⟩
    rw [exact]
    omega

/-- The greatest shrink that fits is asked for, one byte more is refused, and close below 2^64 a
growth is asked for. -/
theorem overwrite_requests_shrinks :
    let template : Template := ⟨5, Template.pad [1, 2, 3, 4, 5], Template.size_pad (by decide)⟩
    let reporting (stop : UInt64) : FaultyBuffer := ⟨.empty, ⟨0, stop⟩, none, 0, .ignore⟩
    let asked (stop : UInt64) := (overwrite template (Watched.fresh (reporting stop))).2.requests
    (2147483653 ≠ 5 ∧ ∃ delta, asked 2147483653 = [delta] ∧ delta.toInt = -2147483648) ∧
    (2147483654 ≠ 5 ∧ asked 2147483654 = []) ∧
    (18446744071562067973 ≠ 5 ∧ asked 18446744071562067973 = []) ∧
    (18446744071562067974 ≠ 5 ∧
      ∃ delta, asked 18446744071562067974 = [delta] ∧ delta.toInt = 2147483647) := by
  intro template reporting asked
  refine ⟨⟨by decide, ?_⟩, ⟨by decide, ?_⟩, ⟨by decide, ?_⟩, by decide, ?_⟩
  · have law := (overwrite_requests template (reporting 2147483653) (by decide)).2.1 (by decide)
    exact (law.1 (by decide)).1
  · have law := (overwrite_requests template (reporting 2147483654) (by decide)).2.1 (by decide)
    exact congrArg Watched.requests (law.2.1 (by decide)).2
  · have law := (overwrite_requests template (reporting 18446744071562067973) (by decide)).2.1
      (by decide)
    exact congrArg Watched.requests (law.2.1 (by decide)).2
  · obtain ⟨-, delta, only, exact, -⟩ :=
      (overwrite_requests template (reporting 18446744071562067974) (by decide)).2.2 (by decide)
    exact ⟨delta, only, exact⟩

/-- A frame that reports 2^64 - 1 bytes and has to shrink to one is asked to grow by two. -/
theorem overwrite_asks_growth_to_shrink :
    let template : Template := ⟨1, Template.pad [1], Template.size_pad (by decide)⟩
    let buffer : FaultyBuffer := ⟨zeroBlock 1, ⟨0, 18446744073709551615⟩, none, 0, .fail⟩
    template.effectiveLength = 1 ∧
    (FrameBuffer.bounds buffer).length.toNat = 18446744073709551615 ∧
    (1 : Int) - 18446744073709551615 < -2147483648 ∧
    (overwrite template (Watched.fresh buffer)).2.requests = [2] ∧
    (overwrite template (Watched.fresh buffer)).1 = .error (.resize 2 (.noTailroom 2 0)) := by
  decide

end FrameReplay
