import FrameReplay.Buffer.Watched
import FrameReplay.Overwrite
import Mathlib.Data.List.GetD
import Mathlib.Tactic

/-!
# Overwriting any buffer

Nothing in the interface makes a buffer tell the truth: its bounds need not agree with its slice,
and its resize may do nothing, too much, or fail.  An overwrite is safe on it all the same
(`overwrite_safe`).  The copy is looked at octet by octet (`copyLoop`), so that every single write
has a place, and the copy in one piece is the same (`copyFrame_eq_copyLoop`).
-/

namespace FrameReplay

/-! ## Octet by octet -/

/-- What a copy octet by octet comes to. -/
structure Copied where
  answer : Except OverwriteError Nat
  /-- The slice afterwards. -/
  slice : Octets
  /-- The places written to, in order. -/
  places : List Nat

/-- Copies the template into the slice from `offset` on, one octet in each of `turns` turns at most,
and looks before each write whether the slice has that place. -/
def copyLoop (template : Template) (turns offset : Nat) (slice : Octets) : Copied :=
  match turns with
  | 0 => ⟨.ok template.effectiveLength, slice, []⟩
  | turns + 1 =>
    if template.effectiveLength ≤ offset then ⟨.ok template.effectiveLength, slice, []⟩
    else if offset < slice.length then
      let octet := (octets template.payload).getD offset 0
      let rest := copyLoop template turns (offset + 1) (slice.set offset octet)
      ⟨rest.answer, rest.slice, offset :: rest.places⟩
    else ⟨.error (.outOfBounds offset slice.length), slice, []⟩

section Copy

variable (template : Template) (slice : Octets)

/-- The slice when the first `offset` octets of the template are written. -/
def partCopied (offset : Nat) : Octets :=
  (octets template.payload).take offset ++ slice.drop offset

/-- How many octets are written before the template or the slice ends. -/
def copyLength : Nat := min template.effectiveLength slice.length

theorem effectiveLength_le_payload :
    template.effectiveLength ≤ (octets template.payload).length := by
  rw [length_octets, template.size_payload]
  exact Nat.min_le_right _ _

theorem length_partCopied {offset : Nat} (reached : offset ≤ copyLength template slice) :
    (partCopied template slice offset).length = slice.length := by
  have := effectiveLength_le_payload template
  unfold copyLength at reached
  unfold partCopied
  rw [List.length_append, List.length_take, List.length_drop]
  omega

/-- One write takes the copy one octet further. -/
theorem set_partCopied {offset : Nat} (reached : offset < copyLength template slice) :
    (partCopied template slice offset).set offset ((octets template.payload).getD offset 0) =
      partCopied template slice (offset + 1) := by
  have := effectiveLength_le_payload template
  unfold copyLength at reached
  have front : ((octets template.payload).take offset).length = offset :=
    List.length_take_of_le (by omega)
  unfold partCopied
  rw [List.set_append_right _ _ (by omega), front, Nat.sub_self,
    List.drop_eq_getElem_cons (show offset < slice.length by omega), List.set_cons_zero,
    List.take_succ_eq_append_getElem (by omega), List.getD_eq_getElem _ _ (by omega),
    List.append_assoc]
  rfl

/-- What the loop comes to in the end. -/
def copiedFrom (offset : Nat) : Copied where
  answer :=
    if template.effectiveLength ≤ slice.length then .ok template.effectiveLength
    else .error (.outOfBounds slice.length slice.length)
  slice := partCopied template slice (copyLength template slice)
  places := List.range' offset (copyLength template slice - offset)

/-- Where the template ends, nothing is left to do. -/
theorem copiedFrom_of_le {offset : Nat} (reached : offset ≤ copyLength template slice)
    (ended : template.effectiveLength ≤ offset) :
    copiedFrom template slice offset =
      ⟨.ok template.effectiveLength, partCopied template slice offset, []⟩ := by
  have stop : copyLength template slice = offset := by
    unfold copyLength at *
    omega
  unfold copiedFrom
  rw [if_pos (by unfold copyLength at reached; omega), stop, Nat.sub_self]
  rfl

/-- From any turn on the loop goes to the end of the template or of the slice, whichever comes
first, and says which. -/
theorem copyLoop_partCopied {turns offset : Nat} (reached : offset ≤ copyLength template slice)
    (enough : template.effectiveLength ≤ offset + turns) :
    copyLoop template turns offset (partCopied template slice offset) =
      copiedFrom template slice offset := by
  -- On the turns left: the slice has the first `offset` octets of the template at its front, and
  -- the write of this turn makes that `offset + 1`.
  induction turns generalizing offset with
  | zero => exact (copiedFrom_of_le template slice reached enough).symm
  | succ turns ih =>
    rw [copyLoop, length_partCopied template slice reached]
    by_cases ended : template.effectiveLength ≤ offset
    · rw [if_pos ended, copiedFrom_of_le template slice reached ended]
    · rw [if_neg ended]
      by_cases there : offset < slice.length
      · have further : offset < copyLength template slice := by
          unfold copyLength
          omega
        have rest := ih (show offset + 1 ≤ copyLength template slice from further) (by omega)
        have left : copyLength template slice - offset =
            copyLength template slice - (offset + 1) + 1 := by omega
        simp only [if_pos there, set_partCopied template slice further, rest, copiedFrom]
        rw [left, List.range'_succ]
      · have stop : copyLength template slice = offset := by
          unfold copyLength at *
          omega
        have short : slice.length = offset := by
          unfold copyLength at *
          omega
        rw [if_neg there]
        unfold copiedFrom
        rw [if_neg (by omega), stop, Nat.sub_self, short]
        rfl

/-- The whole loop over a slice. -/
theorem copyLoop_eq : copyLoop template templateSize 0 slice = copiedFrom template slice 0 :=
  copyLoop_partCopied template slice (Nat.zero_le _) (by
    rw [Nat.zero_add]
    exact Nat.min_le_right _ _)

/-- A slice that is long enough takes the whole template and keeps what is behind it. -/
theorem copyLoop_of_le (long : template.effectiveLength ≤ slice.length) :
    copyLoop template templateSize 0 slice =
      ⟨.ok template.effectiveLength, octets template.frame ++ slice.drop template.effectiveLength,
        List.range template.effectiveLength⟩ := by
  rw [copyLoop_eq, copiedFrom, if_pos long, copyLength, Nat.min_eq_left long, partCopied,
    ← template.octets_frame, Nat.sub_zero, ← List.range_eq_range']

/-- A slice that is too short is filled with the front of the template. -/
theorem copyLoop_of_lt (short : slice.length < template.effectiveLength) :
    copyLoop template templateSize 0 slice =
      ⟨.error (.outOfBounds slice.length slice.length),
        (octets template.frame).take slice.length, List.range slice.length⟩ := by
  rw [copyLoop_eq, copiedFrom, if_neg (Nat.not_le_of_lt short), copyLength,
    Nat.min_eq_right (Nat.le_of_lt short), partCopied, List.drop_length, List.append_nil,
    template.octets_frame, List.take_take, Nat.min_eq_left (Nat.le_of_lt short), Nat.sub_zero,
    ← List.range_eq_range']

/-- No write falls outside the slice, and there are no more than the payload has bytes. -/
theorem places_copyLoop :
    (∀ place ∈ (copyLoop template templateSize 0 slice).places, place < slice.length) ∧
      (copyLoop template templateSize 0 slice).places.length ≤ templateSize := by
  have short : template.effectiveLength ≤ templateSize := Nat.min_le_right _ _
  rw [copyLoop_eq]
  constructor
  · intro place written
    have written := List.mem_range'_1.1 written
    unfold copyLength at written
    omega
  · change (List.range' 0 (copyLength template slice - 0)).length ≤ _
    rw [List.length_range']
    unfold copyLength
    omega

end Copy

/-- Whether an overwrite that ends so never came to copying. -/
def OverwriteError.BeforeCopy : OverwriteError → Prop
  | .outOfBounds _ _ => False
  | _ => True

section Buffers

variable {β : Type} [FrameBuffer β] (template : Template) (buffer : β)

/-- The copy in one piece is the copy octet by octet. -/
theorem copyFrame_eq_copyLoop :
    copyFrame template buffer =
      let copied := copyLoop template templateSize 0 (octets (FrameBuffer.frame buffer))
      (copied.answer, FrameBuffer.setFrame buffer copied.slice.toByteArray) := by
  have size := length_octets (FrameBuffer.frame buffer)
  have payload := effectiveLength_le_payload template
  rw [length_octets] at payload
  have written : overlay (FrameBuffer.frame buffer) 0
      (template.payload.extract 0 (min template.effectiveLength (FrameBuffer.frame buffer).size)) =
      (copiedFrom template (octets (FrameBuffer.frame buffer)) 0).slice.toByteArray := by
    apply octets_inj
    unfold copiedFrom partCopied copyLength
    rw [octets_overlay, octets_extract, ByteArray.size_extract, size, List.take_zero,
      List.nil_append, List.drop_zero, Nat.sub_zero, Nat.zero_add,
      Nat.min_eq_left (by omega : min template.effectiveLength _ ≤ template.payload.size),
      octets_toByteArray, Nat.sub_zero]
  rw [copyLoop_eq]
  unfold copyFrame
  simp only [written]
  unfold copiedFrom
  rw [size]
  split <;> rfl

/-- The buffer that a list of resizes leaves, refused ones included. -/
def afterResizes (requests : List Int32) : β :=
  requests.foldl (fun buffer delta => (FrameBuffer.adjustTail buffer delta).2) buffer

/-- At most one resize is asked for, and none of a frame that has the length already.  Watching
changes nothing. -/
theorem resizeTo_fresh (target : Nat) :
    ∃ (requests : List Int32) (answer : Except OverwriteError Unit), requests.length ≤ 1 ∧
      ((FrameBuffer.bounds buffer).length.toNat = target → requests = []) ∧
      (∀ cause, answer = .error cause → cause.BeforeCopy) ∧
      resizeTo target buffer = (answer, afterResizes buffer requests) ∧
      resizeTo target (Watched.fresh buffer) =
        (answer, ⟨afterResizes buffer requests, requests⟩) := by
  by_cases same : (FrameBuffer.bounds buffer).length.toNat = target
  · exact ⟨[], .ok (), Nat.zero_le _, fun _ => rfl, nofun, resizeTo_of_same buffer same,
      resizeTo_of_same (Watched.fresh buffer) same⟩
  · cases found : resizeDelta? (FrameBuffer.bounds buffer).length target with
    | none =>
      refine ⟨[], _, Nat.zero_le _, fun _ => rfl, fun cause h => ?_,
        resizeTo_of_none buffer same found, resizeTo_of_none (Watched.fresh buffer) same found⟩
      cases h
      trivial
    | some delta =>
      refine ⟨[delta], _, Nat.le_refl _, fun equal => absurd equal same, fun cause h => ?_,
        resizeTo_of_some buffer same found, resizeTo_of_some (Watched.fresh buffer) same found⟩
      cases answer : (FrameBuffer.adjustTail buffer delta).1 with
      | ok =>
        rw [answer] at h
        cases h
      | error refusal =>
        rw [answer] at h
        cases h
        trivial

/-! ## The whole overwrite -/

theorem fits_effectiveLength_iff (bounds : Bounds) :
    bounds.fits (UInt64.ofNat template.effectiveLength) = true ↔
      bounds.start.toNat + template.effectiveLength ≤ bounds.stop.toNat := by
  have short : template.effectiveLength ≤ 2048 := Nat.min_le_right _ _
  change decide _ = true ↔ _
  rw [decide_eq_true_eq, UInt64.toNat_ofNat', Nat.mod_eq_of_lt (by omega)]

/-- Either the overwrite ends before it copies and the buffer is as the resize left it, or the
bounds hold the template and the copy octet by octet gives the rest. -/
theorem overwrite_fresh :
    ∃ (requests : List Int32) (answer : Except OverwriteError Nat) (after : β),
      requests.length ≤ 1 ∧
      ((FrameBuffer.bounds buffer).length.toNat = template.effectiveLength → requests = []) ∧
      overwrite template buffer = (answer, after) ∧
      overwrite template (Watched.fresh buffer) = (answer, ⟨after, requests⟩) ∧
      ((∃ cause : OverwriteError, cause.BeforeCopy ∧ answer = .error cause ∧
          after = afterResizes buffer requests) ∨
        (let resized := afterResizes buffer requests
        let copied := copyLoop template templateSize 0 (octets (FrameBuffer.frame resized))
        (FrameBuffer.bounds resized).start.toNat + template.effectiveLength ≤
            (FrameBuffer.bounds resized).stop.toNat ∧
          answer = copied.answer ∧
          after = FrameBuffer.setFrame resized copied.slice.toByteArray)) := by
  obtain ⟨requests, answer, few, same, early, plain, watched⟩ :=
    resizeTo_fresh buffer template.effectiveLength
  unfold overwrite
  rw [plain, watched]
  -- The resize fails, the bounds are found too narrow, or the copy is reached.
  cases answer with
  | error cause =>
    exact ⟨requests, _, _, few, same, rfl, rfl, .inl ⟨cause, early cause rfl, rfl, rfl⟩⟩
  | ok =>
    have bounds : FrameBuffer.bounds (Watched.mk (afterResizes buffer requests) requests) =
      FrameBuffer.bounds (afterResizes buffer requests) := rfl
    by_cases fits : (FrameBuffer.bounds (afterResizes buffer requests)).fits
      (UInt64.ofNat template.effectiveLength) = true
    · simp only [bounds, fits, if_true, copyFrame_eq_copyLoop]
      exact ⟨requests, _, _, few, same, rfl, rfl,
        .inr ⟨(fits_effectiveLength_iff template _).1 fits, rfl, rfl⟩⟩
    · simp only [bounds, if_neg fits]
      exact ⟨requests, _, _, few, same, rfl, rfl, .inl ⟨.shortFrame _ _, trivial, rfl, rfl⟩⟩

/-- `after` is `before` with `bytes` written into its slice: as many as the slice has, and shown
from then on by a buffer that keeps what is written into it. -/
def Wrote (before : β) (bytes : Octets) (after : β) : Prop :=
  bytes.length = (FrameBuffer.frame before).size ∧
  after = FrameBuffer.setFrame before bytes.toByteArray ∧
  (LawfulFrameBuffer β → octets (FrameBuffer.frame after) = bytes)

theorem wrote_setFrame {bytes : Octets} (size : bytes.length = (FrameBuffer.frame buffer).size) :
    Wrote buffer bytes (FrameBuffer.setFrame buffer bytes.toByteArray) := by
  refine ⟨size, rfl, fun _ => ?_⟩
  rw [LawfulFrameBuffer.frame_setFrame buffer bytes.toByteArray
    (by rw [List.size_toByteArray, size]), octets_toByteArray]

end Buffers

/-- Whatever a buffer says of itself, an overwrite asks it for at most one resize, and for none if
the reported length is right already.  It succeeds only if the bounds read afterwards hold the
template, and then the slice begins with the template's frame and goes on as the resize left it.  It
runs out of the slice only after filling it with the front of the template.  Any other failure comes
before the first write.  No write falls outside the slice, and there are at most 2048. -/
theorem overwrite_safe {β : Type} [FrameBuffer β] (template : Template) (buffer : β) :
    let target := template.effectiveLength
    let outcome := overwrite template (Watched.fresh buffer)
    let requests := outcome.2.requests
    let resized := afterResizes buffer requests
    let slice := octets (FrameBuffer.frame resized)
    let copied := copyLoop template templateSize 0 slice
    overwrite template buffer = (outcome.1, outcome.2.buffer) ∧
    requests.length ≤ 1 ∧
    ((FrameBuffer.bounds buffer).length.toNat = target → requests = []) ∧
    (∀ place ∈ copied.places, place < slice.length) ∧ copied.places.length ≤ 2048 ∧
    match outcome.1 with
    | .ok written =>
      copied.answer = .ok written ∧ written = target ∧
      (FrameBuffer.bounds resized).start.toNat + target ≤
        (FrameBuffer.bounds resized).stop.toNat ∧
      copied.places = List.range target ∧
      copied.slice = octets template.frame ++ slice.drop target ∧
      Wrote resized copied.slice outcome.2.buffer
    | .error (.outOfBounds offset length) =>
      copied.answer = .error (.outOfBounds offset length) ∧
      offset = length ∧ length = slice.length ∧ length < target ∧
      copied.places = List.range length ∧
      copied.slice = (octets template.frame).take length ∧
      Wrote resized copied.slice outcome.2.buffer
    | .error (.deltaOverflow _ _) | .error (.resize _ _) | .error (.shortFrame _ _) =>
      outcome.2.buffer = resized := by
  obtain ⟨requests, answer, after, few, same, plain, watched, ends⟩ :=
    overwrite_fresh template buffer
  have size := length_octets (FrameBuffer.frame (afterResizes buffer requests))
  have ⟨inside, most⟩ :=
    places_copyLoop template (octets (FrameBuffer.frame (afterResizes buffer requests)))
  simp only [plain, watched]
  refine ⟨trivial, few, same, inside, most, ?_⟩
  rcases ends with ⟨cause, early, rfl, rfl⟩ | ⟨fits, rfl, rfl⟩
  · cases cause with
    | outOfBounds => exact early.elim
    | deltaOverflow => rfl
    | resize => rfl
    | shortFrame => rfl
  · by_cases long : template.effectiveLength ≤
      (octets (FrameBuffer.frame (afterResizes buffer requests))).length
    · rw [copyLoop_of_le template _ long]
      refine ⟨rfl, rfl, fits, rfl, rfl, wrote_setFrame _ ?_⟩
      rw [List.length_append, List.length_drop, length_octets, template.size_frame]
      omega
    · have short := Nat.lt_of_not_le long
      rw [copyLoop_of_lt template _ short]
      refine ⟨rfl, rfl, rfl, short, rfl, rfl, wrote_setFrame _ ?_⟩
      rw [List.length_take, length_octets template.frame, template.size_frame]
      omega

end FrameReplay
