import FrameReplay.Buffer.Packet
import FrameReplay.Proofs.LengthDifference

/-!
# Templates that fit a packet buffer

A packet buffer with room for a template behind its headroom always takes it, whatever frame it
held before: growing, shrinking and keeping the length all come to the same
(`overwrite_of_room`).  Without that room no frame ever takes it (`overwrite_of_no_room`).  Together
they say all that an overwrite does to a packet buffer (`overwrite_exact`).
-/

namespace FrameReplay

theorem overlay_all {block patch : ByteArray} (h : patch.size = block.size) :
    overlay block 0 patch = patch := by
  apply octets_inj
  rw [octets_overlay, List.take_zero, List.nil_append, List.drop_eq_nil_of_le, List.append_nil]
  rw [length_octets]
  omega

namespace PacketBuffer

/-- The buffer with a frame of another length over the same storage. -/
def withLength (buffer : PacketBuffer) (length : Nat)
    (inside : buffer.headroom + length ≤ storageSize) : PacketBuffer :=
  { buffer with length, inside }

theorem toNat_length (buffer : PacketBuffer) :
    (FrameBuffer.bounds buffer).length.toNat = buffer.length := by
  have inside : buffer.headroom + buffer.length ≤ 4096 := buffer.inside
  show (Bounds.length ⟨UInt64.ofNat buffer.headroom,
    UInt64.ofNat (buffer.headroom + buffer.length)⟩).toNat = buffer.length
  rw [Bounds.toNat_length, UInt64.toNat_ofNat', UInt64.toNat_ofNat']
  omega

/-- What is counted for a packet buffer is the length of its frame. -/
theorem length_eq (buffer : PacketBuffer) :
    FrameBuffer.length buffer = UInt64.ofNat buffer.length := by
  show (FrameBuffer.bounds buffer).length = _
  rw [← buffer.toNat_length, UInt64.ofNat_toNat]

/-- The resize that a packet buffer is asked for is the difference of the lengths. -/
theorem resizeDelta?_length (buffer : PacketBuffer) {length : Nat} (small : length < 2147483648) :
    ∃ delta, resizeDelta? (FrameBuffer.bounds buffer).length length = some delta ∧
      delta.toInt = (length : Int) - buffer.length := by
  have inside : buffer.headroom + buffer.length ≤ 4096 := buffer.inside
  have near := @resizeDelta?_of_near (FrameBuffer.bounds buffer).length length small
  rw [toNat_length] at near
  apply near
  omega

theorem fits_iff (buffer : PacketBuffer) {want : Nat} (h : want ≤ 4096) :
    (FrameBuffer.bounds buffer).fits (UInt64.ofNat want) = true ↔ want ≤ buffer.length := by
  have inside : buffer.headroom + buffer.length ≤ 4096 := buffer.inside
  change decide (_ ≤ _) = true ↔ _
  simp only [FrameBuffer.bounds, UInt64.toNat_ofNat', decide_eq_true_eq]
  omega

theorem adjustTail_of_room (buffer : PacketBuffer) {delta : Int32} {length : Nat}
    (room : buffer.headroom + length ≤ storageSize)
    (h : delta.toInt = (length : Int) - buffer.length) :
    buffer.adjustTail delta = (.ok (), buffer.withLength length room) := by
  unfold adjustTail withLength
  by_cases grow : 0 ≤ delta.toInt
  · have sum : buffer.length + delta.toInt.natAbs = length := by omega
    simp only [grow, if_true, sum, room, dite_true]
  · have sum : buffer.length - delta.toInt.natAbs = length := by omega
    simp only [grow, if_false, sum]
    rw [if_pos (by omega)]

theorem resizeTo_of_room (buffer : PacketBuffer) {length : Nat}
    (room : buffer.headroom + length ≤ storageSize) :
    resizeTo length buffer = (.ok (), buffer.withLength length room) := by
  have inside : buffer.headroom + buffer.length ≤ 4096 := buffer.inside
  have inside' : buffer.headroom + length ≤ 4096 := room
  -- A frame of the right length is left alone, any other gets the exact difference.
  by_cases same : buffer.length = length
  · subst same
    exact resizeTo_of_same buffer buffer.toNat_length
  · obtain ⟨delta, found, exact⟩ := buffer.resizeDelta?_length (show length < 2147483648 by omega)
    rw [resizeTo_of_some buffer (by rwa [toNat_length]) found]
    simp only [FrameBuffer.adjustTail, buffer.adjustTail_of_room room exact]
    rfl

theorem copyFrame_of_length (template : Template) (buffer : PacketBuffer)
    (h : buffer.length = template.effectiveLength) :
    copyFrame template buffer =
      (.ok template.effectiveLength, buffer.setFrame template.frame) := by
  have size : (FrameBuffer.frame buffer).size = template.effectiveLength :=
    buffer.size_frame.trans h
  have written : (template.payload.extract 0 template.effectiveLength).size =
      (FrameBuffer.frame buffer).size := template.size_frame.trans size.symm
  unfold copyFrame
  simp only [size, Nat.min_self, Nat.le_refl, if_true]
  rw [overlay_all written]
  rfl

/-- A template for which there is room is written, and the frame is then the template's. -/
theorem overwrite_of_room (template : Template) (buffer : PacketBuffer)
    (room : buffer.headroom + template.effectiveLength ≤ storageSize) :
    overwrite template buffer = (.ok template.effectiveLength,
      (buffer.withLength template.effectiveLength room).setFrame template.frame) := by
  have fits : (FrameBuffer.bounds (buffer.withLength template.effectiveLength room)).fits
      (UInt64.ofNat template.effectiveLength) = true :=
    (fits_iff _ (Nat.le_trans (Nat.le_add_left _ _) room)).2 (Nat.le_refl _)
  unfold overwrite
  simp only [buffer.resizeTo_of_room room, fits, if_true]
  exact copyFrame_of_length _ _ rfl

/-- A resize for which there is no room is refused for want of tailroom. -/
theorem resizeTo_of_no_room (buffer : PacketBuffer) {length : Nat} (small : length < 2147483648)
    (tight : storageSize < buffer.headroom + length) :
    ∃ delta : Int32, delta.toInt = (length : Int) - buffer.length ∧
      resizeTo length buffer =
        (.error (.resize delta (.noTailroom delta buffer.tailroom)), buffer) := by
  have inside : buffer.headroom + buffer.length ≤ 4096 := buffer.inside
  have tight' : 4096 < buffer.headroom + length := tight
  obtain ⟨delta, found, exact⟩ := buffer.resizeDelta?_length small
  -- The frame lies inside the storage, so it has to grow, by more than there is.
  have grow : 0 ≤ delta.toInt := by omega
  have tooFar : ¬ buffer.headroom + (buffer.length + delta.toInt.natAbs) ≤ storageSize := by
    simp only [storageSize]
    omega
  have other : (FrameBuffer.bounds buffer).length.toNat ≠ length := by
    rw [toNat_length]
    omega
  refine ⟨delta, exact, ?_⟩
  rw [resizeTo_of_some buffer other found]
  simp only [FrameBuffer.adjustTail, adjustTail, if_pos grow, dif_neg tooFar]
  rfl

/-- A template for which there is no room leaves the buffer as it was. -/
theorem overwrite_of_no_room (template : Template) (buffer : PacketBuffer)
    (tight : storageSize < buffer.headroom + template.effectiveLength) :
    ∃ delta : Int32, delta.toInt = (template.effectiveLength : Int) - buffer.length ∧
      overwrite template buffer =
        (.error (.resize delta (.noTailroom delta buffer.tailroom)), buffer) := by
  have short : template.effectiveLength ≤ templateSize := Nat.min_le_right _ _
  obtain ⟨delta, exact, refused⟩ :=
    buffer.resizeTo_of_no_room (Nat.lt_of_le_of_lt short (by decide)) tight
  refine ⟨delta, exact, ?_⟩
  unfold overwrite
  rw [refused]

theorem length_of_overwrite {template : Template} {buffer after : PacketBuffer} {written : Nat}
    (h : overwrite template buffer = (.ok written, after)) :
    after.length = template.effectiveLength := by
  by_cases room : buffer.headroom + template.effectiveLength ≤ storageSize
  · rw [buffer.overwrite_of_room template room] at h
    cases h
    exact length_setFrame _ _
  · obtain ⟨delta, -, refused⟩ := buffer.overwrite_of_no_room template (by omega)
    rw [refused] at h
    cases h

theorem frame_setFrame (buffer : PacketBuffer) {bytes : ByteArray}
    (h : bytes.size = buffer.length) :
    (buffer.setFrame bytes).frame = bytes :=
  LawfulFrameBuffer.frame_setFrame buffer bytes (h.trans buffer.size_frame.symm)

/-- Replacing the frame by as many bytes leaves the bytes in front of it and behind it alone. -/
theorem getElem?_storage_setFrame (buffer : PacketBuffer) {bytes : ByteArray}
    (h : bytes.size = buffer.length) {i : Nat}
    (outside : i < buffer.headroom ∨ buffer.headroom + buffer.length ≤ i) :
    (octets (buffer.setFrame bytes).storage)[i]? = (octets buffer.storage)[i]? := by
  have inside : buffer.headroom + buffer.length ≤ storageSize := buffer.inside
  have size : (octets buffer.storage).length = storageSize :=
    (length_octets _).trans buffer.size_storage
  have front : ((octets buffer.storage).take buffer.headroom).length = buffer.headroom := by
    rw [List.length_take, size]
    omega
  have written : ((octets buffer.storage).take buffer.headroom ++ octets bytes).length =
      buffer.headroom + buffer.length := by
    rw [List.length_append, front, length_octets, h]
  -- The storage is now the old front, the new frame and the old back.
  rw [octets_storage_setFrame buffer bytes h]
  rcases outside with before | behind
  · rw [List.getElem?_append_left (by omega), List.getElem?_append_left (by omega),
      List.getElem?_take_of_lt before]
  · rw [List.getElem?_append_right (by omega), written, List.getElem?_drop]
    congr 1
    omega

/-- A template is written into a packet buffer exactly if there is room for it behind the headroom.
The frame is then the template's and begins where it began before, and no byte outside of it has
changed. Otherwise the tailroom does not suffice for the difference of the lengths, which is the
only error there is, and nothing at all has changed. -/
theorem overwrite_exact (template : Template) (buffer : PacketBuffer) :
    let length := template.effectiveLength
    let outcome := overwrite template buffer
    ((∃ written, outcome.1 = .ok written) ↔ buffer.headroom + length ≤ 4096) ∧
    (∀ written, outcome.1 = .ok written →
      written = length ∧
      (FrameBuffer.bounds outcome.2).start = (FrameBuffer.bounds buffer).start ∧
      (FrameBuffer.bounds outcome.2).length.toNat = length ∧
      FrameBuffer.frame outcome.2 = template.frame ∧
      ∀ i, i < buffer.headroom ∨ buffer.headroom + length ≤ i →
        (octets outcome.2.storage)[i]? = (octets buffer.storage)[i]?) ∧
    ∀ error, outcome.1 = .error error →
      ∃ delta : Int32, delta.toInt = (length : Int) - buffer.length ∧
        error = .resize delta (.noTailroom delta (4096 - buffer.headroom - buffer.length)) ∧
        outcome.2 = buffer := by
  intro length outcome
  by_cases room : buffer.headroom + length ≤ storageSize
  · have done := buffer.overwrite_of_room template room
    have size : template.frame.size = (buffer.withLength length room).length := template.size_frame
    simp only [outcome, done]
    refine ⟨⟨fun _ => room, fun _ => ⟨_, rfl⟩⟩, fun written h => ?_, nofun⟩
    cases h
    refine ⟨rfl, ?_, ?_, frame_setFrame _ size, fun i outside => ?_⟩
    · exact congrArg UInt64.ofNat (headroom_setFrame _ _)
    · exact (toNat_length _).trans (length_setFrame _ _)
    · exact getElem?_storage_setFrame (buffer.withLength length room) size outside
  · obtain ⟨delta, exact, refused⟩ := buffer.overwrite_of_no_room template (Nat.lt_of_not_le room)
    simp only [outcome, refused]
    refine ⟨⟨nofun, fun fits => absurd fits room⟩, nofun, fun error h => ?_⟩
    cases h
    exact ⟨delta, exact, rfl, trivial⟩

end PacketBuffer

end FrameReplay
