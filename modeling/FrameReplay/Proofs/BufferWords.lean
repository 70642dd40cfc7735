import FrameReplay.Buffer.Calls
import FrameReplay.Proofs.BufferView
import FrameReplay.Proofs.Fitting

/-!
# Packet buffers in machine words

In memory a packet buffer is two 16-bit words and 4096 bytes, and nothing but its operations keeps
the words sensible.  Here every step that could go wrong may fail: a difference below zero, a slice
that leaves the storage, a length that does not fit its word.  None ever fails, whatever is done
with the buffer, since the frame stays inside of the storage (`perform?_words`, `after?_words`).
With that go the exact conditions under which a buffer takes a frame or a resize
(`after_withHeadroom_exact`).
-/

namespace FrameReplay

/-! ## Steps that may fail -/

/-- The difference of two lengths, or nothing if it is below zero. -/
def sub? (a b : Nat) : Option Nat := if b ≤ a then some (a - b) else none

/-- A length as a 16-bit word, or nothing if bits would be cut off. -/
def lengthWord? (n : Nat) : Option UInt16 := if n < 65536 then some (UInt16.ofNat n) else none

theorem lengthWord?_of_le {n : Nat} (h : n ≤ storageSize) :
    lengthWord? n = some (UInt16.ofNat n) :=
  if_pos (Nat.lt_of_le_of_lt h (by decide))

/-- The words and the bytes of a packet buffer, which may say anything. -/
structure BufferWords where
  length : UInt16
  headroom : UInt16
  storage : ByteArray

namespace BufferWords

def withHeadroom? (headroom : Nat) : Option BufferWords :=
  (lengthWord? (min headroom storageSize)).map fun word => ⟨0, word, zeroBlock storageSize⟩

variable (words : BufferWords)

/-- Bytes for a frame, behind the headroom. -/
def room? : Option Nat := sub? storageSize words.headroom.toNat

/-- Bytes between the frame and the end of the storage. -/
def tailroom? : Option Nat := words.room?.bind (sub? · words.length.toNat)

/-- The bytes of the frame. -/
def frame? : Option ByteArray :=
  let start := words.headroom.toNat
  let stop := start + words.length.toNat
  if stop ≤ words.storage.size then some (words.storage.extract start stop) else none

/-- Puts bytes into the storage, from the headroom on. -/
def put? (bytes : ByteArray) : Option BufferWords :=
  if words.headroom.toNat + bytes.size ≤ words.storage.size then
    some { words with storage := overlay words.storage words.headroom.toNat bytes }
  else none

/-- Puts down another length. -/
def resize? (length : Nat) : Option BufferWords :=
  (lengthWord? length).map fun length => { words with length }

def load? (frame : ByteArray) : Option (Except BufferError Unit × BufferWords) := do
  let room ← words.room?
  if room < frame.size then return (.error (.tooLarge frame.size room), words)
  let next ← (← words.put? frame).resize? frame.size
  return (.ok (), next)

def adjustTail? (delta : Int32) : Option (Except BufferError Unit × BufferWords) := do
  let length := words.length.toNat
  let amount := delta.toInt.natAbs
  if 0 ≤ delta.toInt then
    let tailroom ← words.tailroom?
    if tailroom < amount then return (.error (.noTailroom delta tailroom), words)
    let next ← words.resize? (length + amount)
    return (.ok (), next)
  else
    if length < amount then return (.error (.underflow delta length), words)
    let next ← words.resize? (← sub? length amount)
    return (.ok (), next)

/-- Writes into the slice of the frame. -/
def write? (offset : Nat) (bytes : ByteArray) :
    Option (Except BufferRefusal Unit × BufferWords) := do
  let frame ← words.frame?
  if offset + bytes.size ≤ frame.size then
    let next ← words.put? (overlay frame offset bytes)
    return (.ok (), next)
  else return (.error .outside, words)

/-- Words on which no step has failed yet, as a buffer; without them there is nothing to ask. -/
instance : FrameBuffer (Option BufferWords) where
  bounds
    | some words => ⟨UInt64.ofNat words.headroom.toNat,
        UInt64.ofNat (words.headroom.toNat + words.length.toNat)⟩
    | none => ⟨0, 0⟩
  frame state := (state.bind frame?).getD .empty
  setFrame state bytes := state.bind fun words =>
    words.frame?.bind fun frame => if bytes.size = frame.size then words.put? bytes else none
  adjustTail state delta :=
    match state.bind (·.adjustTail? delta) with
    | some (answer, words) => (answer, some words)
    | none => (.ok (), none)

def perform? : BufferCall → Option (Except BufferRefusal Unit × BufferWords)
  | .load frame => (words.load? frame).map fun (answer, next) => (answer.mapError .buffer, next)
  | .reset => some (.ok (), { words with length := 0 })
  | .adjustTail delta =>
    (words.adjustTail? delta).map fun (answer, next) => (answer.mapError .buffer, next)
  | .write offset bytes => words.write? offset bytes
  | .overwrite template =>
    let (answer, state) := FrameReplay.overwrite template (some words)
    state.map fun next => ((answer.map fun _ => ()).mapError .overwrite, next)

/-- The words after some calls, if no step fails. -/
def after? (calls : List BufferCall) : Option BufferWords :=
  calls.foldlM (fun words call => (words.perform? call).map Prod.snd) words

end BufferWords

/-! ## No step fails -/

theorem toInt_neg_of_ne_minValue {delta : Int32} (other : delta ≠ Int32.minValue) :
    (-delta).toInt = -delta.toInt := by
  have low := delta.le_toInt
  have high := delta.toInt_lt
  have least : delta.toInt ≠ -2 ^ 31 := fun same => other (Int32.toInt_inj.1 same)
  rw [Int32.toInt_neg, Int.bmod_eq_of_le (by omega) (by omega)]

namespace PacketBuffer

variable (buffer : PacketBuffer)

/-- The words of a packet buffer. -/
def words : BufferWords :=
  ⟨UInt16.ofNat buffer.length, UInt16.ofNat buffer.headroom, buffer.storage⟩

theorem toNat_ofNat_of_le_storage {n : Nat} (h : n ≤ storageSize) : (UInt16.ofNat n).toNat = n := by
  simp only [storageSize] at h
  rw [UInt16.toNat_ofNat']
  omega

@[simp] theorem toNat_headroom_words : buffer.words.headroom.toNat = buffer.headroom :=
  toNat_ofNat_of_le_storage (Nat.le_trans (Nat.le_add_right _ _) buffer.inside)

@[simp] theorem toNat_length_words : buffer.words.length.toNat = buffer.length :=
  toNat_ofNat_of_le_storage (Nat.le_trans (Nat.le_add_left _ _) buffer.inside)

theorem withHeadroom?_eq (headroom : Nat) :
    BufferWords.withHeadroom? headroom = some (withHeadroom headroom).words := by
  unfold BufferWords.withHeadroom?
  rw [lengthWord?_of_le (Nat.min_le_right _ _), Option.map_some]
  simp only [words, withHeadroom]
  rfl

theorem room?_words : buffer.words.room? = some (storageSize - buffer.headroom) := by
  have inside := buffer.inside
  unfold BufferWords.room? sub?
  rw [toNat_headroom_words, if_pos (by omega)]

theorem tailroom?_words : buffer.words.tailroom? = some buffer.tailroom := by
  have inside := buffer.inside
  unfold BufferWords.tailroom? sub?
  rw [room?_words, Option.bind_some, toNat_length_words, if_pos (by omega)]
  rfl

theorem le_size_storage {n : Nat} (h : n ≤ storageSize) : n ≤ buffer.words.storage.size :=
  Nat.le_trans h (Nat.le_of_eq buffer.size_storage.symm)

theorem frame?_words : buffer.words.frame? = some buffer.frame := by
  unfold BufferWords.frame?
  simp only [toNat_headroom_words, toNat_length_words]
  exact if_pos (buffer.le_size_storage buffer.inside)

theorem put?_words {bytes : ByteArray} (room : buffer.headroom + bytes.size ≤ storageSize) :
    buffer.words.put? bytes = some { buffer.words with
      storage := overlay buffer.storage buffer.headroom bytes } := by
  unfold BufferWords.put?
  rw [toNat_headroom_words, if_pos (buffer.le_size_storage room)]
  rfl

theorem put?_words_of_size {bytes : ByteArray} (size : bytes.size = buffer.length) :
    buffer.words.put? bytes = some (buffer.setFrame bytes).words := by
  have room : buffer.headroom + bytes.size ≤ storageSize := size ▸ buffer.inside
  rw [buffer.put?_words room]
  unfold setFrame
  rw [dif_pos room]
  rfl

theorem resize?_words {length : Nat} (room : buffer.headroom + length ≤ storageSize) :
    buffer.words.resize? length = some (buffer.withLength length room).words := by
  unfold BufferWords.resize?
  rw [lengthWord?_of_le (Nat.le_trans (Nat.le_add_left _ _) room)]
  rfl

theorem load?_words (frame : ByteArray) :
    buffer.words.perform? (.load frame) =
      some ((buffer.perform (.load frame)).1, (buffer.perform (.load frame)).2.words) := by
  have inside := buffer.inside
  unfold BufferWords.perform? BufferWords.load? perform load
  by_cases room : buffer.headroom + frame.size ≤ storageSize
  · have fits : ¬ storageSize - buffer.headroom < frame.size := by omega
    simp only [room?_words, put?_words _ room, BufferWords.resize?, dif_pos room, if_neg fits,
      lengthWord?_of_le (Nat.le_trans (Nat.le_add_left _ _) room), Option.bind_eq_bind,
      Option.bind_some, Option.map_some, Option.pure_def]
    rfl
  · have long : storageSize - buffer.headroom < frame.size := by omega
    simp only [room?_words, dif_neg room, if_pos long, Option.bind_eq_bind, Option.bind_some,
      Option.pure_def, Option.map_some]
    rfl

theorem adjustTail?_words (delta : Int32) :
    buffer.words.adjustTail? delta =
      some ((buffer.adjustTail delta).1, (buffer.adjustTail delta).2.words) := by
  have inside := buffer.inside
  unfold BufferWords.adjustTail? adjustTail
  simp only [tailroom?_words, toNat_length_words, Option.bind_eq_bind, Option.bind_some,
    Option.pure_def]
  by_cases grow : 0 ≤ delta.toInt
  · simp only [if_pos grow]
    by_cases room : buffer.headroom + (buffer.length + delta.toInt.natAbs) ≤ storageSize
    · have fits : ¬ buffer.tailroom < delta.toInt.natAbs := by
        unfold tailroom
        omega
      simp only [dif_pos room, if_neg fits, buffer.resize?_words room, Option.bind_some]
      rfl
    · have tight : buffer.tailroom < delta.toInt.natAbs := by
        unfold tailroom
        omega
      simp only [dif_neg room, if_pos tight]
  · simp only [if_neg grow]
    by_cases enough : delta.toInt.natAbs ≤ buffer.length
    · have room : buffer.headroom + (buffer.length - delta.toInt.natAbs) ≤ storageSize := by omega
      simp only [if_pos enough, if_neg (Nat.not_lt.2 enough), sub?, buffer.resize?_words room,
        Option.bind_some]
      rfl
    · simp only [if_neg enough, if_pos (Nat.lt_of_not_le enough)]

theorem write?_words (offset : Nat) (bytes : ByteArray) :
    buffer.words.perform? (.write offset bytes) =
      some ((buffer.perform (.write offset bytes)).1,
        (buffer.perform (.write offset bytes)).2.words) := by
  unfold BufferWords.perform? BufferWords.write? perform FrameBuffer.write?
  simp only [frame?_words, Option.bind_eq_bind, Option.bind_some, Option.pure_def]
  by_cases fits : offset + bytes.size ≤ buffer.frame.size
  · have size : (overlay buffer.frame offset bytes).size = buffer.length :=
      (size_overlay fits).trans buffer.size_frame
    have shown : offset + bytes.size ≤ (FrameBuffer.frame buffer).size := fits
    simp only [if_pos fits, if_pos shown, buffer.put?_words_of_size size, Option.bind_some]
    rfl
  · have hidden : ¬ offset + bytes.size ≤ (FrameBuffer.frame buffer).size := fits
    simp only [if_neg fits, if_neg hidden]

theorem bounds_words : FrameBuffer.bounds (some buffer.words) = FrameBuffer.bounds buffer := by
  simp only [FrameBuffer.bounds, toNat_headroom_words, toNat_length_words]

/-- The words of a packet buffer answer all that is asked of buffers as the packet buffer does. -/
theorem bufferView_words : BufferView fun buffer : PacketBuffer => some buffer.words where
  bounds := bounds_words
  length buffer := congrArg Bounds.length buffer.bounds_words
  frame buffer := by
    change (buffer.words.frame?).getD .empty = _
    rw [frame?_words]
    rfl
  setFrame buffer bytes same := by
    have size : bytes.size = buffer.length := same.trans buffer.size_frame
    have same' : bytes.size = buffer.frame.size := same
    change (buffer.words.frame?.bind fun frame => _) = _
    rw [frame?_words, Option.bind_some, if_pos same', put?_words_of_size _ size]
    rfl
  adjustTail buffer delta := by
    change (match buffer.words.adjustTail? delta with | some (_, _) => _ | none => _) = _
    rw [adjustTail?_words]
    rfl

/-- No step of a call fails, and the words stay those of the buffer. -/
theorem perform?_words (call : BufferCall) :
    buffer.words.perform? call = some ((buffer.perform call).1, (buffer.perform call).2.words) := by
  cases call with
  | load frame => exact buffer.load?_words frame
  | reset => rfl
  | adjustTail delta =>
    change (buffer.words.adjustTail? delta).map _ = _
    rw [adjustTail?_words]
    rfl
  | write offset bytes => exact buffer.write?_words offset bytes
  | overwrite template =>
    have same := bufferView_words.overwrite buffer template
    unfold BufferWords.perform? perform
    simp only [same]
    rfl

theorem after?_words (calls : List BufferCall) :
    buffer.words.after? calls = some (buffer.after calls).words := by
  induction calls generalizing buffer with
  | nil => rfl
  | cons call calls ih =>
    unfold BufferWords.after? at ih ⊢
    rw [List.foldlM_cons, perform?_words, Option.map_some]
    exact ih _

/-! ## What a buffer takes -/

theorem perform_load_eq_ok_iff (frame : ByteArray) :
    (buffer.perform (.load frame)).1 = .ok () ↔ frame.size ≤ 4096 - buffer.headroom := by
  have inside : buffer.headroom + buffer.length ≤ 4096 := buffer.inside
  unfold perform load
  by_cases room : buffer.headroom + frame.size ≤ storageSize
  · simp only [dif_pos room, true_iff]
    exact Nat.le_sub_of_add_le' room
  · simp only [dif_neg room, reduceCtorEq, false_iff]
    exact fun fits => room (by simp only [storageSize]; omega)

/-- A resize that leads out of the storage is refused for want of room on the side that it leads
to. -/
theorem adjustTail_of_no_room {delta : Int32}
    (h : ¬ (0 ≤ buffer.length + delta.toInt ∧
      buffer.length + delta.toInt ≤ 4096 - buffer.headroom)) :
    buffer.adjustTail delta = (.error (if 0 ≤ delta.toInt then .noTailroom delta buffer.tailroom
      else .underflow delta buffer.length), buffer) := by
  have inside : buffer.headroom + buffer.length ≤ 4096 := buffer.inside
  unfold adjustTail
  by_cases grow : 0 ≤ delta.toInt
  · have tight : ¬ buffer.headroom + (buffer.length + delta.toInt.natAbs) ≤ storageSize := by
      simp only [storageSize]
      omega
    simp only [if_pos grow, dif_neg tight]
  · simp only [if_neg grow]
    rw [if_neg (by omega)]

theorem adjustTail_cases (delta : Int32) :
    (∃ length, ∃ room : buffer.headroom + length ≤ storageSize,
      (length : Int) = buffer.length + delta.toInt ∧
        buffer.adjustTail delta = (.ok (), buffer.withLength length room)) ∨
    ¬ (0 ≤ buffer.length + delta.toInt ∧ buffer.length + delta.toInt ≤ 4096 - buffer.headroom) ∧
      buffer.adjustTail delta = (.error (if 0 ≤ delta.toInt then .noTailroom delta buffer.tailroom
        else .underflow delta buffer.length), buffer) := by
  by_cases h : 0 ≤ buffer.length + delta.toInt ∧
      buffer.length + delta.toInt ≤ 4096 - buffer.headroom
  · have length : ((buffer.length + delta.toInt).toNat : Int) = buffer.length + delta.toInt :=
      Int.toNat_of_nonneg h.1
    have room : buffer.headroom + (buffer.length + delta.toInt).toNat ≤ storageSize := by
      simp only [storageSize]
      omega
    exact .inl ⟨_, room, length, buffer.adjustTail_of_room room (by omega)⟩
  · exact .inr ⟨h, buffer.adjustTail_of_no_room h⟩

/-- The inverse of a resize takes the frame back to its length, with the bytes that stood there. -/
theorem adjustTail_neg {delta : Int32} (other : delta ≠ Int32.minValue) {length : Nat}
    (room : buffer.headroom + length ≤ storageSize)
    (h : (length : Int) = buffer.length + delta.toInt) :
    (buffer.withLength length room).adjustTail (-delta) = (.ok (), buffer) := by
  have opposite : (-delta).toInt =
      (buffer.length : Int) - (buffer.withLength length room).length := by
    change _ = (buffer.length : Int) - length
    rw [toInt_neg_of_ne_minValue other]
    omega
  exact (buffer.withLength length room).adjustTail_of_room buffer.inside opposite

/-- A call either is carried out and leaves the headroom, or it is refused and leaves everything. -/
theorem perform_cases (call : BufferCall) :
    ((buffer.perform call).1 = .ok () ∧ (buffer.perform call).2.headroom = buffer.headroom) ∨
      ∃ refusal, buffer.perform call = (.error refusal, buffer) := by
  cases call with
  | load frame =>
    unfold perform load
    by_cases room : buffer.headroom + frame.size ≤ storageSize
    · simp only [dif_pos room]
      exact .inl ⟨trivial, trivial⟩
    · simp only [dif_neg room]
      exact .inr ⟨_, rfl⟩
  | reset => exact .inl ⟨rfl, rfl⟩
  | adjustTail delta =>
    simp only [perform]
    rcases buffer.adjustTail_cases delta with ⟨length, room, -, done⟩ | ⟨-, refused⟩
    · rw [done]
      exact .inl ⟨rfl, rfl⟩
    · rw [refused]
      exact .inr ⟨_, rfl⟩
  | write offset bytes =>
    unfold perform FrameBuffer.write?
    by_cases fits : offset + bytes.size ≤ (FrameBuffer.frame buffer).size
    · simp only [if_pos fits]
      exact .inl ⟨trivial, headroom_setFrame _ _⟩
    · simp only [if_neg fits]
      exact .inr ⟨_, rfl⟩
  | overwrite template =>
    simp only [perform]
    by_cases room : buffer.headroom + template.effectiveLength ≤ storageSize
    · rw [buffer.overwrite_of_room template room]
      exact .inl ⟨rfl, headroom_setFrame _ _⟩
    · obtain ⟨_, -, refused⟩ := buffer.overwrite_of_no_room template (Nat.lt_of_not_le room)
      rw [refused]
      exact .inr ⟨_, rfl⟩

theorem headroom_after (calls : List BufferCall) :
    (buffer.after calls).headroom = buffer.headroom := by
  induction calls generalizing buffer with
  | nil => rfl
  | cons call calls ih =>
    refine (ih (buffer.perform call).2).trans ?_
    rcases buffer.perform_cases call with ⟨-, same⟩ | ⟨_, refused⟩
    · exact same
    · rw [refused]

/-- Whatever is done with a packet buffer, its headroom stays the one that was asked for, as far as
the storage goes, and its frame inside of the storage, so that no step on its words fails.  It takes
a frame exactly if there is room behind the headroom, and a resize exactly if the length stays
between zero and that room; then nothing changes but the length, and the inverse resize takes
everything back.  A refused call changes nothing. -/
theorem after_withHeadroom_exact (requested : Nat) (calls : List BufferCall) :
    let buffer := (withHeadroom requested).after calls
    buffer.headroom = min requested 4096 ∧ buffer.headroom + buffer.length ≤ 4096 ∧
    (BufferWords.withHeadroom? requested).bind (·.after? calls) = some buffer.words ∧
    buffer.words.headroom.toNat = buffer.headroom ∧ buffer.words.length.toNat = buffer.length ∧
    buffer.words.tailroom? = some (4096 - buffer.headroom - buffer.length) ∧
    buffer.words.frame? = some buffer.frame ∧
    (∀ call, buffer.words.perform? call =
      some ((buffer.perform call).1, (buffer.perform call).2.words)) ∧
    (∀ call refusal, (buffer.perform call).1 = .error refusal → (buffer.perform call).2 = buffer) ∧
    (∀ frame, (buffer.perform (.load frame)).1 = .ok () ↔ frame.size ≤ 4096 - buffer.headroom) ∧
    ∀ delta : Int32,
      let outcome := buffer.adjustTail delta
      let length := buffer.length + delta.toInt
      (outcome.1 = .ok () ↔ 0 ≤ length ∧ length ≤ 4096 - buffer.headroom) ∧
      (outcome.1 = .ok () → outcome.2.length = length ∧
        outcome.2.headroom = buffer.headroom ∧ outcome.2.storage = buffer.storage ∧
        (delta ≠ Int32.minValue → outcome.2.adjustTail (-delta) = (.ok (), buffer))) ∧
      (outcome.1 ≠ .ok () → outcome = (.error (if 0 ≤ delta.toInt then
        .noTailroom delta (4096 - buffer.headroom - buffer.length)
        else .underflow delta buffer.length), buffer)) := by
  intro buffer
  have inside : buffer.headroom + buffer.length ≤ 4096 := buffer.inside
  refine ⟨headroom_after _ calls, inside, ?_, buffer.toNat_headroom_words,
    buffer.toNat_length_words, buffer.tailroom?_words, buffer.frame?_words, buffer.perform?_words,
    fun call refusal refused => ?_, buffer.perform_load_eq_ok_iff, fun delta => ?_⟩
  · rw [withHeadroom?_eq, Option.bind_some, after?_words]
  · rcases buffer.perform_cases call with ⟨done, -⟩ | ⟨_, unchanged⟩
    · rw [done] at refused
      cases refused
    · rw [unchanged]
  · intro outcome length
    rcases buffer.adjustTail_cases delta with ⟨reached, room, exact, done⟩ | ⟨outside, refused⟩
    · have room' : buffer.headroom + reached ≤ 4096 := room
      simp only [outcome, done]
      refine ⟨⟨fun _ => ?_, fun _ => trivial⟩, fun _ => ⟨exact, rfl, rfl, fun other => ?_⟩, ?_⟩
      · omega
      · exact buffer.adjustTail_neg other room exact
      · exact fun failed => absurd rfl failed
    · simp only [outcome, refused]
      refine ⟨⟨fun done => ?_, fun inside => absurd inside outside⟩, fun done => ?_, fun _ => rfl⟩
      · cases done
      · cases done

end PacketBuffer

end FrameReplay
