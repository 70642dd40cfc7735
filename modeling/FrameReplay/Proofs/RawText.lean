import FrameReplay.Proofs.Base64Text
import FrameReplay.Proofs.FrameSizes
import FrameReplay.Proofs.HexText
import Mathlib.Data.List.TakeWhile

/-!
# The data of raw templates

What a raw template is read as is known exactly for data that spells octets in hexadecimal digits or
holds them in base64: the first octets, as many as declared, or the refusal of a length that is too
large (`decode_exact`).  Hexadecimal data is read as nothing else than what it spells.
-/

namespace FrameReplay

namespace Text

theorem dropWhile_isBlank_append {before text : List Char} (front : ∀ c ∈ before, isBlank c = true)
    (plain : ∀ c ∈ text, isBlank c = false) (some : text ≠ []) (rest : List Char) :
    (before ++ (text ++ rest)).dropWhile isBlank = text ++ rest := by
  obtain ⟨c, text, rfl⟩ := List.exists_cons_of_ne_nil some
  have stop : ¬ isBlank c = true := Bool.eq_false_iff.1 (plain c List.mem_cons_self)
  rw [List.dropWhile_append_of_pos front, List.cons_append, List.dropWhile_cons_of_neg stop]

/-- Blanks around a text that has none of its own are taken away. -/
theorem strip_append {before text after : List Char} (front : ∀ c ∈ before, isBlank c = true)
    (plain : ∀ c ∈ text, isBlank c = false) (back : ∀ c ∈ after, isBlank c = true) :
    strip (before ++ (text ++ after)) = text := by
  unfold strip
  by_cases empty : text = []
  · have blank : (before ++ ([] ++ after)).dropWhile isBlank = [] :=
      List.dropWhile_eq_nil_iff.2 (List.forall_mem_append.2 ⟨front, back⟩)
    rw [empty, blank]
    rfl
  · have back' : ∀ c ∈ after.reverse, isBlank c = true := by simpa using back
    have plain' : ∀ c ∈ text.reverse, isBlank c = false := by simpa using plain
    -- Seen from its end, the text is closed by what stood in front of it.
    have turned := dropWhile_isBlank_append back' plain' (mt List.reverse_eq_nil_iff.1 empty) []
    rw [List.append_nil] at turned
    rw [dropWhile_isBlank_append front plain empty, List.reverse_append, turned,
      List.reverse_reverse]

namespace Base64

/-- The characters that octets are written as. -/
def characters (data : Octets) : List Char :=
  (encode data).map fun octet => Char.ofNat octet.toNat

/-- The text holds the octets in base64, with blanks only around them. -/
def Wraps (data : Octets) (text : List Char) : Prop :=
  ∃ before after, (∀ c ∈ before, isBlank c = true) ∧ (∀ c ∈ after, isBlank c = true) ∧
    text = before ++ (characters data ++ after)

/-- A symbol is an ASCII character other than a blank. -/
theorem plain_symbol {value : Nat} (h : value < 64) :
    (symbol value).toNat < 128 ∧ isBlank (Char.ofNat (symbol value).toNat) = false := by
  revert value
  decide

theorem plain_encode (data : Octets) : ∀ octet ∈ encode data,
    octet.toNat < 128 ∧ isBlank (Char.ofNat octet.toNat) = false := by
  intro octet written
  rw [encode_eq] at written
  rcases List.mem_append.1 written with symbols | padding
  · obtain ⟨value, member, rfl⟩ := List.mem_map.1 symbols
    exact plain_symbol (sextets_lt data value member)
  · rw [List.eq_of_mem_replicate padding]
    decide

theorem Wraps.strip_eq {data : Octets} {text : List Char} (h : Wraps data text) :
    strip text = characters data := by
  obtain ⟨before, after, front, back, rfl⟩ := h
  refine strip_append front (fun c member => ?_) back
  obtain ⟨octet, written, rfl⟩ := List.mem_map.1 member
  exact (plain_encode data octet written).2

end Base64

end Text

namespace RawTemplate

theorem textOctets_map_ofNat {data : Octets} (ascii : ∀ octet ∈ data, octet.toNat < 128) :
    textOctets (data.map fun octet => Char.ofNat octet.toNat) = data := by
  induction data with
  | nil => exact textOctets_eq []
  | cons octet data ih =>
    rw [List.forall_mem_cons] at ascii
    have valid : octet.toNat.isValidChar := .inl (by omega)
    have value : (Char.ofNat octet.toNat).toNat = octet.toNat := by
      unfold Char.ofNat
      rw [dif_pos valid]
      rfl
    rw [List.map_cons, textOctets_cons, utf8EncodeChar_of_ascii (by omega), value,
      UInt8.ofNat_toNat, ih ascii.2]
    rfl

theorem decodeData_base64 {text : String} {length : UInt64} {data : Octets}
    (h : Text.Base64.Wraps data text.toList) : decodeData ⟨.base64, text, length⟩ = .ok data := by
  have ascii : ∀ octet ∈ Text.Base64.encode data, octet.toNat < 128 :=
    fun octet written => (Text.Base64.plain_encode data octet written).1
  unfold decodeData
  simp only
  rw [h.strip_eq, Text.Base64.characters, textOctets_map_ofNat ascii, Text.Base64.decode_encode]
  rfl

/-- The text holds the octets in an encoding. -/
inductive Holds (data : Octets) (text : String) : Encoding → Prop
  | hex (spelled : Text.Hex.Spells (Text.Hex.nibbles data) text.toList) : Holds data text .hex
  | base64 (wrapped : Text.Base64.Wraps data text.toList) : Holds data text .base64

theorem Holds.decodeData {data : Octets} {text : String} {encoding : Encoding}
    (h : Holds data text encoding) (length : UInt64) :
    RawTemplate.decodeData ⟨encoding, text, length⟩ = .ok data := by
  cases h with
  | hex spelled => exact decodeData_hex_eq_ok_iff.2 spelled
  | base64 wrapped => exact decodeData_base64 wrapped

/-- A raw template whose text holds octets in hexadecimal digits or in base64 is read as the first
of them, as many as it declares.  If there are not so many it is refused, and so is every template
that declares more than a template can hold.  What is read always has the declared length, and
hexadecimal text that is read spells octets, of which the frame is the first part. -/
theorem decode_exact (length : UInt64) :
    (∀ data text encoding, Holds data text encoding → length.toNat ≤ 2048 →
      (length.toNat ≤ data.length →
        decode ⟨encoding, text, length⟩ = .ok (data.take length.toNat)) ∧
      (data.length < length.toNat →
        decode ⟨encoding, text, length⟩ = .error (.frame (.shortData data.length length)))) ∧
    (∀ text frame, decode ⟨.hex, text, length⟩ = .ok frame →
      let digits := Text.squeeze text.toList
      digits.length % 2 = 0 ∧ 2 * length.toNat ≤ digits.length ∧
      ∃ data, List.Forall₂ Text.Hex.IsDigit (Text.Hex.nibbles data) digits ∧
        frame = data.take length.toNat) ∧
    (∀ text encoding frame, decode ⟨encoding, text, length⟩ = .ok frame →
      frame.length = length.toNat) ∧
    (2048 < length.toNat → ∀ text encoding,
      decode ⟨encoding, text, length⟩ = .error (.frame (.lengthTooLarge length))) := by
  refine ⟨fun data text encoding holds short => ?_, fun text frame h => ?_,
    fun text encoding frame => length_of_decode, fun long text encoding => if_pos long⟩
  · rw [decode_of_data short (holds.decodeData length)]
    exact ⟨fun enough => if_neg (Nat.not_lt.2 enough), fun few => if_pos few⟩
  · obtain ⟨data, read, enough, cut⟩ := exists_of_decode h
    have digits := Text.Hex.spells_iff.1 (decodeData_hex_eq_ok_iff.1 read)
    have size : 2 * data.length = (Text.squeeze text.toList).length :=
      (Text.Hex.length_nibbles data).symm.trans digits.length_eq
    exact ⟨by omega, size ▸ Nat.mul_le_mul_left 2 enough, data, digits, cut⟩

/-- Digits in both cases with blanks between them, cut off behind the first octet, and base64 that
is too short. -/
theorem decode_exact_splitPair :
    Holds [10, 255] "0 A\u2003fF\n" .hex ∧ Holds [10, 255] " Cv8=\n" .base64 ∧
    decode ⟨.hex, "0 A\u2003fF\n", 1⟩ = .ok [10] ∧
    decode ⟨.base64, " Cv8=\n", 3⟩ = .error (.frame (.shortData 2 3)) := by
  have spelled : Text.Hex.Spells (Text.Hex.nibbles [10, 255])
      ['0', ' ', 'A', '\u2003', 'f', 'F', '\n'] :=
    .digit (by decide) (.blank (by decide) (.digit (by decide) (.blank (by decide)
      (.digit (by decide) (.digit (by decide) (.blank (by decide) .nil))))))
  have hex : Holds [10, 255] "0 A\u2003fF\n" .hex := .hex spelled
  have base64 : Holds [10, 255] " Cv8=\n" .base64 :=
    .base64 ⟨[' '], ['\n'], List.forall_mem_singleton.2 rfl, List.forall_mem_singleton.2 rfl, rfl⟩
  exact ⟨hex, base64, ((decode_exact 1).1 _ _ _ hex (by decide)).1 (by decide),
    ((decode_exact 3).1 _ _ _ base64 (by decide)).2 (by decide)⟩

end RawTemplate

end FrameReplay
