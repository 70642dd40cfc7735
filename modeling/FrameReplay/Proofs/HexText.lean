import FrameReplay.Generator.Raw
import Mathlib.Data.List.Forall2

/-!
# Hexadecimal text, read back

Hexadecimal data of a raw template stands for octets exactly if it spells them: the two digits of
each in either case, and blanks anywhere between (`decodeData_hex_eq_ok_iff`).  So the digits that
the program writes are read back as the octets they were written for (`decodeData_toText`).
-/

namespace FrameReplay

namespace Text.Hex

/-! ## Octets and their digits -/

theorem div_lt_of_octet (octet : UInt8) : octet.toNat / 16 < 16 := by
  have := octet.toNat_lt
  omega

theorem mod_lt_of_octet (octet : UInt8) : octet.toNat % 16 < 16 := Nat.mod_lt _ (by decide)

/-- The values of the two digits of every octet. -/
def nibbles (data : Octets) : List Nat :=
  data.flatMap fun octet => [octet.toNat / 16, octet.toNat % 16]

theorem nibbles_cons (octet : UInt8) (data : Octets) :
    nibbles (octet :: data) = octet.toNat / 16 :: octet.toNat % 16 :: nibbles data := rfl

theorem nibbles_lt (data : Octets) : ∀ value ∈ nibbles data, value < 16 := by
  induction data with
  | nil => nofun
  | cons octet data ih =>
    rw [nibbles_cons, List.forall_mem_cons, List.forall_mem_cons]
    exact ⟨div_lt_of_octet octet, mod_lt_of_octet octet, ih⟩

theorem length_nibbles (data : Octets) : (nibbles data).length = 2 * data.length := by
  induction data with
  | nil => rfl
  | cons octet data ih =>
    rw [nibbles_cons, List.length_cons, List.length_cons, ih, List.length_cons]
    omega

theorem encode_eq (data : Octets) : encode data = (nibbles data).map digit := by
  unfold nibbles
  rw [List.map_flatMap]
  rfl

/-- A digit is an ASCII character with a value below sixteen. -/
theorem value?_bounds {octet : UInt8} {value : Nat} (h : value? octet = some value) :
    octet.toNat < 128 ∧ value < 16 := by
  simp only [value?] at h
  split_ifs at h <;> cases h <;> omega

/-- The octets of a text are digits for the values. -/
def Digits : List Nat → Octets → Prop := List.Forall₂ fun value octet => value? octet = some value

theorem decodePairs_of_digits {data text : Octets} (h : Digits (nibbles data) text)
    (position : Nat) : decodePairs position text = .ok data := by
  -- The place only matters for errors, of which there are none.
  induction data generalizing text position with
  | nil =>
    cases h
    rfl
  | cons octet data ih =>
    have whole : UInt8.ofNat (octet.toNat / 16 * 16 + octet.toNat % 16) = octet := by
      rw [Nat.div_add_mod', UInt8.ofNat_toNat]
    obtain _ | ⟨first, _ | ⟨second, rest⟩⟩ := h
    unfold decodePairs
    simp only [first, second, ih rest, whole]
    rfl

theorem digits_of_decodePairs {position : Nat} {data text : Octets}
    (h : decodePairs position text = .ok data) : Digits (nibbles data) text := by
  fun_induction decodePairs position text generalizing data with
  | case1 position high low rest a b second first ih =>
    cases read : decodePairs (position + 2) rest with
    | error fault =>
      rw [read] at h
      cases h
    | ok tail =>
      rw [read] at h
      cases h
      have a_lt := (value?_bounds first).2
      have b_lt := (value?_bounds second).2
      have value : (UInt8.ofNat (a * 16 + b)).toNat = a * 16 + b := by
        rw [UInt8.toNat_ofNat']
        omega
      have high : (a * 16 + b) / 16 = a := by omega
      have low : (a * 16 + b) % 16 = b := by omega
      rw [nibbles_cons, value, high, low]
      exact .cons first (.cons second (ih read))
  | case5 =>
    cases h
    exact .nil
  | _ => cases h

theorem decode_eq_ok_iff {data text : Octets} :
    decode text = .ok data ↔ Digits (nibbles data) text := by
  unfold decode
  constructor
  · intro h
    split at h
    · cases h
    · exact digits_of_decodePairs h
  · intro h
    have even : ¬ text.length % 2 = 1 := by
      rw [← List.Forall₂.length_eq h, length_nibbles]
      omega
    rw [if_neg even]
    exact decodePairs_of_digits h 0

/-! ## Characters -/

def lowerDigits : List Char :=
  ['0', '1', '2', '3', '4', '5', '6', '7', '8', '9', 'a', 'b', 'c', 'd', 'e', 'f']

def upperDigits : List Char :=
  ['0', '1', '2', '3', '4', '5', '6', '7', '8', '9', 'A', 'B', 'C', 'D', 'E', 'F']

/-- The character is the digit for the value, in either case. -/
def IsDigit (value : Nat) (c : Char) : Prop :=
  lowerDigits[value]? = some c ∨ upperDigits[value]? = some c

instance (value : Nat) (c : Char) : Decidable (IsDigit value c) :=
  inferInstanceAs (Decidable (_ ∨ _))

theorem isDigit_digit {n : Nat} (h : n < 16) : IsDigit n (Char.ofNat (digit n).toNat) := by
  revert n
  decide

/-- A digit is an ASCII character other than a blank. -/
theorem IsDigit.plain {value : Nat} {c : Char} (h : IsDigit value c) :
    c.toNat < 128 ∧ isBlank c = false := by
  have all : (lowerDigits ++ upperDigits).all (fun c => c.toNat < 128 && !isBlank c) = true := by
    decide
  have member : c ∈ lowerDigits ++ upperDigits :=
    List.mem_append.2 (h.imp List.mem_of_getElem? List.mem_of_getElem?)
  simpa using List.all_eq_true.1 all c member

theorem IsDigit.lt {value : Nat} {c : Char} (h : IsDigit value c) : value < 16 :=
  h.elim (fun lower => (List.getElem?_eq_some_iff.1 lower).1)
    fun upper => (List.getElem?_eq_some_iff.1 upper).1

/-- The text spells the values, one digit for each and blanks anywhere. -/
inductive Spells : List Nat → List Char → Prop
  | nil : Spells [] []
  | blank {values text c} (blank : isBlank c = true) (rest : Spells values text) :
    Spells values (c :: text)
  | digit {value values text c} (digit : IsDigit value c) (rest : Spells values text) :
    Spells (value :: values) (c :: text)

theorem spells_iff {values : List Nat} {text : List Char} :
    Spells values text ↔ List.Forall₂ IsDigit values (squeeze text) := by
  constructor
  · intro h
    induction h with
    | nil => exact .nil
    | blank blank _ ih =>
      unfold squeeze at ih ⊢
      rwa [List.filter_cons_of_neg (by rw [blank]; decide)]
    | digit digit _ ih =>
      unfold squeeze at ih ⊢
      rw [List.filter_cons_of_pos (by rw [digit.plain.2]; rfl)]
      exact .cons digit ih
  · intro h
    induction text generalizing values with
    | nil =>
      cases h
      exact .nil
    | cons c text ih =>
      unfold squeeze at ih h
      cases blank : isBlank c with
      | true =>
        rw [List.filter_cons_of_neg (by rw [blank]; decide)] at h
        exact .blank blank (ih h)
      | false =>
        rw [List.filter_cons_of_pos (by rw [blank]; rfl)] at h
        cases h with
        | cons digit rest => exact .digit digit (ih rest)

theorem spells_map_digit {values : List Nat} (small : ∀ value ∈ values, value < 16) :
    Spells values (values.map fun value => Char.ofNat (digit value).toNat) := by
  induction values with
  | nil => exact .nil
  | cons value values ih =>
    rw [List.forall_mem_cons] at small
    exact .digit (isDigit_digit small.1) (ih small.2)

theorem toList_toText (data : Octets) :
    (toText data).toList = (encode data).map fun octet => Char.ofNat octet.toNat :=
  String.toList_ofList

/-- Octets are written in lower case, without blanks. -/
theorem spells_toText (data : Octets) : Spells (nibbles data) (toText data).toList := by
  rw [toList_toText, encode_eq, List.map_map]
  exact spells_map_digit (nibbles_lt data)

theorem value?_eq_some_iff {n : Nat} (h : n < 128) (value : Nat) :
    value? (UInt8.ofNat n) = some value ↔ IsDigit value (Char.ofNat n) := by
  have all : ∀ n < 128, ∀ value < 16,
      value? (UInt8.ofNat n) = some value ↔ IsDigit value (Char.ofNat n) := by
    decide +kernel
  exact ⟨fun read => (all n h value (value?_bounds read).2).1 read,
    fun digit => (all n h value digit.lt).2 digit⟩

end Text.Hex

namespace RawTemplate

theorem textOctets_eq (text : List Char) :
    textOctets text = text.flatMap String.utf8EncodeChar := by
  change (String.ofList text).toByteArray.data.toList = _
  rw [String.toByteArray_ofList]
  unfold List.utf8Encode
  rw [List.data_toByteArray]

theorem textOctets_cons (c : Char) (text : List Char) :
    textOctets (c :: text) = String.utf8EncodeChar c ++ textOctets text := by
  rw [textOctets_eq, textOctets_eq, List.flatMap_cons]

/-- An ASCII character is one octet of a text. -/
theorem utf8EncodeChar_of_ascii {c : Char} (h : c.toNat < 128) :
    String.utf8EncodeChar c = [UInt8.ofNat c.toNat] :=
  if_pos (Nat.le_of_lt_succ h)

/-- Other characters begin with an octet that is no ASCII character. -/
theorem exists_utf8EncodeChar {c : Char} (h : 128 ≤ c.toNat) :
    ∃ lead rest, String.utf8EncodeChar c = lead :: rest ∧ 128 ≤ lead.toNat := by
  have other : ¬ c.val.toNat ≤ 127 := Nat.not_le.2 h
  unfold String.utf8EncodeChar
  simp only [if_neg other]
  split_ifs <;> refine ⟨_, _, rfl, ?_⟩ <;> rw [UInt8.toNat_ofNat'] <;> omega

/-- Octets of a text are digits exactly if its characters are. -/
theorem digits_textOctets_iff {values : List Nat} {text : List Char} :
    Text.Hex.Digits values (textOctets text) ↔ List.Forall₂ Text.Hex.IsDigit values text := by
  induction text generalizing values with
  | nil =>
    have nothing : textOctets [] = [] := textOctets_eq []
    rw [nothing]
    exact List.forall₂_nil_right_iff.trans List.forall₂_nil_right_iff.symm
  | cons c text ih =>
    rw [textOctets_cons, List.forall₂_cons_right_iff]
    by_cases ascii : c.toNat < 128
    · have read (value : Nat) := Text.Hex.value?_eq_some_iff ascii value
      simp only [Char.ofNat_toNat] at read
      rw [utf8EncodeChar_of_ascii ascii]
      refine List.forall₂_cons_right_iff.trans ?_
      simp only [read]
      exact exists_congr fun value => exists_congr fun values => and_congr_right fun _ =>
        and_congr_left fun _ => ih
    · obtain ⟨lead, rest, written, large⟩ := exists_utf8EncodeChar (Nat.le_of_not_lt ascii)
      rw [written]
      constructor
      · intro digits
        obtain _ | ⟨digit, -⟩ := digits
        exact absurd (Text.Hex.value?_bounds digit).1 (Nat.not_lt.2 large)
      · rintro ⟨value, values, digit, -, -⟩
        exact absurd digit.plain.1 ascii

theorem decodeData_hex_eq_ok_iff {text : String} {length : UInt64} {data : Octets} :
    decodeData ⟨.hex, text, length⟩ = .ok data ↔
      Text.Hex.Spells (Text.Hex.nibbles data) text.toList := by
  rw [Text.Hex.spells_iff, ← digits_textOctets_iff, ← Text.Hex.decode_eq_ok_iff]
  unfold decodeData
  simp only
  cases Text.Hex.decode (textOctets (Text.squeeze text.toList)) <;> simp [Except.mapError]

/-- The data of a template whose text is written in hexadecimal digits. -/
theorem decodeData_toText (data : Octets) (length : UInt64) :
    decodeData ⟨.hex, Text.Hex.toText data, length⟩ = .ok data :=
  decodeData_hex_eq_ok_iff.2 (Text.Hex.spells_toText data)

end RawTemplate

end FrameReplay
