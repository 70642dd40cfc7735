import FrameReplay.Address.Mac
import FrameReplay.Proofs.HexText

/-!
# Texts of MAC addresses

A text is read as an address if it consists of six groups with one separator between any two.  A
group spells its octet by two digits, or by a plus sign and one digit (`ofText?_eq_some_iff`).  So
the plus sign is all that keeps the reader from taking pairs of digits only: a text that is spelled
by pairs is read, and a text that is read is spelled by pairs if it has no plus sign
(`ofText?_grammar`).
-/

namespace FrameReplay

namespace Mac

open Text.Hex (IsDigit)

/-! ## Groups -/

theorem digit?_eq_some_iff {c : Char} {value : Nat} :
    digit? c = some value ↔ IsDigit value c := by
  have small : c.val < 128 ↔ c.toNat < 128 := UInt32.lt_iff_toNat_lt
  unfold digit?
  by_cases ascii : c.toNat < 128
  · rw [if_pos (small.2 ascii)]
    have read := Text.Hex.value?_eq_some_iff ascii value
    rwa [Char.ofNat_toNat] at read
  · rw [if_neg (mt small.1 ascii)]
    exact ⟨nofun, fun digit => absurd digit.plain.1 ascii⟩

/-- The group spells the octet by two digits. -/
def IsPair (octet : UInt8) (group : List Char) : Prop :=
  ∃ high low, group = [high, low] ∧
    IsDigit (octet.toNat / 16) high ∧ IsDigit (octet.toNat % 16) low

/-- The group spells the octet by a plus sign and one digit. -/
def IsSigned (octet : UInt8) (group : List Char) : Prop :=
  ∃ digit, group = ['+', digit] ∧ IsDigit octet.toNat digit

def IsGroup (octet : UInt8) (group : List Char) : Prop := IsPair octet group ∨ IsSigned octet group

/-- A digit is neither the plus sign nor a character that separates groups. -/
theorem plain_of_isDigit {value : Nat} {c : Char} (h : IsDigit value c) :
    c ≠ '+' ∧ isSeparator c = false := by
  have all : (Text.Hex.lowerDigits ++ Text.Hex.upperDigits).all
      (fun c => c != '+' && !isSeparator c) = true := by
    decide
  have member : c ∈ Text.Hex.lowerDigits ++ Text.Hex.upperDigits :=
    List.mem_append.2 (h.imp List.mem_of_getElem? List.mem_of_getElem?)
  simpa using List.all_eq_true.1 all c member

theorem plus_not_mem_of_isPair {octet : UInt8} {group : List Char} (h : IsPair octet group) :
    '+' ∉ group := by
  obtain ⟨high, low, rfl, first, second⟩ := h
  have first := (plain_of_isDigit first).1
  have second := (plain_of_isDigit second).1
  simp only [List.mem_cons, List.not_mem_nil, or_false, not_or]
  exact ⟨first.symm, second.symm⟩

theorem not_separator_of_mem_group {octet : UInt8} {group : List Char} (h : IsGroup octet group) :
    ∀ c ∈ group, isSeparator c = false := by
  rcases h with ⟨high, low, rfl, first, second⟩ | ⟨digit, rfl, value⟩
  · simp only [List.forall_mem_cons]
    exact ⟨(plain_of_isDigit first).2, (plain_of_isDigit second).2, nofun⟩
  · simp only [List.forall_mem_cons]
    exact ⟨rfl, (plain_of_isDigit value).2, nofun⟩

theorem readGroup?_pair_eq_some_iff {high low : Char} (digit : high ≠ '+') {octet : UInt8} :
    readGroup? [high, low] = some octet ↔ IsPair octet [high, low] := by
  unfold readGroup?
  simp only [if_neg digit]
  constructor
  · intro h
    obtain ⟨a, first, h⟩ := Option.bind_eq_some_iff.1 h
    obtain ⟨b, second, h⟩ := Option.bind_eq_some_iff.1 h
    cases h
    rw [digit?_eq_some_iff] at first second
    have a_lt := first.lt
    have b_lt := second.lt
    have value : (UInt8.ofNat (a * 16 + b)).toNat = a * 16 + b := by
      rw [UInt8.toNat_ofNat']
      omega
    have quotient : (a * 16 + b) / 16 = a := by omega
    have rest : (a * 16 + b) % 16 = b := by omega
    refine ⟨high, low, rfl, ?_, ?_⟩
    · rwa [value, quotient]
    · rwa [value, rest]
  · rintro ⟨_, _, same, first, second⟩
    cases same
    rw [digit?_eq_some_iff.2 first, digit?_eq_some_iff.2 second]
    show some (UInt8.ofNat (octet.toNat / 16 * 16 + octet.toNat % 16)) = _
    rw [Nat.div_add_mod', UInt8.ofNat_toNat]

theorem readGroup?_signed_eq_some_iff {low : Char} {octet : UInt8} :
    readGroup? ['+', low] = some octet ↔ IsSigned octet ['+', low] := by
  unfold readGroup?
  simp only [if_true]
  constructor
  · intro h
    obtain ⟨value, digit, h⟩ := Option.bind_eq_some_iff.1 h
    cases h
    rw [digit?_eq_some_iff] at digit
    have small := digit.lt
    refine ⟨low, rfl, ?_⟩
    rwa [UInt8.toNat_ofNat', Nat.mod_eq_of_lt (by omega)]
  · rintro ⟨_, same, digit⟩
    cases same
    rw [digit?_eq_some_iff.2 digit]
    show some (UInt8.ofNat octet.toNat) = _
    rw [UInt8.ofNat_toNat]

theorem readGroup?_eq_some_iff {group : List Char} {octet : UInt8} :
    readGroup? group = some octet ↔ IsGroup octet group := by
  -- Neither reader nor grammar knows a group of another length than two.
  match group with
  | [high, low] =>
    by_cases plus : high = '+'
    · subst plus
      rw [readGroup?_signed_eq_some_iff]
      refine ⟨.inr, ?_⟩
      rintro (pair | signed)
      · exact absurd List.mem_cons_self (plus_not_mem_of_isPair pair)
      · exact signed
    · rw [readGroup?_pair_eq_some_iff plus]
      refine ⟨.inl, ?_⟩
      rintro (pair | ⟨_, same, -⟩)
      · exact pair
      · cases same
        exact absurd rfl plus
  | [] | [_] | _ :: _ :: _ :: _ =>
    refine ⟨nofun, ?_⟩
    rintro (⟨_, _, same, -⟩ | ⟨_, same, -⟩) <;> cases same

/-! ## Texts -/

theorem exists_octet_of_mem {spelled : UInt8 → List Char → Prop} {data : Octets}
    {groups : List (List Char)} (h : List.Forall₂ spelled data groups) :
    ∀ group ∈ groups, ∃ octet, spelled octet group := by
  induction h with
  | nil => nofun
  | cons first rest ih => exact List.forall_mem_cons.2 ⟨⟨_, first⟩, ih⟩

/-- The text is made of the groups in order, with one separator between any two. -/
inductive Joined : List (List Char) → List Char → Prop
  | last (group : List Char) : Joined [group] group
  | more (group : List Char) {separator : Char} {groups : List (List Char)} {text : List Char}
    (between : separator = ':' ∨ separator = '-') (rest : Joined groups text) :
    Joined (group :: groups) (group ++ separator :: text)

theorem isSeparator_iff {c : Char} : isSeparator c = true ↔ c = ':' ∨ c = '-' := by
  unfold isSeparator
  rw [Bool.or_eq_true, beq_iff_eq, beq_iff_eq]

theorem joined_splitOnP (text : List Char) : Joined (text.splitOnP isSeparator) text := by
  induction text with
  | nil => exact .last []
  | cons c text ih =>
    rw [List.splitOnP_cons_eq_if_modifyHead]
    split
    · rename_i separates
      exact .more [] (isSeparator_iff.1 separates) ih
    · -- The character belongs to the first group of the rest.
      generalize text.splitOnP isSeparator = groups at ih ⊢
      cases ih with
      | last => exact .last (c :: text)
      | more group between rest => exact .more (c :: group) between rest

theorem splitOnP_of_joined {groups : List (List Char)} {text : List Char} (h : Joined groups text)
    (pure : ∀ group ∈ groups, ∀ c ∈ group, isSeparator c = false) :
    text.splitOnP isSeparator = groups := by
  induction h with
  | last group => exact List.splitOnP_eq_singleton (pure group List.mem_cons_self)
  | more group between rest ih =>
    rw [List.forall_mem_cons] at pure
    rw [List.splitOnP_append_cons_of_forall_mem pure.1 _ (isSeparator_iff.2 between), ih pure.2]

/-- A plus sign in a text is part of one of its groups. -/
theorem plus_mem_iff_of_joined {groups : List (List Char)} {text : List Char}
    (h : Joined groups text) : '+' ∈ text ↔ ∃ group ∈ groups, '+' ∈ group := by
  induction h with
  | last group => simp only [List.mem_singleton, exists_eq_left]
  | more group between rest ih =>
    have other : ∀ {c}, c = ':' ∨ c = '-' → '+' ≠ c := by
      rintro _ (rfl | rfl) <;> decide
    rw [List.mem_append, List.mem_cons, or_iff_right (other between), ih]
    simp only [List.mem_cons, exists_eq_or_imp]

/-- The text spells the octets, each by a group as `spelled` allows. -/
def Spells (spelled : UInt8 → List Char → Prop) (data : Octets) (text : List Char) : Prop :=
  ∃ groups, Joined groups text ∧ List.Forall₂ spelled data groups

theorem ofText?_eq_some_iff {text : String} {mac : Mac} :
    ofText? text = some mac ↔ Spells IsGroup mac.toOctets text.toList := by
  unfold ofText? toOctets Spells
  constructor
  · intro h
    refine ⟨_, joined_splitOnP text.toList, ?_⟩
    split at h
    · rename_i groups
      simp only [Option.bind_eq_bind, Option.bind_eq_some_iff, Option.pure_def, Option.some.injEq,
        readGroup?_eq_some_iff] at h
      obtain ⟨a, ha, b, hb, c, hc, d, hd, e, he, f, hf, rfl⟩ := h
      rw [groups]
      exact .cons ha (.cons hb (.cons hc (.cons hd (.cons he (.cons hf .nil)))))
    · cases h
  · rintro ⟨groups, joined, spelled⟩
    have pure : ∀ group ∈ groups, ∀ c ∈ group, isSeparator c = false := by
      intro group member
      obtain ⟨octet, group⟩ := exists_octet_of_mem spelled group member
      exact not_separator_of_mem_group group
    rw [splitOnP_of_joined joined pure]
    obtain _ | ⟨ha, _ | ⟨hb, _ | ⟨hc, _ | ⟨hd, _ | ⟨he, _ | ⟨hf, ⟨⟩⟩⟩⟩⟩⟩⟩ := spelled
    simp only [readGroup?_eq_some_iff.2 ha, readGroup?_eq_some_iff.2 hb,
      readGroup?_eq_some_iff.2 hc, readGroup?_eq_some_iff.2 hd, readGroup?_eq_some_iff.2 he,
      readGroup?_eq_some_iff.2 hf]
    rfl

theorem groups_of_pairs {data : Octets} {text : List Char} (h : Spells IsPair data text) :
    Spells IsGroup data text := by
  obtain ⟨groups, joined, spelled⟩ := h
  exact ⟨groups, joined, spelled.imp fun _ _ => .inl⟩

theorem plus_not_mem_of_pairs {data : Octets} {text : List Char} (h : Spells IsPair data text) :
    '+' ∉ text := by
  obtain ⟨groups, joined, spelled⟩ := h
  rw [plus_mem_iff_of_joined joined]
  rintro ⟨group, member, plus⟩
  obtain ⟨octet, pair⟩ := exists_octet_of_mem spelled group member
  exact plus_not_mem_of_isPair pair plus

theorem pairs_of_plus_not_mem {data : Octets} {text : List Char} (h : Spells IsGroup data text)
    (free : '+' ∉ text) : Spells IsPair data text := by
  obtain ⟨groups, joined, spelled⟩ := h
  rw [plus_mem_iff_of_joined joined] at free
  refine ⟨groups, joined, ?_⟩
  clear joined
  induction spelled with
  | nil => exact .nil
  | cons first rest ih =>
    simp only [List.mem_cons, exists_eq_or_imp, not_or] at free
    rcases first with pair | ⟨digit, rfl, -⟩
    · exact .cons pair (ih free.2)
    · exact absurd List.mem_cons_self free.1

/-- Exactly the texts of six groups with a colon or a hyphen between any two are read, each group
two digits of either case, or a plus sign and one digit, and the octets are the values of the groups
in order.  The texts of six pairs of digits are those that are read and have no plus sign. -/
theorem ofText?_grammar (text : String) (mac : Mac) :
    (ofText? text = some mac ↔ Spells IsGroup mac.toOctets text.toList) ∧
    (Spells IsPair mac.toOctets text.toList ↔ ofText? text = some mac ∧ '+' ∉ text.toList) := by
  refine ⟨ofText?_eq_some_iff, ?_⟩
  rw [ofText?_eq_some_iff]
  constructor
  · intro pairs
    exact ⟨groups_of_pairs pairs, plus_not_mem_of_pairs pairs⟩
  · rintro ⟨groups, free⟩
    exact pairs_of_plus_not_mem groups free

/-- A plus sign takes the place of a digit, and the text is read all the same. -/
theorem ofText?_takes_plus :
    ofText? "+f:00:5e:10:00:01" = some ⟨15, 0, 94, 16, 0, 1⟩ ∧
      ∀ mac : Mac, ¬ Spells IsPair mac.toOctets "+f:00:5e:10:00:01".toList := by
  constructor
  · decide
  · intro mac pairs
    exact plus_not_mem_of_pairs pairs (by decide)

end Mac

end FrameReplay
