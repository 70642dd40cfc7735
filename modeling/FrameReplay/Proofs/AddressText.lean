import FrameReplay.Address.Ipv4
import FrameReplay.Proofs.MacText

/-!
# Addresses, read back

The text of an IPv4 address is taken apart at its points, none of which is part of a number, and
every number is read back on its own.  The text of a MAC address is made of pairs of digits, which
is one of the spellings that are read.
-/

namespace FrameReplay

/-! ## IPv4 addresses -/

namespace Ipv4

theorem toList_toString (n : Nat) : (toString n).toList = Nat.toDigits 10 n := by
  change (String.ofList (Nat.toDigits 10 n)).toList = _
  exact String.toList_ofList

theorem readPart?_toDigits {n : Nat} (h : n < 256) :
    readPart? (Nat.toDigits 10 n) = some (UInt8.ofNat n) := by
  -- All numbers of an octet are tried.
  revert n
  decide +kernel

theorem readPart?_toString (octet : UInt8) :
    readPart? (toString octet.toNat).toList = some octet := by
  rw [toList_toString, readPart?_toDigits octet.toNat_lt, UInt8.ofNat_toNat]

theorem point_not_mem_toString (n : Nat) : '.' ∉ (toString n).toList := by
  intro member
  rw [toList_toString] at member
  have digit := Nat.isDigit_of_mem_toDigits (by decide) (by decide) member
  exact absurd digit (by decide)

theorem toList_toText (ip : Ipv4) :
    ip.toText.toList =
      ['.'].intercalate (ip.toOctets.map fun octet => (toString octet.toNat).toList) := by
  unfold toText
  rw [String.toList_intercalate, List.map_map]
  rfl

theorem ofText?_toText (ip : Ipv4) : ofText? ip.toText = some ip := by
  have parts : ip.toText.toList.splitOn '.' =
      ip.toOctets.map fun octet => (toString octet.toNat).toList := by
    rw [toList_toText]
    apply List.splitOn_intercalate
    · intro part member
      obtain ⟨octet, -, rfl⟩ := List.mem_map.1 member
      exact point_not_mem_toString octet.toNat
    · exact List.cons_ne_nil _ _
  unfold ofText?
  rw [parts]
  simp only [toOctets, List.map_cons, List.map_nil, readPart?_toString]
  rfl

end Ipv4

/-! ## MAC addresses -/

namespace Mac

theorem isPair_toText (octet : UInt8) : IsPair octet (Text.Hex.toText [octet]).toList :=
  ⟨_, _, Text.Hex.toList_toText [octet], Text.Hex.isDigit_digit (Text.Hex.div_lt_of_octet octet),
    Text.Hex.isDigit_digit (Text.Hex.mod_lt_of_octet octet)⟩

theorem joined_intercalate {groups : List (List Char)} (some : groups ≠ []) :
    Joined groups ([':'].intercalate groups) := by
  induction groups with
  | nil => exact absurd rfl some
  | cons group groups ih =>
    -- A colon stands behind every group but the last one.
    cases groups with
    | nil =>
      rw [List.intercalate_singleton]
      exact .last group
    | cons next groups =>
      rw [List.intercalate_cons_cons, List.append_assoc, List.singleton_append]
      exact .more group (.inl rfl) (ih (List.cons_ne_nil _ _))

/-- An address is written in pairs of digits. -/
theorem spells_toText (mac : Mac) : Spells IsPair mac.toOctets mac.toText.toList := by
  refine ⟨mac.toOctets.map fun octet => (Text.Hex.toText [octet]).toList, ?_, ?_⟩
  · unfold toText
    rw [String.toList_intercalate, List.map_map]
    apply joined_intercalate
    exact mt List.map_eq_nil_iff.1 (List.cons_ne_nil _ _)
  · rw [List.forall₂_map_right_iff, List.forall₂_same]
    intro octet _
    exact isPair_toText octet

theorem ofText?_toText (mac : Mac) : ofText? mac.toText = some mac :=
  ofText?_eq_some_iff.2 (groups_of_pairs (spells_toText mac))

end Mac

end FrameReplay
