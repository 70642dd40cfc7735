import FrameReplay.Text.Base64
import Mathlib.Data.List.Basic

/-!
# Base64 text, read back

Octets that are written in base64 are read back as they were (`decode_encode`).  The text is first
seen as a run of six-bit values and some padding behind it (`encode_eq`); the reader cuts the run in
two where its last group begins, but takes the same values from both parts.
-/

namespace FrameReplay.Text.Base64

/-! ## Octets as six-bit values -/

/-- The six-bit values that octets are cut into; the last one is filled up with zeros. -/
def sextets : Octets → List Nat
  | [] => []
  | [a] => [a.toNat / 4, a.toNat % 4 * 16]
  | [a, b] => [a.toNat / 4, a.toNat % 4 * 16 + b.toNat / 16, b.toNat % 16 * 4]
  | a :: b :: c :: rest =>
    a.toNat / 4 :: (a.toNat % 4 * 16 + b.toNat / 16) :: (b.toNat % 16 * 4 + c.toNat / 64) ::
      c.toNat % 64 :: sextets rest

/-- How many `=` stand behind the symbols. -/
def pads : Octets → Nat
  | [] => 0
  | [_] => 2
  | [_, _] => 1
  | _ :: _ :: _ :: rest => pads rest

theorem pads_le (data : Octets) : pads data ≤ 2 := by
  fun_induction pads data with
  | case1 => decide
  | case2 => decide
  | case3 => decide
  | case4 a b c rest ih => exact ih

theorem encode_eq (data : Octets) :
    encode data = (sextets data).map symbol ++ List.replicate (pads data) pad := by
  fun_induction sextets data with
  | case1 => rfl
  | case2 => rfl
  | case3 => rfl
  | case4 a b c rest ih =>
    rw [encode, ih]
    rfl

theorem sextets_lt (data : Octets) : ∀ value ∈ sextets data, value < 64 := by
  fun_induction sextets data with
  | case1 => simp
  | case2 a =>
    have := a.toNat_lt
    simp only [List.forall_mem_cons]
    refine ⟨by omega, by omega, by simp⟩
  | case3 a b =>
    have := a.toNat_lt
    have := b.toNat_lt
    simp only [List.forall_mem_cons]
    refine ⟨by omega, by omega, by omega, by simp⟩
  | case4 a b c rest ih =>
    have := a.toNat_lt
    have := b.toNat_lt
    have := c.toNat_lt
    simp only [List.forall_mem_cons]
    exact ⟨by omega, by omega, by omega, by omega, ih⟩

/-- Symbols and padding fill groups of four. -/
theorem length_sextets_add_pads (data : Octets) :
    ((sextets data).length + pads data) % 4 = 0 := by
  fun_induction sextets data with
  | case1 => rfl
  | case2 => exact Nat.mod_self 4
  | case3 => exact Nat.mod_self 4
  | case4 a b c rest ih =>
    simp only [pads, List.length_cons] at ih ⊢
    omega

theorem join_sextets (data : Octets) : join (sextets data) = data := by
  fun_induction sextets data with
  | case1 => rfl
  | case2 a =>
    have first : a.toNat / 4 * 4 + a.toNat % 4 * 16 / 16 = a.toNat := by omega
    simp only [join, first, UInt8.ofNat_toNat]
  | case3 a b =>
    have low := b.toNat_lt
    have first : a.toNat / 4 * 4 + (a.toNat % 4 * 16 + b.toNat / 16) / 16 = a.toNat := by omega
    have second : (a.toNat % 4 * 16 + b.toNat / 16) % 16 * 16 + b.toNat % 16 * 4 / 4 = b.toNat := by
      omega
    simp only [join, first, second, UInt8.ofNat_toNat]
  | case4 a b c rest ih =>
    have := b.toNat_lt
    have := c.toNat_lt
    have first : a.toNat / 4 * 4 + (a.toNat % 4 * 16 + b.toNat / 16) / 16 = a.toNat := by omega
    have second : (a.toNat % 4 * 16 + b.toNat / 16) % 16 * 16 +
        (b.toNat % 16 * 4 + c.toNat / 64) / 4 = b.toNat := by omega
    have third : (b.toNat % 16 * 4 + c.toNat / 64) % 4 * 64 + c.toNat % 64 = c.toNat := by omega
    simp only [join, first, second, third, ih, UInt8.ofNat_toNat]

/-- Full groups that were read before do not count for the bits that are left over. -/
theorem leftover_append (values : List Nat) {before : List Nat} (full : before.length % 4 = 0) :
    leftover (values ++ before) = leftover values := by
  have same : (values ++ before).length % 4 = values.length % 4 := by
    rw [List.length_append]
    omega
  cases values with
  | nil =>
    unfold leftover
    simp only [List.nil_append, full]
    rfl
  | cons last values =>
    unfold leftover
    rw [same, List.cons_append]
    generalize (last :: values).length % 4 = part
    rcases part with _ | _ | _ | _ | _ <;> rfl

theorem leftover_sextets (data : Octets) : leftover (sextets data).reverse = 0 := by
  fun_induction sextets data with
  | case1 => rfl
  | case2 a => exact Nat.mul_mod_left _ _
  | case3 a b => exact Nat.mul_mod_left _ _
  | case4 a b c rest ih =>
    simp only [List.reverse_cons, List.append_assoc]
    refine (leftover_append _ ?_).trans ih
    exact Nat.mod_self 4

theorem leftover_drop_sextets (data : Octets) {base : Nat} (full : base % 4 = 0)
    (inside : base ≤ (sextets data).length) :
    leftover ((sextets data).drop base).reverse = 0 := by
  have before : ((sextets data).take base).reverse.length % 4 = 0 := by
    rw [List.length_reverse, List.length_take, Nat.min_eq_left inside, full]
  rw [← leftover_append _ before, ← List.reverse_append, List.take_append_drop, leftover_sextets]

/-! ## The text, read back -/

theorem value?_symbol {value : Nat} (h : value < 64) : value? (symbol value) = some value := by
  revert value
  decide

theorem symbol_ne_pad {value : Nat} (h : value < 64) : symbol value ≠ pad := by
  revert value
  decide

theorem readSymbols_map_symbol {values : List Nat} (small : ∀ value ∈ values, value < 64)
    (offset : Nat) : readSymbols offset (values.map symbol) = .ok values := by
  induction values generalizing offset with
  | nil => rfl
  | cons value values ih =>
    rw [List.forall_mem_cons] at small
    rw [List.map_cons, readSymbols, value?_symbol small.1]
    simp only [ih small.2]
    rfl

/-- Symbols in front of any padding are taken one by one. -/
theorem readFrom_map_symbol {values : List Nat} (small : ∀ value ∈ values, value < 64)
    (base i : Nat) (group : Group) (unpadded : group.firstPad = none) (rest : Octets) :
    ∃ lastSymbol, group.readFrom base i (values.map symbol ++ rest) =
      Group.readFrom base (i + values.length)
        { group with values := values.reverse ++ group.values, lastSymbol } rest := by
  induction values generalizing i group with
  | nil => exact ⟨group.lastSymbol, rfl⟩
  | cons value values ih =>
    rw [List.forall_mem_cons] at small
    have step : group.step base i (symbol value) =
        .ok { group with values := value :: group.values, lastSymbol := symbol value } := by
      unfold Group.step
      simp only [if_neg (symbol_ne_pad small.1), unpadded, value?_symbol small.1]
    obtain ⟨lastSymbol, read⟩ := ih small.2 (i + 1)
      { group with values := value :: group.values, lastSymbol := symbol value } unpadded
    refine ⟨lastSymbol, ?_⟩
    rw [List.map_cons, List.cons_append, Group.readFrom, step]
    refine read.trans ?_
    rw [List.reverse_cons, List.append_assoc, List.length_cons, Nat.add_right_comm]
    rfl

/-- Padding that fills up a group of four is counted. -/
theorem readFrom_replicate_pad (base i : Nat) (group : Group) {count : Nat} (few : count ≤ 2)
    (fills : (i + count) % 4 = 0) :
    ∃ firstPad, group.readFrom base i (List.replicate count pad) =
      .ok { group with firstPad, pads := group.pads + count } := by
  induction count generalizing i group with
  | zero => exact ⟨group.firstPad, rfl⟩
  | succ count ih =>
    have late : ¬ i % 4 < 2 := by omega
    obtain ⟨firstPad, read⟩ := ih (i + 1)
      { group with firstPad := some (group.firstPad.getD i), pads := group.pads + 1 } (by omega)
      (by omega)
    refine ⟨firstPad, ?_⟩
    rw [List.replicate_succ, Group.readFrom, Group.step, if_pos rfl, if_neg late]
    refine read.trans ?_
    rw [Nat.add_right_comm, Nat.add_assoc]

/-- The text cut in two in front of the padding. -/
theorem take_drop_encode (data : Octets) {base : Nat} (inside : base ≤ (sextets data).length) :
    (encode data).take base = ((sextets data).take base).map symbol ∧
      (encode data).drop base =
        ((sextets data).drop base).map symbol ++ List.replicate (pads data) pad := by
  have inside' : base ≤ ((sextets data).map symbol).length := by rwa [List.length_map]
  rw [encode_eq, List.take_append_of_le_length inside', List.drop_append_of_le_length inside',
    List.map_take, List.map_drop]
  exact ⟨rfl, rfl⟩

/-- The reader takes all values that are left for the last group, and all of the padding. -/
theorem readFrom_drop_encode (data : Octets) {base : Nat} (full : base % 4 = 0)
    (inside : base ≤ (sextets data).length) :
    ∃ group, Group.readFrom base 0 ⟨[], 0, none, 0⟩ ((encode data).drop base) = .ok group ∧
      group.values = ((sextets data).drop base).reverse ∧ group.pads = pads data := by
  have small : ∀ value ∈ (sextets data).drop base, value < 64 :=
    fun value member => sextets_lt data value (List.mem_of_mem_drop member)
  have fills : (0 + ((sextets data).drop base).length + pads data) % 4 = 0 := by
    have whole := length_sextets_add_pads data
    rw [List.length_drop]
    omega
  rw [(take_drop_encode data inside).2]
  obtain ⟨lastSymbol, symbols⟩ := readFrom_map_symbol small base 0 ⟨[], 0, none, 0⟩ rfl
    (List.replicate (pads data) pad)
  obtain ⟨firstPad, padding⟩ := readFrom_replicate_pad base _
    ⟨((sextets data).drop base).reverse ++ [], lastSymbol, none, 0⟩ (pads_le data) fills
  exact ⟨_, symbols.trans padding, List.append_nil _, Nat.zero_add _⟩

theorem decode_encode (data : Octets) : decode (encode data) = .ok data := by
  have few := pads_le data
  have fills := length_sextets_add_pads data
  have size : (encode data).length = (sextets data).length + pads data := by
    rw [encode_eq, List.length_append, List.length_map, List.length_replicate]
  unfold decode
  simp only [size]
  by_cases empty : (sextets data).length + pads data = 0
  · have nothing : data = [] := by
      rw [← join_sextets data, List.eq_nil_of_length_eq_zero (Nat.eq_zero_of_add_eq_zero empty).1]
      rfl
    rw [if_pos empty, nothing]
    rfl
  · have whole : ¬ ((sextets data).length + pads data) % 4 = 1 := by omega
    rw [if_neg empty, if_neg whole]
    -- The last group takes in all of the padding.
    obtain ⟨base, cut, full, inside⟩ : ∃ base, (sextets data).length + pads data -
        (if ((sextets data).length + pads data) % 8 = 0 then 8
          else ((sextets data).length + pads data) % 8) = base ∧
        base % 4 = 0 ∧ base ≤ (sextets data).length := by
      refine ⟨_, rfl, ?_, ?_⟩ <;> split <;> omega
    have front : readSymbols 0 ((encode data).take base) = .ok ((sextets data).take base) := by
      rw [(take_drop_encode data inside).1]
      exact readSymbols_map_symbol
        (fun value member => sextets_lt data value (List.mem_of_mem_take member)) 0
    obtain ⟨group, read, values, padding⟩ := readFrom_drop_encode data full inside
    have filled : ¬ (group.values.length + group.pads) % 4 ≠ 0 := by
      rw [values, padding, List.length_reverse, List.length_drop]
      omega
    have clean : ¬ leftover group.values ≠ 0 := by
      rw [values]
      exact fun other => other (leftover_drop_sextets data full inside)
    have joined : join ((sextets data).take base ++ group.values.reverse) = data := by
      rw [values, List.reverse_reverse, List.take_append_drop, join_sextets]
    simp only [cut, front, read, bind, Except.bind, if_neg filled, if_neg clean, joined]
    rfl

end FrameReplay.Text.Base64
