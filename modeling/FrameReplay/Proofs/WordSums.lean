import Mathlib.Algebra.GroupWithZero.Nat

/-!
# Sums in words

A sum that is taken in words, one summand after the other and without a check, keeps what a word
holds of the sum of the numbers.
-/

namespace FrameReplay

variable {α : Type}

theorem toNat_foldl_add (f : α → UInt64) (items : List α) (start : UInt64) :
    (items.foldl (fun total item => total + f item) start).toNat =
      (start.toNat + (items.map fun item => (f item).toNat).sum) % 2 ^ 64 := by
  induction items generalizing start with
  | nil => exact (Nat.mod_eq_of_lt start.toNat_lt).symm
  | cons item items ih =>
    rw [List.foldl_cons, ih, UInt64.toNat_add, List.map_cons, List.sum_cons, Nat.mod_add_mod,
      Nat.add_assoc]

/-- With signs, the numbers need not be words themselves. -/
theorem toInt_foldl_add_ofNat (f : α → Nat) (items : List α) (start : Int64) :
    (items.foldl (fun total item => total + Int64.ofNat (f item)) start).toInt =
      (start.toInt + ((items.map f).sum : Nat)).bmod (2 ^ 64) := by
  induction items generalizing start with
  | nil =>
    rw [List.map_nil, List.sum_nil, Int.natCast_zero, Int.add_zero]
    exact start.toInt_bmod.symm
  | cons item items ih =>
    have word : Int64.size = 2 ^ 64 := rfl
    rw [List.foldl_cons, ih, Int64.toInt_add, Int64.toInt_ofNat', word, Int.bmod_add_bmod,
      Int.add_right_comm, Int.add_bmod_bmod, Int.add_right_comm, Int.add_assoc, List.map_cons,
      List.sum_cons, Int.natCast_add]

theorem ofNat_sum_toNat (f : α → Nat) (items : List α) :
    UInt64.ofNat (items.map fun item => (UInt64.ofNat (f item)).toNat).sum =
      UInt64.ofNat (items.map f).sum := by
  induction items with
  | nil => rfl
  | cons item items ih =>
    simp only [List.map_cons, List.sum_cons, UInt64.ofNat_add, UInt64.ofNat_toNat, ih]

end FrameReplay
