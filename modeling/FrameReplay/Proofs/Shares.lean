import Mathlib.Algebra.GroupWithZero.Nat
import FrameReplay.Engine.Config
import FrameReplay.Proofs.WordSums

/-!
# Shares of the contexts

The packets are divided evenly, and what remains goes to the first contexts, one packet each.  No
share overflows (`toNat_share`), and together the shares are all packets (`sum_share`).  As words
the shares can be added up from the front, since the first ones never exceed all packets
(`sum_take_shares_le`).  `shares_exact` says all of this about the list of shares.
-/

namespace FrameReplay

theorem sum_range_add_ite (quotient rest n : Nat) :
    ((List.range n).map fun i => quotient + if i < rest then 1 else 0).sum =
      n * quotient + min n rest := by
  induction n with
  | zero => simp
  | succ n ih =>
    rw [List.range_succ, List.map_append, List.sum_append, ih, Nat.succ_mul]
    by_cases inside : n < rest
    · simp only [List.map_cons, List.map_nil, List.sum_cons, List.sum_nil, if_pos inside]
      omega
    · simp only [List.map_cons, List.map_nil, List.sum_cons, List.sum_nil, if_neg inside]
      omega

namespace EngineConfig

variable {config : EngineConfig}

theorem contexts_pos (h : config.validate = .ok ()) : 0 < config.contexts.toNat := by
  unfold validate at h
  by_cases none : config.contexts = 0
  · rw [if_pos none] at h
    cases h
  · exact Nat.pos_of_ne_zero fun zero => none (UInt64.toNat_inj.1 zero)

theorem contexts_le_packets (h : config.validate = .ok ()) :
    config.contexts.toNat ≤ config.packets.toNat := by
  unfold validate at h
  split at h
  · cases h
  · split at h
    · cases h
    · split at h
      · cases h
      · rename_i enough
        rw [UInt64.lt_iff_toNat_lt] at enough
        omega

/-- The defaults of a machine can be run unless it has more processors than there are packets. -/
theorem validate_default_iff (machine : Machine) :
    (default machine).validate = .ok () ↔ machine.contexts ≤ 1000000 := by
  have populated : (default machine).contexts ≠ 0 := machine.contexts_ne_zero
  have busy : (default machine).packets ≠ 0 := (by decide : (1000000 : UInt64) ≠ 0)
  have spaced : (default machine).reportInterval ≠ some 0 :=
    (by decide : some 1000000000 ≠ some 0)
  unfold validate
  rw [if_neg populated, if_neg busy]
  by_cases few : machine.contexts ≤ 1000000
  · have enough : ¬ (default machine).packets < (default machine).contexts := UInt64.not_lt.2 few
    rw [if_neg enough, if_neg spaced]
    exact ⟨fun _ => few, fun _ => rfl⟩
  · have scarce : (default machine).packets < (default machine).contexts := UInt64.not_le.1 few
    rw [if_pos scarce]
    exact ⟨nofun, fun h => absurd h few⟩

theorem toNat_share (pos : 0 < config.contexts.toNat) (i : Nat) :
    (config.share i).toNat = config.packets.toNat / config.contexts.toNat +
      if i < config.packets.toNat % config.contexts.toNat then 1 else 0 := by
  have bound := config.packets.toNat_lt
  have split := Nat.div_add_mod config.packets.toNat config.contexts.toNat
  have quotient : config.packets.toNat / config.contexts.toNat ≤
      config.contexts.toNat * (config.packets.toNat / config.contexts.toNat) :=
    Nat.le_mul_of_pos_left _ pos
  unfold share
  rw [UInt64.toNat_add, UInt64.toNat_div, UInt64.toNat_mod]
  -- A context with a packet more leaves a rest, so the quotient is not yet all packets.
  by_cases more : i < config.packets.toNat % config.contexts.toNat
  · rw [if_pos more, if_pos more]
    exact Nat.mod_eq_of_lt (by simp only [UInt64.toNat_one]; omega)
  · rw [if_neg more, if_neg more]
    exact Nat.mod_eq_of_lt (by simp only [UInt64.toNat_zero]; omega)

/-- Together the contexts replay all packets. -/
theorem sum_share (pos : 0 < config.contexts.toNat) :
    ((List.range config.contexts.toNat).map fun i => (config.share i).toNat).sum =
      config.packets.toNat := by
  have rest := Nat.mod_lt config.packets.toNat pos
  simp only [toNat_share pos]
  rw [sum_range_add_ite, Nat.min_eq_right (Nat.le_of_lt rest), Nat.div_add_mod]

theorem length_shares : config.shares.length = config.contexts.toNat := by
  unfold shares
  rw [List.length_map, List.length_range]

theorem getElem?_shares {i : Nat} (inside : i < config.contexts.toNat) :
    config.shares[i]? = some (config.share i) := by
  unfold shares
  rw [List.getElem?_map, List.getElem?_range inside]
  rfl

theorem eq_share_of_mem_shares {share : UInt64} (h : share ∈ config.shares) :
    ∃ i < config.contexts.toNat, share = config.share i := by
  obtain ⟨i, inside, rfl⟩ := List.mem_map.1 h
  exact ⟨i, List.mem_range.1 inside, rfl⟩

theorem share_antitone (pos : 0 < config.contexts.toNat) {i j : Nat} (h : i ≤ j) :
    config.share j ≤ config.share i := by
  rw [UInt64.le_iff_toNat_le, toNat_share pos, toNat_share pos]
  split <;> split <;> omega

theorem sum_shares (pos : 0 < config.contexts.toNat) :
    (config.shares.map UInt64.toNat).sum = config.packets.toNat := by
  unfold shares
  rw [List.map_map]
  exact sum_share pos

/-- What the first contexts replay together. -/
theorem sum_take_shares (pos : 0 < config.contexts.toNat) (k : Nat) :
    ((config.shares.take k).map UInt64.toNat).sum =
      min k config.contexts.toNat * (config.packets.toNat / config.contexts.toNat) +
        min (min k config.contexts.toNat) (config.packets.toNat % config.contexts.toNat) := by
  unfold shares
  rw [← List.map_take, List.take_range, List.map_map]
  simp only [Function.comp_def, toNat_share pos]
  exact sum_range_add_ite _ _ _

theorem sum_take_shares_le (pos : 0 < config.contexts.toNat) (k : Nat) :
    ((config.shares.take k).map UInt64.toNat).sum ≤ config.packets.toNat := by
  have split := Nat.div_add_mod config.packets.toNat config.contexts.toNat
  have even : min k config.contexts.toNat * (config.packets.toNat / config.contexts.toNat) ≤
      config.contexts.toNat * (config.packets.toNat / config.contexts.toNat) :=
    Nat.mul_le_mul_right _ (Nat.min_le_right _ _)
  have rest := Nat.min_le_right (min k config.contexts.toNat)
    (config.packets.toNat % config.contexts.toNat)
  rw [sum_take_shares pos]
  omega

/-- The shares of one context or more are all packets together.  They can be added up from the front
in words of 64 bits.  They descend, no two differ by more than one packet, and exactly the first
contexts have one more, as many as packets remain.  If the configuration is valid no context is left
without a packet. -/
theorem shares_exact (config : EngineConfig) (pos : 0 < config.contexts.toNat) :
    let contexts := config.contexts.toNat
    let packets := config.packets.toNat
    config.shares.length = contexts ∧
    (config.shares.map UInt64.toNat).sum = packets ∧
    (∀ k, ((config.shares.take k).foldl (· + ·) 0).toNat =
      ((config.shares.take k).map UInt64.toNat).sum) ∧
    config.shares.Pairwise (fun earlier later => later ≤ earlier) ∧
    (∀ a ∈ config.shares, ∀ b ∈ config.shares, a.toNat ≤ b.toNat + 1) ∧
    (∀ i < contexts, ∃ share, config.shares[i]? = some share ∧
      share.toNat = packets / contexts + if i < packets % contexts then 1 else 0) ∧
    (config.validate = .ok () → ∀ share ∈ config.shares, 1 ≤ share.toNat) := by
  intro contexts packets
  refine ⟨length_shares, sum_shares pos, ?_, ?_, ?_, ?_, ?_⟩
  · intro k
    have room := Nat.lt_of_le_of_lt (sum_take_shares_le pos k) config.packets.toNat_lt
    rw [toNat_foldl_add (fun share => share), UInt64.toNat_zero, Nat.zero_add,
      Nat.mod_eq_of_lt room]
  · unfold shares
    rw [List.pairwise_map]
    apply List.pairwise_lt_range.imp
    intro i j earlier
    exact share_antitone pos (Nat.le_of_lt earlier)
  · intro a ha b hb
    obtain ⟨i, -, rfl⟩ := eq_share_of_mem_shares ha
    obtain ⟨j, -, rfl⟩ := eq_share_of_mem_shares hb
    rw [toNat_share pos, toNat_share pos]
    split <;> split <;> omega
  · intro i inside
    exact ⟨config.share i, getElem?_shares inside, toNat_share pos i⟩
  · intro valid share member
    obtain ⟨i, -, rfl⟩ := eq_share_of_mem_shares member
    have enough : 1 ≤ config.packets.toNat / config.contexts.toNat :=
      Nat.div_pos (contexts_le_packets valid) pos
    rw [toNat_share pos]
    omega

/-- Almost as many packets as a word can hold, which three contexts cannot share evenly. -/
theorem shares_exact_twoRemain :
    let config : EngineConfig := ⟨3, 18446744073709551614, false, none⟩
    0 < config.contexts.toNat ∧ config.validate = .ok () ∧
      config.shares = [6148914691236517205, 6148914691236517205, 6148914691236517204] ∧
      (config.shares.map UInt64.toNat).sum = 18446744073709551614 ∧
      config.shares.Pairwise (fun earlier later => later ≤ earlier) ∧
      ∀ share ∈ config.shares, 1 ≤ share.toNat := by
  intro config
  have pos : 0 < config.contexts.toNat := by decide
  have valid : config.validate = .ok () := rfl
  obtain ⟨-, sum, -, descending, -, -, least⟩ := shares_exact config pos
  exact ⟨pos, valid, by decide, sum, descending, least valid⟩

end EngineConfig

end FrameReplay
