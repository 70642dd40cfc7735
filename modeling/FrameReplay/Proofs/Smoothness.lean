import Mathlib.Algebra.Order.Ring.Int
import Mathlib.Tactic.Linarith
import FrameReplay.Proofs.RoundRobin

/-!
# Smooth schedules

A credit is what separates a lane from its proportional share: its weight for every round less the
total for every pick.  No lane owes the whole total, so none is a full frame ahead of its share.
What one lane has in hand the others owe, or it is left over because the lanes earn more than the
total says, and they do so only if the weights add up to more than a word.  The bounds hold after
every round, and so on every prefix of a schedule (`schedule_smooth`).
-/

namespace FrameReplay.Imix

/-! ## One lane -/

theorem le_sum_add {credits : List Int} {debt : Int} (owed : ∀ credit ∈ credits, -debt ≤ credit)
    {credit : Int} (member : credit ∈ credits) :
    credit ≤ credits.sum + (credits.length - 1) * debt := by
  obtain ⟨front, back, rfl⟩ := List.append_of_mem member
  -- Nobody can have more in hand than there is and all others, in front and behind, may owe.
  have before := List.card_nsmul_le_sum front (-debt) fun other inside =>
    owed other (List.mem_append_left _ inside)
  have after := List.card_nsmul_le_sum back (-debt) fun other inside =>
    owed other (List.mem_append_right _ (List.mem_cons_of_mem _ inside))
  rw [nsmul_eq_mul] at before after
  rw [List.sum_append, List.sum_cons, List.length_append, List.length_cons]
  push_cast
  linarith

section Solvent

variable {total : Nat} {lanes : List Lane} (solvent : Solvent total lanes)

include solvent

theorem Solvent.debt_le {lane : Lane} (member : lane ∈ lanes) :
    -((total : Int) - 1) ≤ lane.credit := by
  have debt := solvent.debt_lt lane member
  omega

theorem Solvent.credit_le {lane : Lane} (member : lane ∈ lanes) :
    lane.credit ≤ (lanes.map Lane.credit).sum + ((lanes.length : Int) - 1) * (total - 1) := by
  have owed : ∀ credit ∈ lanes.map Lane.credit, -((total : Int) - 1) ≤ credit := by
    rw [List.forall_mem_map]
    exact fun other => solvent.debt_le
  have bound := le_sum_add owed (List.mem_map_of_mem member)
  rwa [List.length_map] at bound

/-! ## Lanes of one size -/

theorem Solvent.total_mul_countP_le (keep : UInt16 → Bool) (n : Nat) :
    (total : Int) * ((Imix.rounds total n lanes).1.countP fun place => keep (sizeAt lanes place)) ≤
      ((among keep lanes).map Lane.credit).sum + n * ((among keep lanes).map Lane.weight).sum +
        (among keep lanes).length * ((total : Int) - 1) := by
  -- What the lanes have left is no less than what all of them together may owe.
  have last := (solvent.rounds n).1
  have left := solvent.sum_credit_rounds keep n
  have owed := List.card_nsmul_le_sum ((among keep (Imix.rounds total n lanes).2).map Lane.credit)
    (-((total : Int) - 1)) <| List.forall_mem_map.2 fun lane member =>
      last.debt_le (List.mem_of_mem_filter member)
  have number := congrArg List.length (weights_among_of_terms (terms_rounds total n lanes) keep)
  rw [List.length_map, List.length_map] at number
  rw [nsmul_eq_mul, List.length_map, number, left] at owed
  linarith

end Solvent

/-! ## Prefixes of a schedule -/

/-- The patterns of a mix that are ever sent, in the order of their lanes. -/
def active (imix : ImixConfig) : List ImixPattern := imix.patterns.filter (·.weight ≠ 0)

theorem getElem?_lanes (imix : ImixConfig) (place : Nat) :
    (lanes imix)[place]? = (active imix)[place]?.map fun pattern =>
      ⟨pattern.size, pattern.weight.toNat, 0⟩ := List.getElem?_map ..

theorem among_lanes (imix : ImixConfig) (size : UInt16) :
    among (· == size) (lanes imix) = ((active imix).filter (·.size = size)).map fun pattern =>
      ⟨pattern.size, pattern.weight.toNat, 0⟩ := List.filter_map ..

theorem map_some_sizeAt {imix : ImixConfig} {picks : List Nat}
    (inside : ∀ pick ∈ picks, pick < (lanes imix).length) :
    (picks.map (sizeAt (lanes imix))).map some =
      picks.map fun place => (active imix)[place]?.map ImixPattern.size := by
  rw [List.map_map]
  refine List.map_congr_left fun place member => ?_
  have inside := inside place member
  have here := getElem?_lanes imix place
  rw [List.getElem?_eq_getElem inside] at here
  obtain ⟨pattern, found, lane⟩ := Option.map_eq_some_iff.1 here.symm
  rw [found, Option.map_some, Function.comp_apply, sizeAt, List.getElem?_eq_getElem inside,
    Option.getD_some, ← lane]

section Prefixes

variable {imix : ImixConfig} {t : Nat} (valid : imix.validate = .ok ())

include valid

/-- The credit of a lane after `t` rounds is its share less what was sent of it. -/
theorem share_bounds {place : Nat} {pattern : ImixPattern}
    (found : (active imix)[place]? = some pattern) :
    let credit : Int := t * pattern.weight.toNat -
      imix.totalWeight * ((rounds imix.totalWeight t (lanes imix)).1.count place : Nat)
    (-((imix.totalWeight : Int) - 1) ≤ credit ∧
      credit ≤ (((active imix).length : Int) - 1) * (imix.totalWeight - 1) +
        t * (imix.weightSum - imix.totalWeight)) := by
  intro credit
  have solvent := ((solvent_lanes valid).rounds t).1
  have here := getElem?_rounds imix.totalWeight t (lanes imix) place
  rw [getElem?_lanes, found] at here
  have member := List.mem_of_getElem? here
  have number : (rounds imix.totalWeight t (lanes imix)).2.length = (active imix).length :=
    (length_of_terms (terms_rounds imix.totalWeight t (lanes imix))).trans (List.length_map _)
  have debt := solvent.debt_le member
  have hand := solvent.credit_le member
  rw [(solvent_lanes valid).sum_rounds, sum_credit_lanes, sum_weight_lanes, number] at hand
  simp only [Int.zero_add] at debt hand
  rw [Int.add_comm] at hand
  exact ⟨debt, hand⟩

theorem size_bound (size : UInt16) :
    imix.totalWeight * ((rounds imix.totalWeight t (lanes imix)).1.map (sizeAt (lanes imix))).count
        size ≤
      t * (((active imix).filter (·.size = size)).map (·.weight.toNat)).sum +
        ((active imix).filter (·.size = size)).length * (imix.totalWeight - 1) := by
  have solvent := solvent_lanes valid
  have bound := solvent.total_mul_countP_le (· == size) t
  have idle : ((among (· == size) (lanes imix)).map Lane.credit).sum = 0 := by
    refine List.sum_eq_zero (List.forall_mem_map.2 fun lane member => ?_)
    exact credit_lanes (List.mem_of_mem_filter member)
  rw [idle, Int.zero_add, among_lanes, List.map_map, List.length_map] at bound
  have less : ((imix.totalWeight - 1 : Nat) : Int) = imix.totalWeight - 1 :=
    Int.natCast_sub solvent.pos
  apply Int.ofNat_le.1
  rw [Int.natCast_add, Int.natCast_mul, Int.natCast_mul, Int.natCast_mul, less, List.count,
    List.countP_map]
  exact bound

end Prefixes

/-- In the first `t` frames of a schedule every active pattern has its proportional share, as far as
whole frames go: it is less than one frame ahead, and behind by no more than all others together are
ahead, and what the weights add up to beyond a word.  The frames of one size, however many patterns
share it, are ahead by less than a frame for each of these. -/
theorem schedule_smooth {imix : ImixConfig} (valid : imix.validate = .ok ()) :
    let total := imix.totalWeight
    let active := imix.patterns.filter (·.weight ≠ 0)
    let picks := (cycle imix).1
    ∃ sizes, schedule imix = .ok sizes ∧ sizes.length = total ∧
      sizes.map some = picks.map (fun place => active[place]?.map ImixPattern.size) ∧
      ∀ t ≤ total,
        (∀ place pattern, active[place]? = some pattern →
          let share : Int := t * pattern.weight.toNat
          let sent : Int := total * ((picks.take t).count place : Nat)
          let beyond : Int := t * (imix.weightSum - total)
          (-((total : Int) - 1) ≤ share - sent ∧ sent < share + total ∧
            share - sent ≤ ((active.length : Int) - 1) * (total - 1) + beyond ∧
            (imix.weightSum < 2 ^ 64 →
              share - sent ≤ ((active.length : Int) - 1) * (total - 1)))) ∧
        ∀ size,
          let sharing := active.filter (·.size = size)
          total * (sizes.take t).count size ≤
            t * (sharing.map (·.weight.toNat)).sum + sharing.length * (total - 1) := by
  intro total active picks
  refine ⟨_, schedule_of_validate valid, ?_, map_some_sizeAt fun _ => picks_cycle valid,
    fun t within => ⟨?_, ?_⟩⟩
  · rw [List.length_map, length_cycle valid]
  · intro place pattern found share sent beyond
    have bounds := share_bounds (t := t) valid found
    rw [← take_rounds imix.totalWeight within, ← cycle_eq valid] at bounds
    have owed : -((total : Int) - 1) ≤ share - sent := bounds.1
    refine ⟨owed, by omega, bounds.2, fun fits => ?_⟩
    have hand := bounds.2
    rw [← imix.totalWeight_eq fits, Int.sub_self, Int.mul_zero, Int.add_zero] at hand
    exact hand
  · intro size sharing
    have bound := size_bound (t := t) valid size
    rw [← take_rounds imix.totalWeight within, ← cycle_eq valid, List.map_take] at bound
    exact bound

theorem schedule_smooth_repeatedSize :
    repeatedSize.validate = .ok () ∧ repeatedSize.weightSum < 2 ^ 64 ∧
    ∃ sizes, schedule repeatedSize = .ok sizes ∧ sizes.length = 6 ∧
      6 * (sizes.take 3).count 64 ≤ 3 * 5 + 2 * 5 ∧
      6 * ((cycle repeatedSize).1.take 2).count 1 < 2 * 1 + 6 ∧
      (2 * 1 - 6 * ((cycle repeatedSize).1.take 2).count 1 : Int) ≤ 2 * 5 := by
  have valid : repeatedSize.validate = .ok () := by rfl
  have fits : repeatedSize.weightSum < 2 ^ 64 := by decide
  obtain ⟨sizes, scheduled, length, -, bounds⟩ := schedule_smooth valid
  obtain ⟨-, of_size⟩ := bounds 3 (by decide)
  obtain ⟨of_pattern, -⟩ := bounds 2 (by decide)
  obtain ⟨-, ahead, -, behind⟩ := of_pattern 1 ⟨1500, 1⟩ (by rfl)
  exact ⟨valid, fits, sizes, scheduled, length, of_size 64, Int.ofNat_lt.1 ahead, behind fits⟩

/-- Where the total is one, no pattern may be behind its share at all.  The first of this mix is, by
its weight less one. -/
theorem crowd_not_smooth :
    let mix := crowd (2 ^ 32) 4294967295 2
    let active := mix.patterns.filter (·.weight ≠ 0)
    let share : Int := 1 * (4294967295 : UInt32).toNat
    let sent : Int := mix.totalWeight * (((cycle mix).1.take 1).count 0 : Nat)
    mix.validate = .ok () ∧ mix.totalWeight = 1 ∧ active[0]? = some ⟨64, 4294967295⟩ ∧
      ((active.length : Int) - 1) * (mix.totalWeight - 1) < share - sent := by
  intro mix active share sent
  have total : mix.totalWeight = 1 := totalWeight_crowd (2 ^ 32)
  have first : active[0]? = some ⟨64, 4294967295⟩ := by
    show (mix.patterns.filter (·.weight ≠ 0))[0]? = _
    rw [active_crowd _ (by decide) (by decide)]
    rfl
  have once : sent = 1 := by
    show ((mix.totalWeight : Int) * (((cycle mix).1.take 1).count 0 : Nat)) = 1
    rw [cycle_crowd _ (by decide) (by decide) total, total]
    rfl
  refine ⟨validate_crowd _ total (by decide) (by decide), total, first, ?_⟩
  rw [total, once, Int.natCast_one, Int.sub_self, Int.mul_zero]
  decide

end FrameReplay.Imix
