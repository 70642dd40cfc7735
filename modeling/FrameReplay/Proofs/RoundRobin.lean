import Mathlib.Algebra.Order.BigOperators.Group.List
import Mathlib.Algebra.Order.Group.Int
import Mathlib.Tactic.Ring
import FrameReplay.Generator.Imix
import FrameReplay.Proofs.WordSums

/-!
# Smooth weighted round-robin

In a round the leader pays the total out of what all lanes earn together.  They earn no less, so the
leader always has something to pay with, and nobody ever owes the whole total.  If they earn just
the total, a round moves credit and makes none: the credits always add up to zero, after as many
rounds as the total each of them is a multiple of it, and hence zero, and each lane was picked as
often as its weight says.

The total is a sum in a word, and the lanes earn more than it says when their weights add up to more
than a word.  Then credit piles up, and the schedule is too short for its weights: the weights are
met if and only if their sum is a word (`schedule_by_weight`).
-/

namespace FrameReplay.ImixConfig

/-! ## Weights -/

/-- What the weights of a mix add up to, in a word or not. -/
def weightSum (imix : ImixConfig) : Nat := (imix.patterns.map (·.weight.toNat)).sum

theorem totalWeight_eq_mod (imix : ImixConfig) : imix.totalWeight = imix.weightSum % 2 ^ 64 := by
  unfold totalWeight weightSum
  rw [toNat_foldl_add (fun pattern : ImixPattern => pattern.weight.toUInt64), UInt64.toNat_zero,
    Nat.zero_add]
  simp only [UInt32.toNat_toUInt64]

theorem totalWeight_le (imix : ImixConfig) : imix.totalWeight ≤ imix.weightSum := by
  rw [totalWeight_eq_mod]
  exact Nat.mod_le ..

theorem totalWeight_eq {imix : ImixConfig} (fits : imix.weightSum < 2 ^ 64) :
    imix.totalWeight = imix.weightSum := by
  rw [totalWeight_eq_mod, Nat.mod_eq_of_lt fits]

theorem validate_eq_ok_iff (imix : ImixConfig) :
    imix.validate = .ok () ↔
      (∀ pattern ∈ imix.patterns,
        headerBytes ≤ pattern.size.toNat ∧ pattern.size.toNat ≤ templateSize) ∧
      imix.totalWeight ≠ 0 ∧ imix.totalWeight ≤ defaultSlots := by
  unfold validate
  split
  · rename_i pattern found
    have outside := List.find?_some found
    have member := List.mem_of_find?_eq_some found
    constructor
    · nofun
    · rintro ⟨sizes, -⟩
      have inside := sizes pattern member
      simp only [Bool.or_eq_true, decide_eq_true_eq] at outside
      omega
  · rename_i none
    have sizes : ∀ pattern ∈ imix.patterns,
        headerBytes ≤ pattern.size.toNat ∧ pattern.size.toNat ≤ templateSize := by
      intro pattern member
      have inside := List.find?_eq_none.1 none pattern member
      simp only [Bool.or_eq_true, decide_eq_true_eq] at inside
      omega
    by_cases idle : imix.totalWeight = 0
    · rw [if_pos idle]
      exact ⟨nofun, fun h => absurd idle h.2.1⟩
    · rw [if_neg idle]
      by_cases heavy : defaultSlots < imix.totalWeight
      · rw [if_pos heavy]
        exact ⟨nofun, fun h => absurd h.2.2 (Nat.not_le_of_lt heavy)⟩
      · rw [if_neg heavy]
        exact ⟨fun _ => ⟨sizes, idle, Nat.le_of_not_lt heavy⟩, fun _ => rfl⟩

end FrameReplay.ImixConfig

namespace FrameReplay.Imix

/-! ## One round -/

theorem exists_leader {lanes : List Lane} (nonempty : lanes ≠ []) :
    ∃ lane, lanes[leader lanes]? = some lane ∧ ∀ other ∈ lanes, other.credit ≤ lane.credit := by
  have some : (lanes.map Lane.credit).max?.isSome := by
    rw [List.isSome_max?_iff, Ne, List.map_eq_nil_iff]
    exact nonempty
  obtain ⟨top, found⟩ := Option.isSome_iff_exists.1 some
  obtain ⟨reached, above⟩ := List.max?_eq_some_iff.1 found
  obtain ⟨best, member, credit⟩ := List.mem_map.1 reached
  have place : leader lanes = lanes.findIdx (·.credit == top) := by
    unfold leader
    rw [found]
    rfl
  have inside : lanes.findIdx (·.credit == top) < lanes.length :=
    List.findIdx_lt_length_of_exists ⟨best, member, by simp [credit]⟩
  have leads : lanes[lanes.findIdx (·.credit == top)].credit = top :=
    eq_of_beq (List.findIdx_getElem (w := inside))
  refine ⟨lanes[lanes.findIdx (·.credit == top)], ?_, ?_⟩
  · rw [place, List.getElem?_eq_getElem inside]
  · intro other member
    rw [leads]
    exact above _ (List.mem_map_of_mem member)

section First

variable {first : Lane} {rest : List Lane}

theorem leader_of_ahead (ahead : ∀ other ∈ rest, other.credit ≤ first.credit) :
    leader (first :: rest) = 0 := by
  have top : ((first :: rest).map Lane.credit).max? = some first.credit := by
    rw [List.max?_eq_some_iff, List.map_cons, List.forall_mem_cons, List.forall_mem_map]
    exact ⟨List.mem_cons_self, Int.le_refl _, ahead⟩
  unfold leader
  rw [top, Option.getD_some, List.findIdx_cons, beq_self_eq_true, cond_true]

theorem leader_of_behind {other : Lane} (member : other ∈ rest)
    (behind : first.credit < other.credit) : leader (first :: rest) = leader rest + 1 := by
  obtain ⟨best, found⟩ := Option.isSome_iff_exists.1
    (List.isSome_max?_iff.2 (List.ne_nil_of_mem (List.mem_map_of_mem (f := Lane.credit) member)))
  obtain ⟨reached, above⟩ := List.max?_eq_some_iff.1 found
  have less := Int.lt_of_lt_of_le behind (above _ (List.mem_map_of_mem member))
  have top : ((first :: rest).map Lane.credit).max? = some best := by
    rw [List.max?_eq_some_iff, List.map_cons, List.forall_mem_cons]
    exact ⟨List.mem_cons_of_mem _ reached, Int.le_of_lt less, above⟩
  have apart : (first.credit == best) = false := beq_eq_false_iff_ne.2 (Int.ne_of_lt less)
  unfold leader
  rw [top, found, Option.getD_some, List.findIdx_cons, apart, cond_false]

theorem round_of_ahead (total : Nat) (ahead : ∀ other ∈ rest,
      other.credit + other.weight ≤ first.credit + first.weight) :
    round total (first :: rest) =
      (0, { first with credit := first.credit + first.weight - total } :: earn rest) := by
  have leads : leader (earn (first :: rest)) = 0 := leader_of_ahead (List.forall_mem_map.2 ahead)
  unfold round
  simp only [leads]
  rfl

end First

/-- The lanes whose sizes are looked for. -/
def among (keep : UInt16 → Bool) (lanes : List Lane) : List Lane :=
  lanes.filter fun lane => keep lane.size

theorem among_all (lanes : List Lane) : among (fun _ => true) lanes = lanes :=
  List.filter_true lanes

theorem among_cons (keep : UInt16 → Bool) (lane : Lane) (lanes : List Lane) :
    among keep (lane :: lanes) =
      if keep lane.size then lane :: among keep lanes else among keep lanes := List.filter_cons

/-- The size and the weight of every lane, which no round touches. -/
def terms (lanes : List Lane) : List (UInt16 × Nat) :=
  lanes.map fun lane => (lane.size, lane.weight)

section Round

variable (total : Nat) (keep : UInt16 → Bool) (lanes : List Lane)

theorem getElem?_round (i : Nat) :
    (round total lanes).2[i]? = lanes[i]?.map fun lane =>
      { lane with credit := lane.credit + lane.weight -
          if (round total lanes).1 = i then (total : Int) else 0 } := by
  unfold round pay earn
  rw [List.getElem?_modify, List.getElem?_map]
  cases lanes[i]? with
  | none => rfl
  | some lane =>
    simp only [Option.map_some, Option.map_eq_map]
    split
    · rfl
    · rw [Int.sub_zero]

theorem sum_credit_earn :
    ((among keep (earn lanes)).map Lane.credit).sum =
      ((among keep lanes).map Lane.credit).sum +
        (((among keep lanes).map Lane.weight).sum : Nat) := by
  induction lanes with
  | nil => rfl
  | cons lane lanes ih =>
    unfold earn at ih ⊢
    rw [List.map_cons, among_cons, among_cons]
    split
    · simp only [List.map_cons, List.sum_cons, ih]
      omega
    · exact ih

variable {lanes} in
theorem sum_credit_pay {place : Nat} {payer : Lane} (there : lanes[place]? = some payer) :
    ((among keep (pay total place lanes)).map Lane.credit).sum =
      ((among keep lanes).map Lane.credit).sum -
        if keep payer.size then (total : Int) else 0 := by
  unfold pay
  induction lanes generalizing place with
  | nil => cases there
  | cons lane lanes ih =>
    cases place with
    | zero =>
      cases there
      rw [List.modify_zero_cons, among_cons, among_cons]
      split
      · simp only [List.map_cons, List.sum_cons]
        omega
      · rw [Int.sub_zero]
    | succ place =>
      rw [List.modify_succ_cons, among_cons, among_cons]
      split
      · simp only [List.map_cons, List.sum_cons, ih there]
        omega
      · exact ih there

theorem terms_round : terms (round total lanes).2 = terms lanes := by
  apply List.ext_getElem?
  intro i
  unfold terms
  rw [List.getElem?_map, getElem?_round, List.getElem?_map, Option.map_map]
  rfl

variable {total lanes} in
/-- A round leaves together what the lanes earn, less what the payer owes. -/
theorem sum_credit_round {payer : Lane} (there : lanes[(round total lanes).1]? = some payer) :
    ((among keep (round total lanes).2).map Lane.credit).sum =
      ((among keep lanes).map Lane.credit).sum +
        (((among keep lanes).map Lane.weight).sum : Nat) -
          if keep payer.size then (total : Int) else 0 := by
  have earned : (earn lanes)[(round total lanes).1]? =
      some { payer with credit := payer.credit + payer.weight } := by
    unfold earn
    rw [List.getElem?_map, there, Option.map_some]
  have paid := sum_credit_pay total keep earned
  rw [sum_credit_earn] at paid
  exact paid

end Round

section SameTerms

variable {lanes others : List Lane} (same : terms lanes = terms others)

include same

theorem length_of_terms : lanes.length = others.length := by
  have lengths := congrArg List.length same
  rwa [terms, terms, List.length_map, List.length_map] at lengths

theorem weights_among_of_terms (keep : UInt16 → Bool) :
    (among keep lanes).map Lane.weight = (among keep others).map Lane.weight := by
  have read (lanes : List Lane) : (among keep lanes).map Lane.weight =
      ((terms lanes).filter fun term => keep term.1).map Prod.snd := by
    unfold among terms
    rw [List.filter_map, List.map_map]
    rfl
  rw [read, read, same]

theorem sizeAt_of_terms : sizeAt lanes = sizeAt others := by
  have read (lanes : List Lane) (place : Nat) : sizeAt lanes place =
      ((terms lanes)[place]?.map Prod.fst).getD (default : Lane).size := by
    unfold sizeAt terms
    rw [List.getElem?_map]
    cases lanes[place]? <;> rfl
  funext place
  rw [read, read, same]

end SameTerms

/-- The lanes earn the total together, if not more, they have no less than nothing together, and
none of them owes the whole total. -/
structure Solvent (total : Nat) (lanes : List Lane) : Prop where
  pos : 0 < total
  income : total ≤ (lanes.map Lane.weight).sum
  funds : 0 ≤ (lanes.map Lane.credit).sum
  debt_lt : ∀ lane ∈ lanes, -(total : Int) < lane.credit

/-- The leader of a round is a lane with credit, so it can pay without owing the whole total. -/
theorem Solvent.exists_payer {total : Nat} {lanes : List Lane} (solvent : Solvent total lanes) :
    ∃ lane, lanes[(round total lanes).1]? = some lane ∧ 0 < lane.credit + lane.weight := by
  have pos := solvent.pos
  have income := solvent.income
  have funds := solvent.funds
  have earned := sum_credit_earn (fun _ => true) lanes
  rw [among_all, among_all] at earned
  -- What was just earned adds up to the total at least, so some lane has more than nothing.
  have positive : ((earn lanes).map fun _ => (0 : Int)).sum <
      ((earn lanes).map Lane.credit).sum := by
    rw [List.map_const', List.sum_replicate, nsmul_zero, earned]
    omega
  obtain ⟨rich, member, credit⟩ := List.exists_lt_of_sum_lt _ _ positive
  obtain ⟨lane, found, above⟩ := exists_leader (List.ne_nil_of_mem member)
  have place : (round total lanes).1 = leader (earn lanes) := rfl
  unfold earn at found
  rw [List.getElem?_map] at found
  obtain ⟨earner, there, rfl⟩ := Option.map_eq_some_iff.1 found
  exact ⟨earner, place ▸ there, Int.lt_of_lt_of_le credit (above rich member)⟩

theorem Solvent.round {total : Nat} {lanes : List Lane} (solvent : Solvent total lanes) :
    Solvent total (round total lanes).2 := by
  obtain ⟨payer, there, positive⟩ := solvent.exists_payer
  have weights := weights_among_of_terms (terms_round total lanes) fun _ => true
  rw [among_all, among_all] at weights
  refine ⟨solvent.pos, ?_, ?_, ?_⟩
  · rw [weights]
    exact solvent.income
  · have income := solvent.income
    have funds := solvent.funds
    have left := sum_credit_round (fun _ => true) there
    rw [among_all, among_all, if_pos rfl] at left
    omega
  · intro lane member
    obtain ⟨i, found⟩ := List.mem_iff_getElem?.1 member
    rw [getElem?_round] at found
    obtain ⟨before, here, rfl⟩ := Option.map_eq_some_iff.1 found
    have debt := solvent.debt_lt before (List.mem_of_getElem? here)
    by_cases picked : (Imix.round total lanes).1 = i
    · -- The payer is the lane with positive credit that was found above.
      subst picked
      cases here.symm.trans there
      simp only [if_true]
      omega
    · simp only [if_neg picked]
      omega

/-! ## Many rounds -/

section Rounds

variable (total : Nat)

theorem rounds_succ (n : Nat) (lanes : List Lane) :
    rounds total (n + 1) lanes =
      ((round total lanes).1 :: (rounds total n (round total lanes).2).1,
        (rounds total n (round total lanes).2).2) := rfl

theorem length_rounds (total n : Nat) (lanes : List Lane) :
    (rounds total n lanes).1.length = n := by
  induction n generalizing lanes with
  | zero => rfl
  | succ n ih => exact congrArg (· + 1) (ih _)

theorem terms_rounds (n : Nat) (lanes : List Lane) :
    terms (rounds total n lanes).2 = terms lanes := by
  induction n generalizing lanes with
  | zero => rfl
  | succ n ih => exact (ih _).trans (terms_round total lanes)

theorem rounds_add (m n : Nat) (lanes : List Lane) :
    rounds total (m + n) lanes =
      ((rounds total m lanes).1 ++ (rounds total n (rounds total m lanes).2).1,
        (rounds total n (rounds total m lanes).2).2) := by
  induction m generalizing lanes with
  | zero =>
    rw [Nat.zero_add]
    rfl
  | succ m ih => rw [Nat.add_right_comm, rounds_succ, ih, rounds_succ, List.cons_append]

theorem take_rounds {m n : Nat} (le : m ≤ n) (lanes : List Lane) :
    (rounds total n lanes).1.take m = (rounds total m lanes).1 := by
  obtain ⟨more, rfl⟩ := Nat.exists_eq_add_of_le le
  rw [rounds_add, List.take_left' (length_rounds total m lanes)]

/-- After `n` rounds a lane has earned its weight `n` times and paid once for every pick. -/
theorem getElem?_rounds (n : Nat) (lanes : List Lane) (i : Nat) :
    (rounds total n lanes).2[i]? = lanes[i]?.map fun lane =>
      { lane with credit :=
          lane.credit + n * lane.weight - total * ((rounds total n lanes).1.count i : Nat) } := by
  induction n generalizing lanes with
  | zero =>
    simp [rounds]
  | succ n ih =>
    rw [rounds_succ, ih, getElem?_round]
    cases lanes[i]? with
    | none => rfl
    | some lane =>
      simp only [Option.map_some, Option.some.injEq, Lane.mk.injEq, true_and]
      -- The first round pays for one pick of its own place, and for none of any other.
      by_cases picked : (round total lanes).1 = i
      · rw [if_pos picked, picked, List.count_cons_self]
        push_cast
        ring
      · rw [if_neg picked, List.count_cons_of_ne picked]
        push_cast
        ring

end Rounds

section Solvent

variable {total : Nat} {lanes : List Lane} (solvent : Solvent total lanes)

include solvent

theorem Solvent.rounds (n : Nat) :
    Solvent total (rounds total n lanes).2 ∧
      ∀ pick ∈ (Imix.rounds total n lanes).1, pick < lanes.length := by
  induction n generalizing lanes with
  | zero => exact ⟨solvent, nofun⟩
  | succ n ih =>
    obtain ⟨last, picks⟩ := ih solvent.round
    obtain ⟨payer, there, -⟩ := solvent.exists_payer
    have first := (List.getElem?_eq_some_iff.1 there).1
    have length := length_of_terms (terms_round total lanes)
    rw [rounds_succ]
    refine ⟨last, ?_⟩
    intro pick member
    rcases List.mem_cons.1 member with rfl | later
    · exact first
    · exact length ▸ picks pick later

/-- After `n` rounds the lanes that are looked for have earned their weights `n` times together, and
paid for every pick of one of them. -/
theorem Solvent.sum_credit_rounds (keep : UInt16 → Bool) (n : Nat) :
    ((among keep (Imix.rounds total n lanes).2).map Lane.credit).sum =
      ((among keep lanes).map Lane.credit).sum + n * ((among keep lanes).map Lane.weight).sum -
        total * ((Imix.rounds total n lanes).1.countP fun place => keep (sizeAt lanes place)) := by
  induction n generalizing lanes with
  | zero => simp [Imix.rounds]
  | succ n ih =>
    obtain ⟨payer, there, -⟩ := solvent.exists_payer
    have same := terms_round total lanes
    have size : sizeAt lanes (Imix.round total lanes).1 = payer.size := by
      unfold sizeAt
      rw [there, Option.getD_some]
    -- The rounds behind the first look for the same lanes under the same sizes.
    rw [rounds_succ, ih solvent.round, sum_credit_round keep there, weights_among_of_terms same,
      sizeAt_of_terms same, List.countP_cons, size]
    split
    · push_cast
      ring
    · push_cast
      ring

/-- In every round the lanes are left with what they earn beyond the total. -/
theorem Solvent.sum_rounds (n : Nat) :
    ((Imix.rounds total n lanes).2.map Lane.credit).sum =
      (lanes.map Lane.credit).sum + n * ((lanes.map Lane.weight).sum - total) := by
  have left := solvent.sum_credit_rounds (fun _ => true) n
  rw [among_all, among_all, List.countP_true, length_rounds] at left
  rw [left]
  ring

end Solvent

/-! ## A whole schedule -/

/-- What is done for every pattern is done for the lanes, because a pattern without weight has no
share in it. -/
theorem flatMap_lanes {α : Type} (f : UInt16 → Nat → List α) (idle : ∀ size, f size 0 = [])
    (imix : ImixConfig) :
    (lanes imix).flatMap (fun lane => f lane.size lane.weight) =
      imix.patterns.flatMap fun pattern => f pattern.size pattern.weight.toNat := by
  obtain ⟨patterns⟩ := imix
  unfold lanes
  induction patterns with
  | nil => rfl
  | cons pattern patterns ih =>
    by_cases zero : pattern.weight = 0
    · rw [List.filter_cons_of_neg (by simp [zero]), ih, List.flatMap_cons, zero]
      exact (congrArg (· ++ _) (idle _)).symm
    · rw [List.filter_cons_of_pos (by simp [zero]), List.map_cons, List.flatMap_cons, ih,
        List.flatMap_cons]

theorem length_flatMap_patterns (imix : ImixConfig) :
    (imix.patterns.flatMap fun pattern =>
      List.replicate pattern.weight.toNat pattern.size).length = imix.weightSum := by
  simp only [List.length_flatMap, List.length_replicate]
  rfl

theorem count_flatMap_patterns (patterns : List ImixPattern) (size : UInt16) :
    (patterns.flatMap fun pattern =>
      List.replicate pattern.weight.toNat pattern.size).count size =
      ((patterns.filter (·.size = size)).map (·.weight.toNat)).sum := by
  induction patterns with
  | nil => rfl
  | cons pattern patterns ih =>
    rw [List.flatMap_cons, List.count_append, ih, List.count_replicate]
    by_cases same : pattern.size = size
    · rw [List.filter_cons_of_pos (by simp [same]), List.map_cons, List.sum_cons,
        if_pos (by simp [same])]
    · rw [List.filter_cons_of_neg (by simp [same]), if_neg (by simp [same]), Nat.zero_add]

theorem count_flatMap_range (weight : Nat → Nat) (n i : Nat) :
    ((List.range n).flatMap fun j => List.replicate (weight j) j).count i =
      if i < n then weight i else 0 := by
  induction n with
  | zero => rfl
  | succ n ih =>
    rw [List.range_succ, List.flatMap_append, List.count_append, ih, List.flatMap_singleton,
      List.count_replicate]
    by_cases last : n = i
    · subst last
      simp
    · have apart : ¬ (n == i) = true := by simpa using last
      rw [if_neg apart, Nat.add_zero]
      by_cases inside : i < n
      · rw [if_pos inside, if_pos (by omega)]
      · rw [if_neg inside, if_neg (by omega)]

theorem credit_lanes {imix : ImixConfig} {lane : Lane} (h : lane ∈ lanes imix) :
    lane.credit = 0 := by
  unfold lanes at h
  obtain ⟨pattern, -, rfl⟩ := List.mem_map.1 h
  rfl

theorem sum_credit_lanes (imix : ImixConfig) : ((lanes imix).map Lane.credit).sum = 0 :=
  List.sum_eq_zero (List.forall_mem_map.2 fun _ => credit_lanes)

theorem sum_weight_lanes (imix : ImixConfig) :
    ((lanes imix).map Lane.weight).sum = imix.weightSum := by
  have lengths := congrArg List.length
    (flatMap_lanes (fun size n => List.replicate n size) (fun _ => rfl) imix)
  rw [length_flatMap_patterns, List.length_flatMap] at lengths
  simp only [List.length_replicate] at lengths
  exact lengths

theorem exists_pattern_of_lane {imix : ImixConfig} {lane : Lane} (h : lane ∈ lanes imix) :
    ∃ pattern ∈ imix.patterns, pattern.weight ≠ 0 ∧
      lane = ⟨pattern.size, pattern.weight.toNat, 0⟩ := by
  unfold lanes at h
  obtain ⟨pattern, active, rfl⟩ := List.mem_map.1 h
  obtain ⟨inside, some⟩ := List.mem_filter.1 active
  exact ⟨pattern, inside, of_decide_eq_true some, rfl⟩

theorem toInt_income (lanes : List Lane) :
    (income lanes).toInt = (((lanes.map Lane.weight).sum : Nat) : Int).bmod (2 ^ 64) := by
  unfold income
  rw [toInt_foldl_add_ofNat Lane.weight, Int64.toInt_zero, Int.zero_add]

section Valid

variable {imix : ImixConfig} (valid : imix.validate = .ok ())

include valid

theorem totalWeight_ne_zero : imix.totalWeight ≠ 0 := (imix.validate_eq_ok_iff.1 valid).2.1

/-- The sums of the weights with a sign and without come to the same, because what a word keeps of
them is a number of frames that a table has room for. -/
theorem cycle_eq : cycle imix = rounds imix.totalWeight imix.totalWeight (lanes imix) := by
  have few : imix.totalWeight ≤ 2048 := (imix.validate_eq_ok_iff.1 valid).2.2
  have same : (income (lanes imix)).toNatClampNeg = imix.totalWeight := by
    rw [imix.totalWeight_eq_mod] at few
    rw [← Int64.toNat_toInt, toInt_income, sum_weight_lanes, Int.bmod_def, ← Int.natCast_emod,
      if_pos (by omega), Int.toNat_natCast, imix.totalWeight_eq_mod]
  unfold cycle
  rw [same]

theorem schedule_of_validate :
    schedule imix = .ok ((cycle imix).1.map (sizeAt (lanes imix))) := by
  unfold schedule
  rw [valid]
  rfl

theorem length_cycle : (cycle imix).1.length = imix.totalWeight := by
  rw [cycle_eq valid, length_rounds]

theorem solvent_lanes : Solvent imix.totalWeight (lanes imix) := by
  have pos := Nat.pos_of_ne_zero (totalWeight_ne_zero valid)
  refine ⟨pos, ?_, ?_, fun lane member => ?_⟩
  · rw [sum_weight_lanes]
    exact imix.totalWeight_le
  · rw [sum_credit_lanes]
  · rw [credit_lanes member]
    omega

theorem picks_cycle {pick : Nat} (picked : pick ∈ (cycle imix).1) : pick < (lanes imix).length := by
  rw [cycle_eq valid] at picked
  exact ((solvent_lanes valid).rounds imix.totalWeight).2 pick picked

theorem sum_credit_cycle : ((cycle imix).2.map Lane.credit).sum =
    imix.totalWeight * ((imix.weightSum : Int) - imix.totalWeight) := by
  rw [cycle_eq valid, (solvent_lanes valid).sum_rounds, sum_credit_lanes, sum_weight_lanes,
    Int.zero_add]

/-- Within a schedule no credit leaves a signed word, neither before nor after the leader pays. -/
theorem credit_rounds_bounds {n : Nat} (within : n ≤ imix.totalWeight) {lane : Lane}
    (member : lane ∈ (rounds imix.totalWeight n (lanes imix)).2) :
    -2 ^ 63 ≤ lane.credit ∧ lane.credit + lane.weight < 2 ^ 63 := by
  have few : imix.totalWeight ≤ 2048 := (imix.validate_eq_ok_iff.1 valid).2.2
  have debt := ((solvent_lanes valid).rounds n).1.debt_lt lane member
  obtain ⟨i, found⟩ := List.mem_iff_getElem?.1 member
  rw [getElem?_rounds] at found
  obtain ⟨origin, here, rfl⟩ := Option.map_eq_some_iff.1 found
  obtain ⟨pattern, -, -, rfl⟩ := exists_pattern_of_lane (List.mem_of_getElem? here)
  have light := pattern.weight.toNat_lt
  have earned : n * pattern.weight.toNat ≤ 2048 * 2 ^ 32 :=
    Nat.mul_le_mul (Nat.le_trans within few) (Nat.le_of_lt light)
  have paid : 0 ≤ (imix.totalWeight : Int) *
      ((rounds imix.totalWeight n (lanes imix)).1.count i : Nat) :=
    Int.mul_nonneg (Int.natCast_nonneg _) (Int.natCast_nonneg _)
  simp only at debt ⊢
  have earned : (n : Int) * pattern.weight.toNat ≤ 2048 * 2 ^ 32 := by exact_mod_cast earned
  omega

end Valid

/-! ## Weights that fit a word -/

section Fits

variable {imix : ImixConfig} (valid : imix.validate = .ok ()) (fits : imix.weightSum < 2 ^ 64)

include valid

/-- After a whole schedule a lane has the total for every pick that it is short of its weight. -/
theorem getElem?_cycle (i : Nat) :
    (cycle imix).2[i]? = (lanes imix)[i]?.map fun lane =>
      { lane with credit :=
          imix.totalWeight * ((lane.weight : Int) - ((cycle imix).1.count i : Nat)) } := by
  rw [cycle_eq valid, getElem?_rounds]
  cases here : (lanes imix)[i]? with
  | none => rfl
  | some lane =>
    simp only [Option.map_some, credit_lanes (List.mem_of_getElem? here), Int.zero_add, Int.mul_sub]

include fits

/-- At the end all debts are paid: every credit is a multiple of the total that is not as low as its
opposite, and the credits add up to zero. -/
theorem credit_cycle : ∀ lane ∈ (cycle imix).2, lane.credit = 0 := by
  have solvent := ((solvent_lanes valid).rounds imix.totalWeight).1
  rw [← cycle_eq valid] at solvent
  have funds := sum_credit_cycle valid
  rw [imix.totalWeight_eq fits, Int.sub_self, Int.mul_zero] at funds
  have nonneg : ∀ credit ∈ (cycle imix).2.map Lane.credit, 0 ≤ credit := by
    intro credit member
    obtain ⟨lane, inside, rfl⟩ := List.mem_map.1 member
    have debt := solvent.debt_lt lane inside
    obtain ⟨i, found⟩ := List.mem_iff_getElem?.1 inside
    rw [getElem?_cycle valid] at found
    obtain ⟨origin, -, rfl⟩ := Option.map_eq_some_iff.1 found
    simp only at debt ⊢
    -- A debt would be a whole multiple of the total, and no lane owes as much.
    by_contra owing
    have := Int.le_of_dvd (by omega) (Int.dvd_neg.2 (Int.dvd_mul_right imix.totalWeight
      ((origin.weight : Int) - ((cycle imix).1.count i : Nat))))
    omega
  intro lane member
  exact List.all_zero_of_le_zero_le_of_sum_eq_zero nonneg funds (List.mem_map_of_mem member)

/-- Over the whole schedule a place is picked as often as the weight of its lane says. -/
theorem count_cycle (i : Nat) :
    (cycle imix).1.count i = (((lanes imix)[i]?).map Lane.weight).getD 0 := by
  have last := getElem?_cycle valid i
  cases here : (lanes imix)[i]? with
  | none =>
    rw [List.getElem?_eq_none_iff] at here
    exact List.count_eq_zero_of_not_mem fun member => by
      have := picks_cycle valid member
      omega
  | some lane =>
    rw [here] at last
    have paid := credit_cycle valid fits _ (List.mem_of_getElem? last)
    have total := (solvent_lanes valid).pos
    rcases Int.mul_eq_zero.1 paid with zero | even
    · omega
    · rw [Option.map_some, Option.getD_some]
      omega

/-- The next schedule would begin just as this one did. -/
theorem lanes_cycle : (cycle imix).2 = lanes imix := by
  apply List.ext_getElem?
  intro i
  have last := getElem?_cycle valid i
  cases here : (lanes imix)[i]? with
  | none =>
    rw [last, here]
    rfl
  | some lane =>
    rw [here] at last
    have paid := credit_cycle valid fits _ (List.mem_of_getElem? last)
    simp only at paid
    rw [last, Option.map_some, paid, ← credit_lanes (List.mem_of_getElem? here)]

/-- The schedule has the size of every pattern as often as its weight says, in some order. -/
theorem perm_schedule : ((cycle imix).1.map (sizeAt (lanes imix))).Perm
    (imix.patterns.flatMap fun pattern => List.replicate pattern.weight.toNat pattern.size) := by
  have picks : (cycle imix).1.Perm ((List.range (lanes imix).length).flatMap fun i =>
      List.replicate (((lanes imix)[i]?).getD default).weight i) := by
    apply List.perm_iff_count.2
    intro i
    rw [count_cycle valid fits, count_flatMap_range]
    by_cases inside : i < (lanes imix).length
    · rw [if_pos inside, List.getElem?_eq_getElem inside]
      rfl
    · rw [if_neg inside, List.getElem?_eq_none (by omega)]
      rfl
  -- A place stands for its lane, so the picks are counted out by sizes instead.
  have places : (List.range (lanes imix).length).map (fun i => ((lanes imix)[i]?).getD default) =
      lanes imix := by
    apply List.ext_getElem
    · rw [List.length_map, List.length_range]
    · intro i _ inside
      rw [List.getElem_map, List.getElem_range, List.getElem?_eq_getElem inside, Option.getD_some]
  have sizes : ((List.range (lanes imix).length).flatMap fun i =>
      List.replicate (((lanes imix)[i]?).getD default).weight i).map (sizeAt (lanes imix)) =
        (lanes imix).flatMap fun lane => List.replicate lane.weight lane.size := by
    rw [List.map_flatMap]
    simp only [List.map_replicate]
    conv_rhs => rw [← places, List.flatMap_map]
    rfl
  rw [← flatMap_lanes (fun size n => List.replicate n size) (fun _ => rfl), ← sizes]
  exact picks.map _

end Fits

/-! ## Sizes of a schedule -/

theorem size_of_mem_cycle {imix : ImixConfig} (valid : imix.validate = .ok ()) {size : UInt16}
    (member : size ∈ (cycle imix).1.map (sizeAt (lanes imix))) :
    ∃ pattern ∈ imix.patterns, pattern.weight ≠ 0 ∧ pattern.size = size := by
  obtain ⟨pick, picked, rfl⟩ := List.mem_map.1 member
  have inside := picks_cycle valid picked
  obtain ⟨pattern, among, some, lane⟩ := exists_pattern_of_lane (List.getElem_mem inside)
  refine ⟨pattern, among, some, ?_⟩
  unfold sizeAt
  rw [List.getElem?_eq_getElem inside, lane, Option.getD_some]

/-- A schedule that has every size as often as the weights say is as long as they add up to. -/
theorem length_of_count {imix : ImixConfig} {sizes : List UInt16}
    (counts : ∀ size, sizes.count size =
      ((imix.patterns.filter (·.size = size)).map (·.weight.toNat)).sum) :
    sizes.length = imix.weightSum := by
  rw [← length_flatMap_patterns]
  refine (List.perm_iff_count.2 fun size => ?_).length_eq
  rw [counts, count_flatMap_patterns]

/-- A mix that is in order is scheduled in as many frames as its total weight says, none of a size
that has no weight, and no credit ever leaves a signed word.  Every size comes as often as the
weights of its patterns say, and no credit is left over in the end, if and only if the weights add
up to a word. -/
theorem schedule_by_weight {imix : ImixConfig} (valid : imix.validate = .ok ()) :
    ∃ sizes, schedule imix = .ok sizes ∧ sizes.length = imix.totalWeight ∧
      (∀ size, (∀ pattern ∈ imix.patterns, pattern.size = size → pattern.weight = 0) →
        size ∉ sizes) ∧
      (∀ n ≤ imix.totalWeight, ∀ lane ∈ (rounds imix.totalWeight n (lanes imix)).2,
        -2 ^ 63 ≤ lane.credit ∧ lane.credit + lane.weight < 2 ^ 63) ∧
      ((∀ size, sizes.count size =
          ((imix.patterns.filter (·.size = size)).map (·.weight.toNat)).sum) ↔
        imix.weightSum < 2 ^ 64) ∧
      ((∀ lane ∈ (cycle imix).2, lane.credit = 0) ↔ imix.weightSum < 2 ^ 64) ∧
      ((cycle imix).2 = lanes imix ↔ imix.weightSum < 2 ^ 64) := by
  have pos := (solvent_lanes valid).pos
  have few : imix.totalWeight ≤ 2048 := (imix.validate_eq_ok_iff.1 valid).2.2
  have length : ((cycle imix).1.map (sizeAt (lanes imix))).length = imix.totalWeight := by
    rw [List.length_map, length_cycle valid]
  -- What the lanes earn beyond the total is left over, and it is nothing only within a word.
  have even_iff : ((cycle imix).2.map Lane.credit).sum = 0 → imix.weightSum < 2 ^ 64 := by
    intro even
    rw [sum_credit_cycle valid] at even
    rcases Int.mul_eq_zero.1 even with none | same
    · omega
    · omega
  refine ⟨_, schedule_of_validate valid, length, ?_, fun n within lane =>
    credit_rounds_bounds valid within, ⟨?_, ?_⟩, ⟨?_, credit_cycle valid⟩, ⟨?_, lanes_cycle valid⟩⟩
  · intro size idle member
    obtain ⟨pattern, inside, some, same⟩ := size_of_mem_cycle valid member
    exact some (idle pattern inside same)
  · intro counts
    have sum := length_of_count counts
    omega
  · intro fits size
    rw [(perm_schedule valid fits).count_eq, count_flatMap_patterns]
  · intro paid
    exact even_iff (List.sum_eq_zero (List.forall_mem_map.2 paid))
  · intro back
    apply even_iff
    rw [back, sum_credit_lanes]

/-- Two patterns of one size, one of no weight, and one that is sent once. -/
def repeatedSize : ImixConfig := ⟨[⟨64, 2⟩, ⟨1500, 1⟩, ⟨900, 0⟩, ⟨64, 3⟩]⟩

theorem schedule_by_weight_repeatedSize :
    repeatedSize.validate = .ok () ∧ repeatedSize.weightSum < 2 ^ 64 ∧
    ∃ sizes, schedule repeatedSize = .ok sizes ∧ sizes.length = 6 ∧ sizes.count 64 = 5 ∧
      sizes.count 1500 = 1 ∧ 900 ∉ sizes := by
  have valid : repeatedSize.validate = .ok () := by rfl
  have fits : repeatedSize.weightSum < 2 ^ 64 := by decide
  obtain ⟨sizes, scheduled, length, idle, -, counts, -⟩ := schedule_by_weight valid
  have counts := counts.2 fits
  exact ⟨valid, fits, sizes, scheduled, length, counts 64, counts 1500, idle 900 (by decide)⟩

/-- `n` patterns of 128 octets between two of 64 octets.  All have the same weight but the last. -/
def crowd (n : Nat) (weight last : UInt32) : ImixConfig :=
  ⟨⟨64, weight⟩ :: (List.replicate n ⟨128, weight⟩ ++ [⟨64, last⟩])⟩

section Crowd

variable (n : Nat) {weight last : UInt32}

theorem forall_mem_crowd {P : ImixPattern → Prop} :
    (∀ pattern ∈ (crowd n weight last).patterns, P pattern) ↔
      P ⟨64, weight⟩ ∧ (n ≠ 0 → P ⟨128, weight⟩) ∧ P ⟨64, last⟩ := by
  unfold crowd
  rw [List.forall_mem_cons, List.forall_mem_append, List.forall_mem_singleton,
    List.forall_mem_replicate, or_iff_not_imp_left, Ne]

theorem weightSum_crowd :
    (crowd n weight last).weightSum = (n + 1) * weight.toNat + last.toNat := by
  unfold crowd ImixConfig.weightSum
  rw [List.map_cons, List.map_append, List.map_replicate, List.map_singleton, List.sum_cons,
    List.sum_append_nat, List.sum_replicate_nat, List.sum_singleton]
  ring

theorem totalWeight_crowd : (crowd n weight last).totalWeight =
    ((n + 1) * weight.toNat + last.toNat) % 2 ^ 64 := by
  rw [ImixConfig.totalWeight_eq_mod, weightSum_crowd]

theorem sum_small_crowd :
    (((crowd n weight last).patterns.filter (·.size = 64)).map (·.weight.toNat)).sum =
      weight.toNat + last.toNat := by
  simp [crowd]

theorem validate_crowd {total : Nat} (sum : (crowd n weight last).totalWeight = total)
    (some : total ≠ 0) (few : total ≤ 2) : (crowd n weight last).validate = .ok () := by
  rw [ImixConfig.validate_eq_ok_iff, forall_mem_crowd, sum]
  have small : headerBytes ≤ (64 : UInt16).toNat ∧ (64 : UInt16).toNat ≤ templateSize := by decide
  have large : headerBytes ≤ (128 : UInt16).toNat ∧ (128 : UInt16).toNat ≤ templateSize := by
    decide
  exact ⟨⟨small, fun _ => large, small⟩, some, Nat.le_trans few (by decide)⟩

variable (positive : last ≠ 0) (light : last.toNat ≤ weight.toNat)

include positive light

theorem active_crowd : (crowd n weight last).patterns.filter (·.weight ≠ 0) =
    (crowd n weight last).patterns := by
  have heavy : weight ≠ 0 := by
    rintro rfl
    exact positive (UInt32.toNat_inj.1 (Nat.le_zero.1 light))
  rw [List.filter_eq_self, forall_mem_crowd]
  exact ⟨decide_eq_true heavy, fun _ => decide_eq_true heavy, decide_eq_true positive⟩

theorem lanes_crowd : lanes (crowd n weight last) = ⟨64, weight.toNat, 0⟩ ::
    (List.replicate n ⟨128, weight.toNat, 0⟩ ++ [⟨64, last.toNat, 0⟩]) := by
  unfold lanes
  rw [active_crowd n positive light, crowd, List.map_cons, List.map_append, List.map_replicate,
    List.map_singleton]

/-- In the first round nobody has earned more than the first lane. -/
theorem round_crowd (total : Nat) : round total (lanes (crowd n weight last)) =
    (0, ⟨64, weight.toNat, weight.toNat - total⟩ ::
      earn (List.replicate n ⟨128, weight.toNat, 0⟩ ++ [⟨64, last.toNat, 0⟩])) := by
  rw [lanes_crowd n positive light, round_of_ahead]
  · rw [Int.zero_add]
  · rw [List.forall_mem_append, List.forall_mem_singleton, List.forall_mem_replicate]
    refine ⟨.inr (Int.le_refl _), ?_⟩
    simp only
    omega

theorem cycle_crowd (alone : (crowd n weight last).totalWeight = 1) :
    cycle (crowd n weight last) = ([0], ⟨64, weight.toNat, weight.toNat - 1⟩ ::
      earn (List.replicate n ⟨128, weight.toNat, 0⟩ ++ [⟨64, last.toNat, 0⟩])) := by
  rw [cycle_eq (validate_crowd n alone (by decide) (by decide)), alone, rounds_succ,
    round_crowd n positive light]
  rfl

theorem schedule_crowd (alone : (crowd n weight last).totalWeight = 1) :
    schedule (crowd n weight last) = .ok [64] := by
  rw [schedule_of_validate (validate_crowd n alone (by decide) (by decide)),
    cycle_crowd n positive light alone, lanes_crowd n positive light]
  rfl

end Crowd

/-- As many patterns of the greatest weight as it has values, and one of weight two, add up to one
more than a word holds. -/
theorem crowd_not_by_weight :
    let mix := crowd (2 ^ 32) 4294967295 2
    mix.validate = .ok () ∧ mix.weightSum = 2 ^ 64 + 1 ∧ schedule mix = .ok [64] ∧
      [(64 : UInt16)].count 64 ≠
        ((mix.patterns.filter (·.size = 64)).map (·.weight.toNat)).sum ∧
      ⟨64, 2 ^ 32 - 1, 2 ^ 32 - 2⟩ ∈ (cycle mix).2 := by
  intro mix
  have sum : mix.weightSum = 2 ^ 64 + 1 := weightSum_crowd (2 ^ 32)
  have total : mix.totalWeight = 1 := totalWeight_crowd (2 ^ 32)
  have valid : mix.validate = .ok () := validate_crowd (2 ^ 32) total (by decide) (by decide)
  refine ⟨valid, sum, schedule_crowd _ (by decide) (by decide) total, ?_, ?_⟩
  · rw [sum_small_crowd]
    decide
  · rw [cycle_crowd _ (by decide) (by decide) total]
    exact List.mem_cons_self

end FrameReplay.Imix
