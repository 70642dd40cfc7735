import FrameReplay.Proofs.FrameSizes

/-!
# Periodic schedules

The schedule of a mix depends on the proportions of its weights only.  If all weights are multiplied
by a factor, all credits are, so the same lane leads in every round, ties included; the factor shows
in the number of rounds.  And since all credits are back at zero after one schedule, the rounds
behind it repeat it (`schedule_proportional`).  Credits are back at zero only if the weights add up
to a word; if they do not, the second of two schedules may be another than the first
(`crowd_not_proportional`).
-/

namespace FrameReplay.Imix

/-! ## Multiplied weights -/

/-- Lanes whose weights and credits are `c` times as large. -/
def times (c : Nat) (lanes : List Lane) : List Lane :=
  lanes.map fun lane => { lane with weight := c * lane.weight, credit := c * lane.credit }

section Times

variable {c : Nat} (total : Nat) (lanes : List Lane)

theorem sizeAt_times : sizeAt (times c lanes) = sizeAt lanes := by
  funext place
  unfold sizeAt times
  rw [List.getElem?_map]
  cases lanes[place]? <;> rfl

theorem earn_times : earn (times c lanes) = times c (earn lanes) := by
  unfold earn times
  rw [List.map_map, List.map_map]
  refine List.map_congr_left fun lane _ => ?_
  simp only [Function.comp_apply, Lane.mk.injEq, true_and]
  push_cast
  ring

theorem pay_times (place : Nat) :
    pay (c * total) place (times c lanes) = times c (pay total place lanes) := by
  unfold pay times
  apply List.ext_getElem?
  intro i
  rw [List.getElem?_modify, List.getElem?_map, List.getElem?_map, List.getElem?_modify]
  cases lanes[i]? with
  | none => rfl
  | some lane =>
    simp only [Option.map_some, Option.map_eq_map]
    split
    · simp only [Option.some.injEq, Lane.mk.injEq, true_and]
      push_cast
      ring
    · rfl

variable (pos : 0 < c)

include pos

theorem leader_times : leader (times c lanes) = leader lanes := by
  have scale : (c : Int) ≠ 0 := by omega
  have credits : (times c lanes).map Lane.credit = (lanes.map Lane.credit).map ((c : Int) * ·) := by
    unfold times
    rw [List.map_map, List.map_map]
    rfl
  cases found : (lanes.map Lane.credit).max? with
  | none =>
    obtain rfl : lanes = [] := by
      rwa [List.max?_eq_none_iff, List.map_eq_nil_iff] at found
    rfl
  | some top =>
    obtain ⟨reached, above⟩ := List.max?_eq_some_iff.1 found
    have scaled : ((times c lanes).map Lane.credit).max? = some (c * top) := by
      rw [credits, List.max?_eq_some_iff]
      refine ⟨List.mem_map_of_mem reached, List.forall_mem_map.2 fun credit member => ?_⟩
      exact Int.mul_le_mul_of_nonneg_left (above credit member) (Int.natCast_nonneg c)
    unfold leader
    rw [found, scaled, times, List.findIdx_map]
    -- The greatest credit is where it was, and no other has become equal to it.
    refine congrArg (List.findIdx · lanes) (funext fun lane => ?_)
    simp only [Function.comp_apply, Option.getD_some, beq_eq_beq]
    exact ⟨Int.eq_of_mul_eq_mul_left scale, congrArg ((c : Int) * ·)⟩

theorem round_times : round (c * total) (times c lanes) =
    ((round total lanes).1, times c (round total lanes).2) := by
  unfold round
  simp only [earn_times, leader_times _ pos, pay_times]

theorem rounds_times (n : Nat) : rounds (c * total) n (times c lanes) =
    ((rounds total n lanes).1, times c (rounds total n lanes).2) := by
  induction n generalizing lanes with
  | zero => rfl
  | succ n ih => rw [rounds_succ, round_times total lanes pos, ih, rounds_succ]

end Times

/-! ## Round after round -/

section Periods

variable {imix : ImixConfig} (valid : imix.validate = .ok ()) (fits : imix.weightSum < 2 ^ 64)

include valid fits

theorem rounds_periods (m : Nat) :
    rounds imix.totalWeight (m * imix.totalWeight) (lanes imix) =
      ((List.replicate m (cycle imix).1).flatten, lanes imix) := by
  induction m with
  | zero =>
    rw [Nat.zero_mul]
    rfl
  | succ m ih =>
    -- The first of the schedules leaves the lanes as they were.
    rw [Nat.succ_mul, Nat.add_comm, rounds_add, ← cycle_eq valid, lanes_cycle valid fits, ih,
      List.replicate_succ, List.flatten_cons]

/-- However many rounds there are, the pick of round `i` is that of round `i` modulo the total. -/
theorem pick_mod {n i : Nat} (inside : i < n) :
    (rounds imix.totalWeight n (lanes imix)).1[i]? = (cycle imix).1[i % imix.totalWeight]? := by
  have pos := (solvent_lanes valid).pos
  obtain ⟨m, r, within, rfl⟩ : ∃ m r, r < imix.totalWeight ∧ i = m * imix.totalWeight + r :=
    ⟨i / imix.totalWeight, i % imix.totalWeight, Nat.mod_lt _ pos, (Nat.div_add_mod' _ _).symm⟩
  -- Round `i` is the last of the rounds up to it: whole periods, then `r + 1` rounds of one more.
  have upto : (rounds imix.totalWeight n (lanes imix)).1.take (m * imix.totalWeight + (r + 1)) =
      (List.replicate m (cycle imix).1).flatten ++ (cycle imix).1.take (r + 1) := by
    rw [take_rounds _ (by omega), rounds_add, rounds_periods valid fits, cycle_eq valid,
      take_rounds _ within]
  have length : ((List.replicate m (cycle imix).1).flatten).length = m * imix.totalWeight := by
    have rounds := length_rounds imix.totalWeight (m * imix.totalWeight) (lanes imix)
    rwa [rounds_periods valid fits] at rounds
  have here := congrArg (fun picks => picks[m * imix.totalWeight + r]?) upto
  rw [List.getElem?_take_of_lt (by omega), List.getElem?_append_right (by omega), length,
    Nat.add_sub_cancel_left, List.getElem?_take_of_lt (by omega)] at here
  rw [here, Nat.mul_add_mod_self_right, Nat.mod_eq_of_lt within]

end Periods

/-! ## Mixes of the same proportions -/

theorem lanes_cons (pattern : ImixPattern) (patterns : List ImixPattern) :
    lanes ⟨pattern :: patterns⟩ =
      if pattern.weight ≠ 0 then ⟨pattern.size, pattern.weight.toNat, 0⟩ :: lanes ⟨patterns⟩
      else lanes ⟨patterns⟩ := by
  unfold lanes
  rw [List.filter_cons]
  by_cases idle : pattern.weight = 0
  · simp only [idle, ne_eq, not_true_eq_false, decide_false, Bool.false_eq_true, if_false]
  · simp only [idle, ne_eq, not_false_eq_true, decide_true, if_true, List.map_cons]

/-- The same sizes in the same order, with `c` times the weights. -/
def Multiplied (c : Nat) : List ImixPattern → List ImixPattern → Prop :=
  List.Forall₂ fun pattern other =>
    other.size = pattern.size ∧ other.weight.toNat = c * pattern.weight.toNat

/-- The same patterns in the same order, with patterns of no weight put in anywhere, whose sizes are
sizes of frames. -/
inductive Padded : List ImixPattern → List ImixPattern → Prop where
  | nil : Padded [] []
  | keep (pattern : ImixPattern) {patterns others : List ImixPattern} :
    Padded patterns others → Padded (pattern :: patterns) (pattern :: others)
  | idle (size : UInt16) {patterns others : List ImixPattern} :
    headerBytes ≤ size.toNat → size.toNat ≤ templateSize →
      Padded patterns others → Padded patterns (⟨size, 0⟩ :: others)

theorem Multiplied.weightSum {c : Nat} {patterns others : List ImixPattern}
    (same : Multiplied c patterns others) :
    ImixConfig.weightSum ⟨others⟩ = c * ImixConfig.weightSum ⟨patterns⟩ := by
  unfold ImixConfig.weightSum
  induction same with
  | nil => rfl
  | cons weights rest ih =>
    rw [List.map_cons, List.map_cons, List.sum_cons, List.sum_cons, weights.2, ih, Nat.mul_add]

/-- A factor by which some weight can be multiplied is itself less than a weight can be. -/
theorem Multiplied.factor_lt {c : Nat} {patterns others : List ImixPattern}
    (same : Multiplied c patterns others) (some : ImixConfig.weightSum ⟨patterns⟩ ≠ 0) :
    c < 2 ^ 32 := by
  induction same with
  | nil => exact absurd rfl some
  | @cons pattern other _ _ weights rest ih =>
    by_cases idle : pattern.weight.toNat = 0
    · apply ih
      unfold ImixConfig.weightSum at some ⊢
      rwa [List.map_cons, List.sum_cons, idle, Nat.zero_add] at some
    · have times : c * 1 ≤ c * pattern.weight.toNat := Nat.mul_le_mul_left _ (by omega)
      have weight := other.weight.toNat_lt
      omega

theorem Multiplied.totalWeight {c : Nat} {imix heavier : ImixConfig}
    (same : Multiplied c imix.patterns heavier.patterns) (valid : imix.validate = .ok ())
    (fits : imix.weightSum < 2 ^ 64) : heavier.totalWeight = c * imix.totalWeight := by
  have sum : heavier.weightSum = c * imix.weightSum := same.weightSum
  have total := imix.totalWeight_eq fits
  obtain ⟨-, some, few⟩ := imix.validate_eq_ok_iff.1 valid
  have factor : c < 2 ^ 32 := same.factor_lt (total ▸ some)
  have product : c * imix.totalWeight ≤ 2 ^ 32 * 2048 := Nat.mul_le_mul (Nat.le_of_lt factor) few
  rw [total] at product ⊢
  rw [heavier.totalWeight_eq, sum]
  omega

theorem Multiplied.lanes {c : Nat} (pos : 0 < c) {patterns others : List ImixPattern}
    (same : Multiplied c patterns others) : lanes ⟨others⟩ = times c (lanes ⟨patterns⟩) := by
  induction same with
  | nil => rfl
  | @cons pattern other _ _ weights rest ih =>
    -- A weight is zero if and only if its multiple is.
    have idle : other.weight ≠ 0 ↔ pattern.weight ≠ 0 := by
      rw [Ne, Ne, ← UInt32.toNat_inj, ← UInt32.toNat_inj, weights.2, UInt32.toNat_zero,
        Nat.mul_eq_zero, or_iff_right pos.ne']
    rw [lanes_cons, lanes_cons, ih]
    simp only [idle]
    split
    · rw [weights.1, weights.2]
      simp only [times, List.map_cons, Int.mul_zero]
    · rfl

section Padding

variable {patterns others : List ImixPattern} (padded : Padded patterns others)

include padded

theorem Padded.totalWeight :
    ImixConfig.totalWeight ⟨others⟩ = ImixConfig.totalWeight ⟨patterns⟩ := by
  rw [ImixConfig.totalWeight_eq_mod, ImixConfig.totalWeight_eq_mod]
  refine congrArg (· % 2 ^ 64) ?_
  unfold ImixConfig.weightSum
  induction padded with
  | nil => rfl
  | keep pattern _ ih =>
    rw [List.map_cons, List.map_cons, List.sum_cons, List.sum_cons, ih]
  | idle size _ _ _ ih =>
    rw [List.map_cons, List.sum_cons, ih, UInt32.toNat_zero, Nat.zero_add]

theorem Padded.lanes : lanes ⟨others⟩ = lanes ⟨patterns⟩ := by
  induction padded with
  | nil => rfl
  | keep pattern _ ih => rw [lanes_cons, lanes_cons, ih]
  | idle size _ _ _ ih => rw [lanes_cons, if_neg (not_not_intro rfl), ih]

theorem Padded.validate (valid : ImixConfig.validate ⟨patterns⟩ = .ok ()) :
    ImixConfig.validate ⟨others⟩ = .ok () := by
  rw [ImixConfig.validate_eq_ok_iff] at valid ⊢
  rw [padded.totalWeight]
  refine ⟨?_, valid.2⟩
  have sizes := valid.1
  clear valid
  simp only at sizes ⊢
  induction padded with
  | nil => exact sizes
  | keep pattern _ ih =>
    rw [List.forall_mem_cons] at sizes ⊢
    exact ⟨sizes.1, ih sizes.2⟩
  | idle size low high _ ih =>
    rw [List.forall_mem_cons]
    exact ⟨⟨low, high⟩, ih sizes⟩

end Padding

/-- Patterns without weight make no difference to a schedule.  If the weights add up to a word, a
mix whose weights are multiplied is scheduled as the mix is, time and again, and so are more rounds
of the mix itself. -/
theorem schedule_proportional {imix : ImixConfig} (valid : imix.validate = .ok ()) :
    ∃ sizes, schedule imix = .ok sizes ∧ sizes.length = imix.totalWeight ∧
      (∀ padded : ImixConfig, Padded imix.patterns padded.patterns →
        schedule padded = .ok sizes) ∧
      (imix.weightSum < 2 ^ 64 →
        (∀ (c : Nat) (heavier : ImixConfig), 1 ≤ c → Multiplied c imix.patterns heavier.patterns →
          heavier.validate = .ok () → schedule heavier = .ok (List.replicate c sizes).flatten) ∧
        ∀ n i, i < n → ∃ size,
          ((rounds imix.totalWeight n (lanes imix)).1.map (sizeAt (lanes imix)))[i]? = some size ∧
          sizes[i % imix.totalWeight]? = some size) := by
  have length : ((cycle imix).1.map (sizeAt (lanes imix))).length = imix.totalWeight := by
    rw [List.length_map, length_cycle valid]
  refine ⟨_, schedule_of_validate valid, length, ?_, fun fits => ⟨?_, ?_⟩⟩
  · intro others padded
    have weight : others.totalWeight = imix.totalWeight := padded.totalWeight
    have same : lanes others = lanes imix := padded.lanes
    have checked := padded.validate valid
    rw [schedule_of_validate checked, cycle_eq checked, weight, same, ← cycle_eq valid]
  · intro c heavier pos same checked
    have scaled : lanes heavier = times c (lanes imix) := same.lanes pos
    rw [schedule_of_validate checked, cycle_eq checked, same.totalWeight valid fits, scaled,
      rounds_times _ _ pos, sizeAt_times, rounds_periods valid fits, List.map_flatten,
      List.map_replicate]
  · intro n i inside
    have within : i % imix.totalWeight < ((cycle imix).1.map (sizeAt (lanes imix))).length := by
      rw [length]
      exact Nat.mod_lt _ (solvent_lanes valid).pos
    refine ⟨_, ?_, List.getElem?_eq_getElem within⟩
    rw [List.getElem?_map, pick_mod valid fits inside, ← List.getElem?_map,
      List.getElem?_eq_getElem within]

/-- Lanes that tie, all weights doubled, and idle patterns at both ends. -/
theorem schedule_proportional_repeatedSize :
    let doubled : ImixConfig := ⟨[⟨64, 4⟩, ⟨1500, 2⟩, ⟨900, 0⟩, ⟨64, 6⟩]⟩
    let padded : ImixConfig := ⟨[⟨42, 0⟩, ⟨64, 2⟩, ⟨1500, 1⟩, ⟨900, 0⟩, ⟨64, 3⟩, ⟨2048, 0⟩]⟩
    repeatedSize.validate = .ok () ∧ repeatedSize.weightSum < 2 ^ 64 ∧
      doubled.validate = .ok () ∧
    ∃ sizes size, schedule repeatedSize = .ok sizes ∧ sizes.length = 6 ∧
      schedule padded = .ok sizes ∧ schedule doubled = .ok (sizes ++ sizes) ∧
      ((rounds 6 20 (lanes repeatedSize)).1.map (sizeAt (lanes repeatedSize)))[19]? = some size ∧
      sizes[1]? = some size := by
  intro doubled padded
  have valid : repeatedSize.validate = .ok () := by rfl
  have fits : repeatedSize.weightSum < 2 ^ 64 := by decide
  have checked : doubled.validate = .ok () := by rfl
  have weights : Multiplied 2 repeatedSize.patterns doubled.patterns :=
    .cons ⟨rfl, rfl⟩ (.cons ⟨rfl, rfl⟩ (.cons ⟨rfl, rfl⟩ (.cons ⟨rfl, rfl⟩ .nil)))
  have idle : Padded repeatedSize.patterns padded.patterns :=
    .idle 42 (by decide) (by decide) (.keep _ (.keep _ (.keep _ (.keep _
      (.idle 2048 (by decide) (by decide) .nil)))))
  obtain ⟨sizes, scheduled, length, pads, fitting⟩ := schedule_proportional valid
  obtain ⟨scales, repeats⟩ := fitting fits
  have twice := scales 2 doubled (by decide) weights checked
  rw [List.replicate_succ, List.replicate_one, List.flatten_cons, List.flatten_singleton] at twice
  obtain ⟨size, late, early⟩ := repeats 20 19 (by decide)
  exact ⟨valid, fits, checked, sizes, size, scheduled, length, pads padded idle, twice, late, early⟩

section Crowd

variable (n : Nat) {weight last : UInt32} (positive : last ≠ 0)
  (light : last.toNat ≤ weight.toNat)

include positive light

/-- In the second round the first lane is behind by what it paid, and the lane next to it leads. -/
theorem leader_crowd {total : Nat} (pos : 0 < total) :
    (round total (round total (lanes (crowd (n + 1) weight last))).2).1 = 1 := by
  rw [round_crowd _ positive light]
  let second : Lane := ⟨128, weight.toNat, 0⟩
  let later : List Lane := List.replicate n second ++ [⟨64, last.toNat, 0⟩]
  have even : leader (earn (earn (second :: later))) = 0 := by
    refine leader_of_ahead ?_
    simp only [List.forall_mem_map, later, List.forall_mem_append, List.forall_mem_replicate,
      List.forall_mem_singleton]
    refine ⟨.inr (Int.le_refl _), ?_⟩
    simp only [second]
    omega
  have behind : (weight.toNat : Int) - total + weight.toNat < 0 + weight.toNat + weight.toNat := by
    omega
  show leader (⟨64, weight.toNat, weight.toNat - total + weight.toNat⟩ ::
    earn (earn (second :: later))) = 1
  exact (leader_of_behind List.mem_cons_self behind).trans (congrArg (· + 1) even)

theorem schedule_crowd_of_two (pair : (crowd (n + 1) weight last).totalWeight = 2) :
    schedule (crowd (n + 1) weight last) = .ok [64, 128] := by
  have valid := validate_crowd _ pair (by decide) (by decide)
  have picks : (cycle (crowd (n + 1) weight last)).1 = [0, 1] := by
    have second := leader_crowd n positive light (by decide : 0 < 2)
    rw [cycle_eq valid, pair, rounds_succ, rounds_succ, second, round_crowd _ positive light]
    rfl
  rw [schedule_of_validate valid, picks, lanes_crowd _ positive light]
  rfl

end Crowd

theorem multiplied_crowd {c : Nat} (n : Nat) {weight heavier last more : UInt32}
    (weights : heavier.toNat = c * weight.toNat) (lasts : more.toNat = c * last.toNat) :
    Multiplied c (crowd n weight last).patterns (crowd n heavier more).patterns := by
  refine .cons ⟨rfl, weights⟩ (List.rel_append ?_ (.cons ⟨rfl, lasts⟩ .nil))
  induction n with
  | zero => exact .nil
  | succ n ih => exact .cons ⟨rfl, weights⟩ ih

/-- Weights that add up to one more than a word holds, and twice the weights.  The lanes are not
back at the start after the one frame of the former, so the latter goes on with another size. -/
theorem crowd_not_proportional :
    let mix := crowd (2 ^ 34 - 1) 1073741824 1
    let doubled := crowd (2 ^ 34 - 1) 2147483648 2
    mix.validate = .ok () ∧ doubled.validate = .ok () ∧
      Multiplied 2 mix.patterns doubled.patterns ∧
      schedule mix = .ok [64] ∧ schedule doubled = .ok [64, 128] ∧
      schedule doubled ≠ .ok (List.replicate 2 [64]).flatten := by
  intro mix doubled
  have one : mix.totalWeight = 1 := totalWeight_crowd (2 ^ 34 - 1)
  have two : doubled.totalWeight = 2 := totalWeight_crowd (2 ^ 34 - 1)
  have scheduled : schedule doubled = .ok [64, 128] :=
    schedule_crowd_of_two _ (by decide) (by decide) two
  refine ⟨validate_crowd _ one (by decide) (by decide),
    validate_crowd _ two (by decide) (by decide), ?_,
    schedule_crowd _ (by decide) (by decide) one, scheduled, ?_⟩
  · exact multiplied_crowd _ (by decide) (by decide)
  · rw [scheduled]
    decide

end FrameReplay.Imix
