/-
**The shortest decimal rounds to its double.**

The search starts at the first digit of the magnitude and ends at the seventeenth. A grid that fine
has a neighbour of the magnitude in the interval that rounds to the double: the step of the grid is
less than the width of the interval. So the search finds a decimal, and no two doubles have one of
the same value.

* `two_zpow_floorLog2_le`, `ten_zpow_floorLog10_le`: the logarithms are lower bounds; the quotient
  `30103 / 100000` is a little more than the logarithm of two;
* `exists_onGrid?`: a fine grid has a point in the interval;
* `shortest_within`: the decimal rounds to the double;
* `fields_eq_of_shortest`: its value determines the magnitude.
-/

import ResourceGraph.Proofs.Binary64.Interval

namespace ResourceGraph.Binary64

/-! ### Binary logarithms -/

/-- **The binary logarithm is a lower bound.** -/
theorem two_zpow_floorLog2_le {num den : Nat} (positive : 0 < num) (divisor : 0 < den) :
    (2 : ℚ) ^ floorLog2 num den ≤ num / den := by
  have denominator : (0 : ℚ) < den := by exact_mod_cast divisor
  unfold floorLog2
  simp only
  split
  case isTrue =>
    -- the numerator is at least the power of its logarithm, the denominator less than the next
    have above : (2 : ℚ) ^ num.log2 ≤ num := by exact_mod_cast Nat.log2_self_le positive.ne'
    have below : (den : ℚ) ≤ 2 ^ (den.log2 + 1) := by exact_mod_cast (Nat.lt_log2_self).le
    calc (2 : ℚ) ^ ((num.log2 : Int) - den.log2 - 1)
        = 2 ^ num.log2 / 2 ^ (den.log2 + 1) := by
          rw [sub_sub, zpow_sub₀ two_ne_zero, zpow_natCast]
          norm_cast
      _ ≤ num / den := by gcongr
  case isFalse reached =>
    obtain ⟨scaled, quotient⟩ := @shifted_spec num den divisor (-((num.log2 : Int) - den.log2))
    rw [zpow_neg, ← div_eq_mul_inv] at quotient
    have unit : (1 : ℚ) ≤ num / den / 2 ^ ((num.log2 : Int) - den.log2) := by
      rw [← quotient, one_le_div (by exact_mod_cast scaled)]
      exact_mod_cast not_lt.mp reached
    exact (one_le_div (zpow_pos two_pos _)).mp unit

/-! ### The logarithm of two -/

/-- A quotient above the logarithm of two, but not by much, bounds powers of ten by powers of two
within its range. -/
theorem ten_pow_le_of_quotient {p q power count : Nat} (near : 10 ^ p ≤ 10 * 2 ^ q)
    (nonzero : q ≠ 0) (range : count ≤ q) (bound : q * power ≤ p * count) :
    10 ^ power ≤ 10 * 2 ^ count := by
  refine (Nat.pow_le_pow_iff_left nonzero).mp ?_
  calc (10 ^ power) ^ q = 10 ^ (q * power) := by rw [← Nat.pow_mul, Nat.mul_comm]
    _ ≤ 10 ^ (p * count) := Nat.pow_le_pow_right (by decide) bound
    _ = (10 ^ p) ^ count := by rw [Nat.pow_mul]
    _ ≤ (10 * 2 ^ q) ^ count := Nat.pow_le_pow_left near count
    _ = 10 ^ count * (2 ^ count) ^ q := by
      rw [Nat.mul_pow, ← Nat.pow_mul, ← Nat.pow_mul, Nat.mul_comm q]
    _ ≤ 10 ^ q * (2 ^ count) ^ q := Nat.mul_le_mul_right _ (Nat.pow_le_pow_right (by decide) range)
    _ = (10 * 2 ^ count) ^ q := (Nat.mul_pow _ _ _).symm

/-- A quotient above the logarithm of two bounds powers of two by powers of ten. -/
theorem two_pow_le_of_quotient {p q power count : Nat} (above : 2 ^ q ≤ 10 ^ p) (nonzero : q ≠ 0)
    (bound : p * count ≤ q * power) : 2 ^ count ≤ 10 ^ power := by
  refine (Nat.pow_le_pow_iff_left nonzero).mp ?_
  calc (2 ^ count) ^ q = (2 ^ q) ^ count := by rw [← Nat.pow_mul, ← Nat.pow_mul, Nat.mul_comm]
    _ ≤ (10 ^ p) ^ count := Nat.pow_le_pow_left above count
    _ = 10 ^ (p * count) := by rw [Nat.pow_mul]
    _ ≤ 10 ^ (q * power) := Nat.pow_le_pow_right (by decide) bound
    _ = (10 ^ power) ^ q := by rw [← Nat.pow_mul, Nat.mul_comm]

theorem logarithm_above : 2 ^ 100000 ≤ 10 ^ 30103 := by decide +kernel

theorem logarithm_near : 10 ^ 30103 ≤ 10 * 2 ^ 100000 := by decide +kernel

/-- One less than the estimate of the decimal logarithm is low enough. -/
theorem ten_zpow_estimate_le {exponent : Int} (range : exponent ≤ 100000) :
    (10 : ℚ) ^ (Int.fdiv (exponent * 30103) 100000 - 1) ≤ 2 ^ exponent := by
  rw [Int.fdiv_eq_ediv_of_nonneg _ (by decide), zpow_sub_one₀ (by decide), ← div_eq_mul_inv,
    div_le_iff₀ (by decide), mul_comm _ (10 : ℚ)]
  obtain ⟨count, rfl | rfl⟩ := exponent.eq_nat_or_neg
  · obtain ⟨power, estimate⟩ : ∃ power : Nat, (count : Int) * 30103 / 100000 = power :=
      ⟨count * 30103 / 100000, by omega⟩
    rw [estimate, zpow_natCast, zpow_natCast]
    exact_mod_cast ten_pow_le_of_quotient logarithm_near (by decide) (by omega) (by omega)
  · obtain ⟨power, estimate⟩ : ∃ power : Nat, (-count : Int) * 30103 / 100000 = -power :=
      ⟨(count * 30103 + 99999) / 100000, by omega⟩
    have below : (2 : ℚ) ^ count ≤ 10 ^ power := by
      exact_mod_cast two_pow_le_of_quotient logarithm_above (by decide) (by omega)
    rw [estimate, zpow_neg, zpow_neg, zpow_natCast, zpow_natCast]
    calc ((10 : ℚ) ^ power)⁻¹ ≤ (2 ^ count)⁻¹ := inv_anti₀ (by positivity) below
      _ ≤ 10 * (2 ^ count)⁻¹ := le_mul_of_one_le_left (by positivity) (by norm_num)

/-! ### Decimal logarithms -/

theorem ten_zpow_le_of_tenPowerLe {exponent : Int} {num den : Nat} (divisor : 0 < den)
    (below : tenPowerLe exponent num den = true) : (10 : ℚ) ^ exponent ≤ num / den := by
  obtain ⟨scaled, quotient⟩ := @shiftedTen_spec num den divisor (-exponent)
  rw [zpow_neg, ← div_eq_mul_inv] at quotient
  have unit : (1 : ℚ) ≤ num / den / 10 ^ exponent := by
    rw [← quotient, one_le_div (by exact_mod_cast scaled)]
    exact_mod_cast of_decide_eq_true below
  exact (one_le_div (by positivity)).mp unit

/-- **The decimal logarithm is a lower bound** of every quotient that is not huge. -/
theorem ten_zpow_floorLog10_le {num den : Nat} (positive : 0 < num) (divisor : 0 < den)
    (range : (num / den : ℚ) < 2 ^ (1024 : Int)) : (10 : ℚ) ^ floorLog10 num den ≤ num / den := by
  have binary := two_zpow_floorLog2_le positive divisor
  unfold floorLog10
  simp only
  split
  case isTrue reached => exact ten_zpow_le_of_tenPowerLe divisor reached
  case isFalse =>
    split
    case isTrue reached => exact ten_zpow_le_of_tenPowerLe divisor reached
    case isFalse =>
      have small : floorLog2 num den < 1024 :=
        (zpow_lt_zpow_iff_right₀ one_lt_two).mp (binary.trans_lt range)
      exact (ten_zpow_estimate_le (by omega)).trans binary

/-! ### Grids -/

/-- What is taken from a grid rounds to the double, and is not zero. -/
theorem Neighbourhood.holds_of_onGrid? {hood : Neighbourhood} {exponent : Int} {decimal : Decimal}
    (taken : hood.onGrid? exponent = some decimal) :
    hood.holds decimal = true ∧ 0 < decimal.digits := by
  unfold onGrid? at taken
  simp only at taken
  split at taken
  case h_1 low high =>
    rw [Bool.and_eq_true, decide_eq_true_iff] at low
    split at taken
    · cases taken
      exact low
    · split at taken
      · cases taken
        exact ⟨high, Nat.succ_pos _⟩
      · split at taken
        · cases taken
          exact low
        · cases taken
          exact ⟨high, Nat.succ_pos _⟩
  case h_2 low _ =>
    rw [Bool.and_eq_true, decide_eq_true_iff] at low
    cases taken
    exact low
  case h_3 _ high =>
    cases taken
    exact ⟨high, Nat.succ_pos _⟩
  case h_4 => cases taken

/-- A grid with a neighbour of the magnitude in the interval has a point to take. -/
theorem Neighbourhood.exists_onGrid?_of_holds {hood : Neighbourhood} {exponent : Int} {floor : Nat}
    (divided : (shiftedTen hood.value hood.den (-exponent)).1 /
      (shiftedTen hood.value hood.den (-exponent)).2 = floor) (positive : 0 < floor)
    (near : hood.holds ⟨floor, exponent⟩ = true ∨ hood.holds ⟨floor + 1, exponent⟩ = true) :
    ∃ decimal, hood.onGrid? exponent = some decimal := by
  unfold onGrid?
  simp only [divided, decide_eq_true positive, Bool.and_true]
  rcases low : hood.holds ⟨floor, exponent⟩ with _ | _ <;>
    rcases high : hood.holds ⟨floor + 1, exponent⟩ with _ | _
  · rw [low, high] at near
    simp at near
  · exact ⟨_, rfl⟩
  · exact ⟨_, rfl⟩
  · simp only
    split
    · exact ⟨_, rfl⟩
    · split
      · exact ⟨_, rfl⟩
      · split <;> exact ⟨_, rfl⟩

theorem value_pos {x : Binary64} (nonzero : x.significand ≠ 0) : 0 < x.value := by
  have significand : (0 : ℚ) < x.significand := by exact_mod_cast Nat.pos_of_ne_zero nonzero
  exact mul_pos significand x.scale_pos

theorem value_lt_upperEnd (x : Binary64) : x.value < x.upperEnd :=
  mul_lt_mul_of_pos_right (by linarith) x.scale_pos

theorem lowerEnd_lt_value (x : Binary64) : x.lowerEnd < x.value := by
  refine mul_lt_mul_of_pos_right ?_ x.scale_pos
  rw [quartersBelow_eq]
  split <;> norm_num

theorem value_lt (x : Binary64) : x.value < 2 ^ (1024 : Int) := by
  have significand : (x.significand : ℚ) < 2 ^ (53 : Int) := by exact_mod_cast x.significand_lt
  have scale : x.scale ≤ 971 := by
    have field := x.exponent.isLt
    rw [scale_eq]
    omega
  calc x.value < 2 ^ (53 : Int) * 2 ^ x.scale := mul_lt_mul_of_pos_right significand x.scale_pos
    _ ≤ 2 ^ (53 : Int) * 2 ^ (971 : Int) := by
      gcongr
      exact one_le_two
    _ = 2 ^ (1024 : Int) := by rw [← zpow_add₀ two_ne_zero]; rfl

/-- **The interval is wider than the step of a fine grid**, one with sixteen digits more than the
first digit of the magnitude. -/
theorem step_lt_width {x : Binary64} {step : ℚ} (fine : step * 10 ^ 16 ≤ x.value) :
    step < x.upperEnd - x.lowerEnd := by
  have positive := x.scale_pos
  have significand : (x.significand : ℚ) + 1 ≤ 2 ^ 53 := by exact_mod_cast x.significand_lt
  have width : (x.significand : ℚ) < (1 / 2 + x.quartersBelow / 4) * 10 ^ 16 := by
    rw [quartersBelow_eq]
    split
    case isTrue power =>
      rw [power.1]
      norm_num
    case isFalse =>
      push_cast
      linarith
  have scaled := mul_lt_mul_of_pos_right width positive
  unfold value at fine
  unfold upperEnd lowerEnd
  nlinarith

/-- **A fine grid has a point in the interval.** -/
theorem exists_onGrid? {x : Binary64} (nonzero : x.significand ≠ 0) {exponent : Int}
    (fine : (10 : ℚ) ^ exponent * 10 ^ 16 ≤ x.value) :
    ∃ decimal, (neighbourhood x).onGrid? exponent = some decimal := by
  obtain ⟨-, magnitude, -⟩ := neighbourhood_quotients nonzero
  have step : (0 : ℚ) < 10 ^ exponent := by positivity
  obtain ⟨scaled, quotient⟩ :=
    @shiftedTen_spec (neighbourhood x).value _ x.den_neighbourhood_pos (-exponent)
  generalize divided : shiftedTen (neighbourhood x).value (neighbourhood x).den (-exponent) = pair
    at quotient scaled
  obtain ⟨n, d⟩ := pair
  have divisor : (0 : ℚ) < d := by exact_mod_cast scaled
  simp only at quotient
  rw [magnitude, zpow_neg, ← div_eq_mul_inv, div_eq_div_iff divisor.ne' step.ne'] at quotient
  -- the magnitude lies between the two neighbours
  have low : ((n / d : Nat) : ℚ) * 10 ^ exponent ≤ x.value := by
    have floor : ((n / d : Nat) : ℚ) * d ≤ n := by exact_mod_cast Nat.div_mul_le_self n d
    nlinarith
  have high : x.value ≤ ((n / d + 1 : Nat) : ℚ) * 10 ^ exponent := by
    have ceiling : (n : ℚ) ≤ ((n / d + 1 : Nat) : ℚ) * d := by
      exact_mod_cast (Nat.lt_mul_of_div_lt (Nat.lt_succ_self _) scaled).le
    nlinarith
  have positive : 0 < n / d := by
    refine Nat.pos_of_ne_zero fun zero => ?_
    rw [zero] at high
    push_cast at high
    linarith
  refine Neighbourhood.exists_onGrid?_of_holds (by rw [divided]) positive ?_
  rw [holds_neighbourhood_iff nonzero, holds_neighbourhood_iff nonzero]
  by_contra neither
  push Not at neither
  obtain ⟨outsideLow, outsideHigh⟩ := neither
  have width := step_lt_width fine
  have lower : ((n / d : Nat) : ℚ) * 10 ^ exponent ≤ x.lowerEnd := by
    by_contra inside
    exact outsideLow (Or.inl ⟨not_le.mp inside, low.trans_lt x.value_lt_upperEnd⟩)
  have upper : x.upperEnd ≤ ((n / d + 1 : Nat) : ℚ) * 10 ^ exponent := by
    by_contra inside
    exact outsideHigh (Or.inl ⟨x.lowerEnd_lt_value.trans_le high, not_le.mp inside⟩)
  push_cast at upper
  linarith

/-! ### The search -/

/-- **The shortest decimal rounds to its double**, and is not zero. -/
theorem shortest_within {x : Binary64} (nonzero : x.significand ≠ 0) :
    x.Within (shortest x).value ∧ 0 < (shortest x).digits := by
  obtain ⟨-, magnitude, -⟩ := neighbourhood_quotients nonzero
  have numerator : 0 < (neighbourhood x).value := by
    refine Nat.pos_of_ne_zero fun zero => ?_
    rw [zero, Nat.cast_zero, zero_div] at magnitude
    exact (value_pos nonzero).ne magnitude
  have first := ten_zpow_floorLog10_le numerator x.den_neighbourhood_pos
    (by rw [magnitude]; exact x.value_lt)
  rw [magnitude] at first
  generalize start : floorLog10 (neighbourhood x).value (neighbourhood x).den = top at first
  -- the last grid, sixteen digits after the first one, is fine enough
  have fine : (10 : ℚ) ^ (top - (16 : Nat)) * 10 ^ 16 ≤ x.value := by
    rw [← zpow_natCast (10 : ℚ) 16, ← zpow_add₀ (by decide), Int.sub_add_cancel]
    exact first
  obtain ⟨last, taken⟩ := exists_onGrid? nonzero fine
  have some : (((List.range 17).map fun (count : Nat) => top - (count : Int)).findSome?
      (neighbourhood x).onGrid?).isSome = true := by
    rw [List.findSome?_isSome_iff]
    exact ⟨top - (16 : Nat),
      List.mem_map_of_mem (List.mem_range.mpr (by decide)), by rw [taken]; rfl⟩
  obtain ⟨decimal, found⟩ := Option.isSome_iff_exists.mp some
  obtain ⟨grid, -, taken⟩ := List.exists_of_findSome?_eq_some found
  obtain ⟨holds, positive⟩ := Neighbourhood.holds_of_onGrid? taken
  have result : shortest x = decimal := by
    unfold shortest
    simp only [start, found, Option.getD_some]
  rw [result]
  exact ⟨(holds_neighbourhood_iff nonzero decimal).mp holds, positive⟩

/-- **The value of the shortest decimal determines the magnitude.** -/
theorem fields_eq_of_shortest {x y : Binary64} (nonzeroX : x.significand ≠ 0)
    (nonzeroY : y.significand ≠ 0) (same : (shortest x).value = (shortest y).value) :
    x.exponent = y.exponent ∧ x.fraction = y.fraction := by
  obtain ⟨withinX, -⟩ := shortest_within nonzeroX
  obtain ⟨withinY, -⟩ := shortest_within nonzeroY
  rw [← same] at withinY
  exact withinX.unique withinY

end ResourceGraph.Binary64
