/-
**The interval that rounds to a double.**

Around the magnitude of a nonzero double lies the interval of what rounds to it: half a unit of
the last place up, half a unit down, or a quarter below a power of two. The ends belong to it when
the significand is even.

* `value`, `lowerEnd`, `upperEnd`: magnitude and ends as rationals; `Precedes` orders magnitudes;
* `upperEnd_le_lowerEnd`: the intervals lie in the order of the magnitudes, and
  `upperEnd_lt_lowerEnd` keeps two closed ones apart;
* `Within.unique`: so no point is within two of them;
* `holds_neighbourhood_iff`: the test on numerators decides `Within`.
-/

import Mathlib.Algebra.Order.Field.Power
import Mathlib.Tactic.FieldSimp
import Mathlib.Tactic.Linarith
import Mathlib.Tactic.NormNum
import Mathlib.Tactic.Positivity
import Mathlib.Tactic.Ring
import ResourceGraph.Binary64.Shortest

namespace ResourceGraph.Binary64

/-! ### Quotients of naturals -/

/-- `num / den · base ^ shift` as a quotient of naturals. -/
def scaledBy (base num den : Nat) (shift : Int) : Nat × Nat :=
  match shift with
  | .ofNat up => (num * base ^ up, den)
  | .negSucc down => (num, den * base ^ (down + 1))

theorem scaledBy_spec {base num den : Nat} (power : 0 < base) (positive : 0 < den) (shift : Int) :
    0 < (scaledBy base num den shift).2 ∧
      ((scaledBy base num den shift).1 : ℚ) / (scaledBy base num den shift).2 =
        num / den * (base : ℚ) ^ shift := by
  cases shift with
  | ofNat up =>
    refine ⟨positive, ?_⟩
    simp only [scaledBy, Nat.cast_mul, Nat.cast_pow, Int.ofNat_eq_natCast, zpow_natCast]
    ring
  | negSucc down =>
    refine ⟨Nat.mul_pos positive (Nat.pow_pos power), ?_⟩
    simp only [scaledBy, Nat.cast_mul, Nat.cast_pow, zpow_negSucc]
    rw [← div_div, div_eq_mul_inv _ ((base : ℚ) ^ _)]

theorem shifted_spec {num den : Nat} (positive : 0 < den) (shift : Int) :
    0 < (shifted num den shift).2 ∧
      ((shifted num den shift).1 : ℚ) / (shifted num den shift).2 = num / den * 2 ^ shift := by
  have same : shifted num den shift = scaledBy 2 num den shift := by cases shift <;> rfl
  rw [same]
  exact scaledBy_spec (by decide) positive shift

theorem shiftedTen_spec {num den : Nat} (positive : 0 < den) (shift : Int) :
    0 < (shiftedTen num den shift).2 ∧
      ((shiftedTen num den shift).1 : ℚ) / (shiftedTen num den shift).2 =
        num / den * 10 ^ shift := by
  have same : shiftedTen num den shift = scaledBy 10 num den shift := by cases shift <;> rfl
  rw [same]
  exact scaledBy_spec (by decide) positive shift

/-! ### Magnitudes -/

/-- The value of a decimal. -/
def Decimal.value (decimal : Decimal) : ℚ :=
  decimal.digits * 10 ^ decimal.exponent

/-- The magnitude of a double. -/
def value (x : Binary64) : ℚ :=
  x.significand * 2 ^ x.scale

/-- How many quarters of a unit of the last place the interval reaches down. -/
def quartersBelow (x : Binary64) : Nat :=
  if x.fraction.val = 0 ∧ 1 < x.exponent.val then 1 else 2

/-- The lower end of the interval that rounds to a double. -/
def lowerEnd (x : Binary64) : ℚ :=
  (x.significand - x.quartersBelow / 4) * 2 ^ x.scale

/-- The upper end of the interval that rounds to a double. -/
def upperEnd (x : Binary64) : ℚ :=
  (x.significand + 1 / 2) * 2 ^ x.scale

/-- A rational rounds to the magnitude of a double; ties go to the even significand. -/
def Within (x : Binary64) (point : ℚ) : Prop :=
  (x.lowerEnd < point ∧ point < x.upperEnd) ∨
    (x.significand % 2 = 0 ∧ x.lowerEnd ≤ point ∧ point ≤ x.upperEnd)

theorem significand_lt (x : Binary64) : x.significand < 2 ^ 53 := by
  have fraction : x.fraction.val < 2 ^ 52 := x.fraction.isLt
  have hidden : Nat.pow 2 52 = 2 ^ 52 := rfl
  unfold significand
  split <;> omega

theorem scale_eq (x : Binary64) : x.scale = max (x.exponent.val : Int) 1 - 1075 := by
  unfold scale
  split <;> omega

/-- Only the least scale has significands without the hidden bit. -/
theorem le_significand {x : Binary64} (above : -1074 < x.scale) : 2 ^ 52 ≤ x.significand := by
  rw [scale_eq] at above
  have hidden : Nat.pow 2 52 = 2 ^ 52 := rfl
  unfold significand
  rw [if_neg (by omega)]
  omega

/-- Significand and scale determine the fields. -/
theorem fields_eq {x y : Binary64} (significands : x.significand = y.significand)
    (scales : x.scale = y.scale) : x.exponent = y.exponent ∧ x.fraction = y.fraction := by
  have fractionX : x.fraction.val < Nat.pow 2 52 := x.fraction.isLt
  have fractionY : y.fraction.val < Nat.pow 2 52 := y.fraction.isLt
  rw [scale_eq, scale_eq] at scales
  unfold significand at significands
  constructor
  · refine Fin.ext ?_
    split at significands <;> split at significands <;> omega
  · refine Fin.ext ?_
    split at significands <;> split at significands <;> omega

/-- The interval reaches down only a quarter exactly below the powers of two. -/
theorem quartersBelow_eq (x : Binary64) :
    x.quartersBelow = if x.significand = 2 ^ 52 ∧ -1074 < x.scale then 1 else 2 := by
  have hidden : Nat.pow 2 52 = 2 ^ 52 := rfl
  have fraction : x.fraction.val < 2 ^ 52 := x.fraction.isLt
  rw [scale_eq]
  unfold quartersBelow significand
  refine if_congr ?_ rfl rfl
  split <;> omega

theorem quartersBelow_le (x : Binary64) : x.quartersBelow ≤ 2 := by
  rw [quartersBelow_eq]
  split <;> omega

/-! ### The order of the intervals -/

/-- The magnitude of the first double is the smaller one. -/
def Precedes (x y : Binary64) : Prop :=
  x.scale < y.scale ∨ (x.scale = y.scale ∧ x.significand < y.significand)

theorem precedes_or (x y : Binary64) :
    x.Precedes y ∨ y.Precedes x ∨ (x.significand = y.significand ∧ x.scale = y.scale) := by
  unfold Precedes
  omega

theorem scale_pos (x : Binary64) : (0 : ℚ) < 2 ^ x.scale :=
  zpow_pos two_pos _

/-- Past a scale, no interval reaches below the last upper end of the scale. -/
theorem le_lowerEnd_of_scale_lt {x y : Binary64} (before : x.scale < y.scale) :
    (2 ^ 53 - 1 / 2) * (2 : ℚ) ^ x.scale ≤ y.lowerEnd := by
  have least : -1074 ≤ x.scale := by rw [scale_eq]; omega
  have large : 2 ^ 52 ≤ y.significand := le_significand (by omega)
  have factor : (2 ^ 52 - 1 / 4 : ℚ) ≤ y.significand - y.quartersBelow / 4 := by
    rw [quartersBelow_eq]
    split
    case isTrue power =>
      rw [power.1]
      norm_num
    case isFalse power =>
      have past : 2 ^ 52 + 1 ≤ y.significand := by omega
      have past : (2 ^ 52 + 1 : ℚ) ≤ y.significand := by exact_mod_cast past
      push_cast
      linarith
  have double : (2 : ℚ) * 2 ^ x.scale ≤ 2 ^ y.scale := by
    rw [← zpow_one_add₀ two_ne_zero]
    exact zpow_le_zpow_right₀ one_le_two (by omega)
  calc (2 ^ 53 - 1 / 2) * (2 : ℚ) ^ x.scale
      = (2 ^ 52 - 1 / 4) * (2 * 2 ^ x.scale) := by ring
    _ ≤ (2 ^ 52 - 1 / 4) * 2 ^ y.scale := by gcongr
    _ ≤ y.lowerEnd := mul_le_mul_of_nonneg_right factor y.scale_pos.le

/-- In one scale the intervals are apart as their significands are. -/
theorem le_lowerEnd_of_scale_eq {x y : Binary64} (same : x.scale = y.scale) :
    (y.significand - 1 / 2 : ℚ) * 2 ^ x.scale ≤ y.lowerEnd := by
  have quarters : (y.quartersBelow : ℚ) ≤ 2 := by exact_mod_cast y.quartersBelow_le
  rw [same]
  exact mul_le_mul_of_nonneg_right (by linarith) y.scale_pos.le

/-- **The intervals lie in the order of the magnitudes.** -/
theorem upperEnd_le_lowerEnd {x y : Binary64} (before : x.Precedes y) :
    x.upperEnd ≤ y.lowerEnd := by
  rcases before with scales | ⟨scales, significands⟩
  · have last : x.significand + 1 ≤ 2 ^ 53 := x.significand_lt
    have last : (x.significand + 1 : ℚ) ≤ 2 ^ 53 := by exact_mod_cast last
    exact (mul_le_mul_of_nonneg_right (by linarith) x.scale_pos.le).trans
      (le_lowerEnd_of_scale_lt scales)
  · have next : (x.significand + 1 : ℚ) ≤ y.significand := by exact_mod_cast significands
    exact (mul_le_mul_of_nonneg_right (by linarith) x.scale_pos.le).trans
      (le_lowerEnd_of_scale_eq scales)

/-- **Two closed intervals do not touch**: between two even significands there is an odd one. -/
theorem upperEnd_lt_lowerEnd {x y : Binary64} (before : x.Precedes y)
    (evenX : x.significand % 2 = 0) (evenY : y.significand % 2 = 0) : x.upperEnd < y.lowerEnd := by
  rcases before with scales | ⟨scales, significands⟩
  · have last : x.significand + 2 ≤ 2 ^ 53 := by
      have below := x.significand_lt
      omega
    have last : (x.significand + 2 : ℚ) ≤ 2 ^ 53 := by exact_mod_cast last
    exact (mul_lt_mul_of_pos_right (by linarith) x.scale_pos).trans_le
      (le_lowerEnd_of_scale_lt scales)
  · have next : x.significand + 2 ≤ y.significand := by omega
    have next : (x.significand + 2 : ℚ) ≤ y.significand := by exact_mod_cast next
    exact (mul_lt_mul_of_pos_right (by linarith) x.scale_pos).trans_le
      (le_lowerEnd_of_scale_eq scales)

theorem Within.not_of_precedes {x y : Binary64} {point : ℚ} (before : x.Precedes y)
    (first : x.Within point) : ¬ y.Within point := by
  intro second
  have order := upperEnd_le_lowerEnd before
  rcases first with ⟨_, belowX⟩ | ⟨evenX, _, belowX⟩
  · rcases second with ⟨aboveY, _⟩ | ⟨_, aboveY, _⟩ <;> linarith
  · rcases second with ⟨aboveY, _⟩ | ⟨evenY, aboveY, _⟩
    · linarith
    · have apart := upperEnd_lt_lowerEnd before evenX evenY
      linarith

/-- **No point is within two intervals.** -/
theorem Within.unique {x y : Binary64} {point : ℚ} (first : x.Within point)
    (second : y.Within point) :
    x.exponent = y.exponent ∧ x.fraction = y.fraction := by
  rcases precedes_or x y with before | after | ⟨significands, scales⟩
  · exact absurd second (first.not_of_precedes before)
  · exact absurd first (second.not_of_precedes after)
  · exact fields_eq significands scales

/-! ### The test on numerators -/

theorem den_neighbourhood_pos (x : Binary64) : 0 < (neighbourhood x).den :=
  (shifted_spec (by decide) _).1

theorem neighbourhood_quotients {x : Binary64} (nonzero : x.significand ≠ 0) :
    ((neighbourhood x).lower : ℚ) / (neighbourhood x).den = x.lowerEnd ∧
      ((neighbourhood x).value : ℚ) / (neighbourhood x).den = x.value ∧
      ((neighbourhood x).upper : ℚ) / (neighbourhood x).den = x.upperEnd := by
  obtain ⟨-, unit⟩ := @shifted_spec 1 4 (by decide) x.scale
  have below : ((4 * x.significand - x.quartersBelow : Nat) : ℚ) =
      4 * x.significand - x.quartersBelow := by
    have quarters := x.quartersBelow_le
    rw [Nat.cast_sub (by omega)]
    push_cast
    rfl
  refine ⟨?_, ?_, ?_⟩
  · show (((4 * x.significand - x.quartersBelow) * (shifted 1 4 x.scale).1 : Nat) : ℚ) /
      (shifted 1 4 x.scale).2 = _
    rw [Nat.cast_mul, mul_div_assoc, unit, below, lowerEnd]
    push_cast
    ring
  · show ((4 * x.significand * (shifted 1 4 x.scale).1 : Nat) : ℚ) / (shifted 1 4 x.scale).2 = _
    rw [Nat.cast_mul, mul_div_assoc, unit, value]
    push_cast
    ring
  · show (((4 * x.significand + 2) * (shifted 1 4 x.scale).1 : Nat) : ℚ) /
      (shifted 1 4 x.scale).2 = _
    rw [Nat.cast_mul, mul_div_assoc, unit, upperEnd]
    push_cast
    ring

/-- **The test on numerators** finds exactly the decimals that round to the double. -/
theorem holds_neighbourhood_iff {x : Binary64} (nonzero : x.significand ≠ 0) (decimal : Decimal) :
    (neighbourhood x).holds decimal = true ↔ x.Within decimal.value := by
  obtain ⟨lower, -, upper⟩ := neighbourhood_quotients nonzero
  obtain ⟨scaled, quotient⟩ := @shiftedTen_spec decimal.digits 1 Nat.one_pos decimal.exponent
  rw [Nat.cast_one, div_one] at quotient
  have positive : (0 : ℚ) < (neighbourhood x).den := by exact_mod_cast den_neighbourhood_pos x
  have scaled : (0 : ℚ) < (shiftedTen decimal.digits 1 decimal.exponent).2 := by
    exact_mod_cast scaled
  unfold Within Decimal.value
  rw [← lower, ← upper, ← quotient, div_lt_div_iff₀ positive scaled,
    div_lt_div_iff₀ scaled positive, div_le_div_iff₀ positive scaled,
    div_le_div_iff₀ scaled positive]
  have parity : (neighbourhood x).closed = (x.significand % 2 == 0) := rfl
  unfold Neighbourhood.holds
  simp only [parity, beq_iff_eq]
  norm_cast
  split
  case isTrue even =>
    rw [Bool.and_eq_true, decide_eq_true_iff, decide_eq_true_iff, or_iff_right_of_imp]
    · exact (and_iff_right even).symm
    · exact fun inside => ⟨even, inside.1.le, inside.2.le⟩
  case isFalse odd =>
    rw [Bool.and_eq_true, decide_eq_true_iff, decide_eq_true_iff, or_iff_left]
    exact fun closed => odd closed.1

end ResourceGraph.Binary64
