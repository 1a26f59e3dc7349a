import FareSearch.Money.Amount
import Mathlib.Algebra.Order.Field.Rat
import Mathlib.Tactic.Positivity
import Mathlib.Tactic.NormNum
import Mathlib.Tactic.Ring

/-!
# The value of an amount

An amount stands for a rational number. Order and equality of amounts are those of their numbers.
The normal form keeps the number, and each number has only one.
-/

namespace FareSearch.Amount

/-- The number an amount stands for. -/
def value (amount : Amount) : ℚ :=
  (amount.coefficient : ℚ) / 10 ^ amount.scale

theorem aligned_eq_value (left right : Amount) :
    ((aligned left right).1 : ℚ) = left.value * 10 ^ (left.scale + right.scale) ∧
      ((aligned left right).2 : ℚ) = right.value * 10 ^ (left.scale + right.scale) := by
  have hpos (exponent : ℕ) : (10 : ℚ) ^ exponent ≠ 0 := by positivity
  have htens (exponent : ℕ) : ((Number.tenPow exponent : ℤ) : ℚ) = 10 ^ exponent := by
    simp [Number.tenPow]
  constructor
  · rw [value, pow_add, ← mul_assoc, div_mul_cancel₀ _ (hpos _)]
    simp only [aligned, Int.cast_mul, htens]
  · rw [value, pow_add, mul_comm (10 ^ left.scale : ℚ), ← mul_assoc, div_mul_cancel₀ _ (hpos _)]
    simp only [aligned, Int.cast_mul, htens]

theorem lt_iff (left right : Amount) : left.lt right = true ↔ left.value < right.value := by
  have hpos : (0 : ℚ) < 10 ^ (left.scale + right.scale) := by positivity
  obtain ⟨hleft, hright⟩ := aligned_eq_value left right
  rw [← mul_lt_mul_iff_left₀ hpos, ← hleft, ← hright, Int.cast_lt]
  simp [lt]

theorem le_iff (left right : Amount) : left.le right = true ↔ left.value ≤ right.value := by
  have hpos : (0 : ℚ) < 10 ^ (left.scale + right.scale) := by positivity
  obtain ⟨hleft, hright⟩ := aligned_eq_value left right
  rw [← mul_le_mul_iff_left₀ hpos, ← hleft, ← hright, Int.cast_le]
  simp [le]

theorem sameValue_iff (left right : Amount) :
    left.sameValue right = true ↔ left.value = right.value := by
  have hpos : (10 : ℚ) ^ (left.scale + right.scale) ≠ 0 := by positivity
  obtain ⟨hleft, hright⟩ := aligned_eq_value left right
  rw [← mul_left_inj' hpos, ← hleft, ← hright, Int.cast_inj]
  simp [sameValue]

theorem stripZeros_value (magnitude scale : ℕ) :
    ((stripZeros magnitude scale).1 : ℚ) / 10 ^ (stripZeros magnitude scale).2 =
      (magnitude : ℚ) / 10 ^ scale := by
  induction scale generalizing magnitude with
  | zero => simp [stripZeros]
  | succ scale ih =>
    unfold stripZeros
    split
    next hzero =>
      rw [ih]
      have hten : (magnitude : ℚ) = (magnitude / 10 : ℕ) * 10 := by
        exact_mod_cast (Nat.div_mul_cancel (Nat.dvd_of_mod_eq_zero hzero)).symm
      rw [hten, pow_succ, mul_div_mul_right _ _ (by norm_num)]
    next => rfl

theorem value_eq_sign (amount : Amount) :
    amount.value =
      (if amount.negative then -1 else 1) * (amount.magnitude / 10 ^ amount.scale) := by
  unfold value coefficient
  cases amount.negative
  · simp
  · simp [neg_div]

/-- The normal form of an amount stands for the same number. -/
theorem value_normalize (amount : Amount) : amount.normalize.value = amount.value := by
  have hstripped := stripZeros_value amount.magnitude amount.scale
  rw [value_eq_sign, value_eq_sign]
  by_cases hzero : (stripZeros amount.magnitude amount.scale).1 = 0
  · rw [hzero, Nat.cast_zero, zero_div] at hstripped
    simp [normalize, hzero, ← hstripped]
  · simp [normalize, hzero, hstripped]

/-- The last place of an amount is not a zero, and zero has no sign. -/
structure IsReduced (amount : Amount) : Prop where
  lastPlace : amount.scale ≠ 0 → amount.magnitude % 10 ≠ 0
  sign : amount.negative = true → amount.magnitude ≠ 0

theorem stripZeros_lastPlace (magnitude scale : ℕ) (h : (stripZeros magnitude scale).2 ≠ 0) :
    (stripZeros magnitude scale).1 % 10 ≠ 0 := by
  induction scale generalizing magnitude with
  | zero => exact absurd rfl h
  | succ scale ih =>
    unfold stripZeros at h ⊢
    split
    next hzero =>
      rw [if_pos hzero] at h
      exact ih _ h
    next hplace => exact hplace

theorem isReduced_normalize (amount : Amount) : amount.normalize.IsReduced where
  lastPlace := stripZeros_lastPlace amount.magnitude amount.scale
  sign h := by
    simp only [normalize, Bool.and_eq_true, decide_eq_true_eq] at h
    exact h.2

section Reduced

variable {x y : Amount}

theorem natAbs_coefficient (amount : Amount) : amount.coefficient.natAbs = amount.magnitude := by
  unfold coefficient
  split <;> simp

/-- A reduced amount has no more places than another one of its value. -/
theorem IsReduced.scale_le (hy : y.IsReduced)
    (h : x.magnitude * 10 ^ y.scale = y.magnitude * 10 ^ x.scale) : y.scale ≤ x.scale := by
  by_contra hless
  obtain ⟨more, hmore⟩ := Nat.exists_eq_add_of_lt (not_le.mp hless)
  have hpos : 0 < 10 ^ x.scale := by positivity
  have hmagnitude : y.magnitude = x.magnitude * 10 ^ more * 10 := by
    apply Nat.eq_of_mul_eq_mul_right hpos
    rw [← h, hmore]
    ring
  refine hy.lastPlace (by omega) ?_
  rw [hmagnitude, Nat.mul_mod_left]

/-- Reduced amounts of one value are the same. -/
theorem IsReduced.eq_of_value_eq (hx : x.IsReduced) (hy : y.IsReduced)
    (h : x.value = y.value) : x = y := by
  have hcoefficients : x.coefficient * 10 ^ y.scale = y.coefficient * 10 ^ x.scale := by
    have hsame := beq_iff_eq.mp ((sameValue_iff x y).mpr h)
    simpa [aligned, Number.tenPow] using hsame
  have hmagnitudes : x.magnitude * 10 ^ y.scale = y.magnitude * 10 ^ x.scale := by
    have habs := congrArg Int.natAbs hcoefficients
    rwa [Int.natAbs_mul, Int.natAbs_mul, natAbs_coefficient, natAbs_coefficient, Int.natAbs_pow,
      Int.natAbs_pow] at habs
  have hscale : x.scale = y.scale := le_antisymm (hx.scale_le hmagnitudes.symm)
    (hy.scale_le hmagnitudes)
  rw [hscale] at hmagnitudes hcoefficients
  have hmagnitude := Nat.eq_of_mul_eq_mul_right (by positivity) hmagnitudes
  have hcoefficient := Int.eq_of_mul_eq_mul_right (by positivity) hcoefficients
  refine Amount.ext ?_ hmagnitude hscale
  -- Of different signs the two could only be zero, which has none.
  by_contra hsigns
  have hzero : x.magnitude = 0 := by
    unfold coefficient at hcoefficient
    cases hneg : x.negative <;> cases hneg' : y.negative <;> simp [hneg, hneg'] at * <;> omega
  cases hneg : x.negative with
  | true => exact hx.sign hneg hzero
  | false =>
    rw [hneg] at hsigns
    exact hy.sign (Bool.eq_true_of_not_eq_false (Ne.symm hsigns)) (hmagnitude ▸ hzero)

end Reduced

theorem normalize_eq_iff {x y : Amount} : x.normalize = y.normalize ↔ x.value = y.value := by
  constructor
  · intro h
    rw [← value_normalize x, h, value_normalize]
  · intro h
    apply (isReduced_normalize x).eq_of_value_eq (isReduced_normalize y)
    rw [value_normalize, value_normalize, h]

end FareSearch.Amount
