import FareSearch.Number.Rounding
import Mathlib.Algebra.Order.Field.Rat
import Mathlib.Algebra.Order.Group.Unbundled.Abs
import Mathlib.Algebra.Ring.Parity
import Mathlib.Tactic.Linarith
import Mathlib.Tactic.NormNum
import Mathlib.Tactic.Positivity
import Mathlib.Tactic.Ring

/-!
# The nearest whole number

A whole number is nearest to a number if it is at most a half away, and of the two at a half the
even one counts. So each number has one nearest whole number, and a quotient is rounded to it.
-/

namespace FareSearch.Number

/-- At most a half away from a number, and even at a half. -/
structure IsNearestEven (number : ℚ) (whole : ℤ) : Prop where
  near : |number - whole| ≤ 1 / 2
  even : |number - whole| = 1 / 2 → Even whole

section Nearest

variable {number fraction : ℚ} {whole other : ℤ}

theorem IsNearestEven.neg (h : IsNearestEven number whole) : IsNearestEven (-number) (-whole) := by
  have habs : |-number - ((-whole : ℤ) : ℚ)| = |number - whole| := by
    rw [Int.cast_neg, neg_sub_neg, abs_sub_comm]
  exact ⟨habs ▸ h.near, fun hhalf ↦ (h.even (habs ▸ hhalf)).neg⟩

theorem IsNearestEven.le (h : IsNearestEven number whole) (h' : IsNearestEven number other) :
    whole ≤ other := by
  by_contra hless
  have hstep : (other : ℚ) + 1 ≤ whole := by exact_mod_cast Int.add_one_le_of_lt (not_le.mp hless)
  obtain ⟨hlow, -⟩ := abs_le.mp h.near
  obtain ⟨-, hhigh⟩ := abs_le.mp h'.near
  -- The two are neighbours with the number halfway between them, and cannot both be even.
  have hmiddle : number = other + 1 / 2 := by linarith
  have hnext : whole = other + 1 := by
    have hcast : (whole : ℚ) = other + 1 := by linarith
    exact_mod_cast hcast
  have hbelow : |number - other| = 1 / 2 := by
    rw [hmiddle, add_sub_cancel_left]
    norm_num
  have habove : |number - whole| = 1 / 2 := by
    rw [hmiddle, hnext]
    push_cast
    norm_num
  obtain ⟨half, hhalf⟩ := h'.even hbelow
  obtain ⟨half', hhalf'⟩ := h.even habove
  omega

theorem IsNearestEven.eq (h : IsNearestEven number whole) (h' : IsNearestEven number other) :
    whole = other :=
  le_antisymm (h.le h') (h'.le h)

theorem IsNearestEven.iff_eq (h : IsNearestEven number whole) :
    IsNearestEven number other ↔ other = whole := by
  constructor
  · exact fun hother ↦ hother.eq h
  · rintro rfl
    exact h

theorem IsNearestEven.neg_of_neg (h : IsNearestEven number whole) (hwhole : whole < 0) :
    number < 0 := by
  have hcast : (whole : ℚ) ≤ -1 := by exact_mod_cast Int.le_sub_one_of_lt hwhole
  obtain ⟨-, hhigh⟩ := abs_le.mp h.near
  linarith

theorem IsNearestEven.nonpos (h : IsNearestEven number whole) (hnumber : number ≤ 0) :
    whole ≤ 0 := by
  by_contra hpositive
  have hcast : (1 : ℚ) ≤ whole := by exact_mod_cast not_le.mp hpositive
  obtain ⟨hlow, -⟩ := abs_le.mp h.near
  linarith

theorem isNearestEven_of_lt (h : |number - whole| < 1 / 2) : IsNearestEven number whole :=
  ⟨h.le, fun hhalf ↦ absurd hhalf h.ne⟩

theorem isNearestEven_below (hnonneg : 0 ≤ fraction) (hless : fraction < 1 / 2) :
    IsNearestEven (whole + fraction) whole := by
  apply isNearestEven_of_lt
  rwa [add_sub_cancel_left, abs_of_nonneg hnonneg]

theorem isNearestEven_above (hless : 1 / 2 < fraction) (hone : fraction < 1) :
    IsNearestEven (whole + fraction) (whole + 1) := by
  apply isNearestEven_of_lt
  rw [Int.cast_add, Int.cast_one, add_sub_add_left_eq_sub, abs_sub_lt_iff]
  constructor <;> linarith

theorem isNearestEven_half (whole : ℤ) : IsNearestEven (whole + 1 / 2) (whole + whole % 2) := by
  rcases Int.emod_two_eq_zero_or_one whole with heven | hodd
  · have habs : |(whole : ℚ) + 1 / 2 - (whole + 0 : ℤ)| = 1 / 2 := by
      rw [add_zero, add_sub_cancel_left]
      norm_num
    rw [heven]
    exact ⟨habs.le, fun _ ↦ Int.even_iff.mpr (by omega)⟩
  · have habs : |(whole : ℚ) + 1 / 2 - (whole + 1 : ℤ)| = 1 / 2 := by
      rw [Int.cast_add, Int.cast_one, add_sub_add_left_eq_sub]
      norm_num
    rw [hodd]
    exact ⟨habs.le, fun _ ↦ Int.even_iff.mpr (by omega)⟩

end Nearest

/-- The rounded quotient is the whole number nearest to the quotient. -/
theorem isNearestEven_roundHalfEven (num : ℕ) {den : ℕ} (h : 0 < den) :
    IsNearestEven (num / den : ℚ) (roundHalfEven num den) := by
  have hden : (0 : ℚ) < den := Nat.cast_pos.mpr h
  have hquotient : (num / den : ℚ) = ((num / den : ℕ) : ℤ) + ((num % den : ℕ) : ℚ) / den := by
    rw [div_eq_iff hden.ne', add_mul, div_mul_cancel₀ _ hden.ne', Int.cast_natCast,
      ← Nat.cast_mul, ← Nat.cast_add, Nat.div_add_mod']
  have hone : ((num % den : ℕ) : ℚ) / den < 1 := by
    rw [div_lt_one hden]
    exact_mod_cast Nat.mod_lt num h
  rw [hquotient, roundHalfEven]
  split
  next hlow =>
    refine isNearestEven_below (by positivity) ?_
    rw [div_lt_div_iff₀ hden two_pos]
    exact_mod_cast (by omega : num % den * 2 < 1 * den)
  next hnotLow =>
    split
    next hhigh =>
      refine isNearestEven_above ?_ hone
      rw [div_lt_div_iff₀ two_pos hden]
      exact_mod_cast (by omega : 1 * den < num % den * 2)
    next hnotHigh =>
      have hhalf : ((num % den : ℕ) : ℚ) / den = 1 / 2 := by
        rw [div_eq_div_iff hden.ne' two_ne_zero]
        exact_mod_cast (by omega : num % den * 2 = 1 * den)
      rw [hhalf]
      exact isNearestEven_half _

end FareSearch.Number
