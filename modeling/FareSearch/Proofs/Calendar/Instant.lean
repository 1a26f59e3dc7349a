import FareSearch.Calendar.Timestamp
import Mathlib.Data.Int.Order.Basic
import Mathlib.Data.Prod.Lex

/-!
# Instants and what passes between them

Timestamps are ordered by the second of universal time and then by the fraction. From one that is
not in a leap second to a later one a positive time passes, and whole minutes of it are rounded
down.
-/

namespace FareSearch.Timestamp

variable {left right earlier later : Timestamp}

/-- Seconds of universal time, then the fraction. -/
def instant (stamp : Timestamp) : ℤ ×ₗ ℕ :=
  toLex (stamp.unixSeconds, stamp.time.nano)

theorem lt_iff : left.lt right = true ↔ left.instant < right.instant := by
  unfold lt instant
  rw [Prod.Lex.toLex_lt_toLex, Bool.or_eq_true, Bool.and_eq_true, decide_eq_true_eq, beq_iff_eq,
    decide_eq_true_eq]

theorem le_iff : left.le right = true ↔ left.instant ≤ right.instant := by
  rw [le, Bool.not_eq_true', Bool.eq_false_iff, Ne, lt_iff, not_lt]

/-- Nanoseconds of a minute. -/
def minute : ℤ :=
  60000000000

/-- To a later instant a positive time passes, unless it begins in a leap second. -/
theorem nanosecondsSince_pos (h : earlier.lt later = true)
    (hearlier : earlier.time.nano < 1000000000) : 0 < later.nanosecondsSince earlier := by
  rw [lt_iff, instant, instant, Prod.Lex.toLex_lt_toLex] at h
  unfold nanosecondsSince
  simp only [Int.ofNat_eq_natCast, Bool.and_eq_true, decide_eq_true_eq] at h ⊢
  rcases h with hsecond | ⟨hsecond, hnano⟩
  · split_ifs <;> omega
  · rw [hsecond, if_neg fun hday ↦ lt_irrefl _ hday.1, if_neg fun hday ↦ lt_irrefl _ hday.1]
    omega

theorem minutesSince_of_minute (h : minute ≤ later.nanosecondsSince earlier) :
    later.minutesSince earlier = later.nanosecondsSince earlier / minute ∧
      0 < later.minutesSince earlier := by
  have hdiv : later.minutesSince earlier = later.nanosecondsSince earlier / minute :=
    Int.tdiv_eq_ediv_of_nonneg (le_trans (by decide) h)
  refine ⟨hdiv, ?_⟩
  rw [hdiv, Int.lt_iff_add_one_le, Int.le_ediv_iff_mul_le (by decide)]
  simpa using h

theorem minutesSince_of_less (h : later.nanosecondsSince earlier < minute) :
    later.minutesSince earlier ≤ 0 := by
  unfold minutesSince
  by_cases hnonneg : 0 ≤ later.nanosecondsSince earlier
  · exact (Int.tdiv_eq_zero_of_lt hnonneg h).le
  · have hopposite := Int.tdiv_nonneg (a := -later.nanosecondsSince earlier) (b := 60000000000)
      (by omega) (by decide)
    rw [Int.neg_tdiv] at hopposite
    exact Int.neg_nonneg.mp hopposite

end FareSearch.Timestamp
