import FareSearch.Number.Reader
import FareSearch.Provider.Retry
import Mathlib.Order.Bounds.Basic
import Mathlib.Tactic.Ring

/-!
# The pauses between attempts

A duration is held in whole seconds of 64 bits and the nanoseconds of one more. The pause before a
retry is the first pause times a power of two, with two limits: the factor ends at the largest
32-bit number, which is no power of two, and the product ends at the longest duration. Still no
pause is shorter than the one before it, and none is more than twice as long.
-/

namespace FareSearch

namespace Duration

/-- What a duration is held in: whole seconds of 64 bits and the nanoseconds of one more. -/
structure Parts where
  seconds : ℕ
  nanos : ℕ
  seconds_lt : seconds < Number.twoPow 64
  nanos_lt : nanos < 1000000000

namespace Parts

def whole (parts : Parts) : Duration :=
  ofSeconds parts.seconds + parts.nanos

/-- The parts of a product. The nanoseconds carry into the seconds; if these do not fit, there is no
such duration. -/
def times? (parts : Parts) (factor : ℕ) : Option Parts :=
  if h : parts.seconds * factor + parts.nanos * factor / 1000000000 < Number.twoPow 64 then
    some ⟨_, parts.nanos * factor % 1000000000, h, Nat.mod_lt _ (by decide)⟩
  else none

/-- The nanoseconds of a product by a 32-bit factor fit 64 bits before they carry. -/
theorem nanos_mul_le (parts : Parts) {factor : ℕ} (h : factor ≤ Number.limit32) :
    parts.nanos * factor ≤ Number.limit64 :=
  calc
    parts.nanos * factor ≤ 1000000000 * Number.limit32 :=
      Nat.mul_le_mul parts.nanos_lt.le h
    _ ≤ Number.limit64 := by decide

end Parts

/-- Whether a duration can be held. -/
def Representable (duration : Duration) : Prop :=
  ∃ parts : Parts, parts.whole = duration

theorem le_longest_iff (seconds nanos : ℕ) (h : nanos < 1000000000) :
    ofSeconds seconds + nanos ≤ longest ↔ seconds < Number.twoPow 64 := by
  have hpositive : 0 < Number.twoPow 64 := by decide
  change seconds * 1000000000 + nanos ≤ Number.twoPow 64 * 1000000000 - 1 ↔ _
  omega

theorem representable_iff (duration : Duration) :
    duration.Representable ↔ duration ≤ longest := by
  constructor
  · rintro ⟨parts, rfl⟩
    exact (le_longest_iff parts.seconds parts.nanos parts.nanos_lt).mpr parts.seconds_lt
  · intro h
    have hnanos : duration % 1000000000 < 1000000000 := Nat.mod_lt _ (by decide)
    have hwhole : ofSeconds (duration / 1000000000) + duration % 1000000000 = duration :=
      Nat.div_add_mod' duration 1000000000
    rw [← hwhole, le_longest_iff _ _ hnanos] at h
    exact ⟨⟨_, _, h, hnanos⟩, hwhole⟩

theorem isGreatest_longest : IsGreatest {duration : Duration | duration.Representable} longest :=
  ⟨(representable_iff longest).mpr (le_refl longest),
    fun duration hduration ↦ (representable_iff duration).mp hduration⟩

/-- A product that is computed in parts, with the longest duration in place of one that cannot be
held, is the product up to the longest duration. -/
theorem Parts.elim_times? (parts : Parts) (factor : ℕ) :
    (parts.times? factor).elim longest Parts.whole = min (parts.whole * factor) longest := by
  have hnanos : parts.nanos * factor % 1000000000 < 1000000000 := Nat.mod_lt _ (by decide)
  have hproduct : parts.whole * factor =
      ofSeconds (parts.seconds * factor + parts.nanos * factor / 1000000000) +
        parts.nanos * factor % 1000000000 := by
    calc
      parts.whole * factor = parts.seconds * factor * 1000000000 + parts.nanos * factor := by
        unfold whole ofSeconds
        ring
      _ = _ := by
        unfold ofSeconds
        omega
  unfold times?
  split
  next hfits =>
    rw [Option.elim_some, hproduct, min_eq_left ((le_longest_iff _ _ hnanos).mpr hfits)]
    rfl
  next hfits =>
    have hlonger : longest ≤ parts.whole * factor := by
      rw [hproduct]
      exact le_of_not_ge fun hle ↦ hfits ((le_longest_iff _ _ hnanos).mp hle)
    rw [Option.elim_none, min_eq_right hlonger]

end Duration

namespace RetryPolicy

/-- What the first pause is multiplied by: a power of two, up to the largest 32-bit number. -/
def factor (retry : ℕ) : ℕ :=
  min (2 ^ retry) Number.limit32

theorem factor_of_le {retry : ℕ} (h : retry ≤ 31) : factor retry = 2 ^ retry := by
  have hpower : 2 ^ retry ≤ 2 ^ 31 := Nat.pow_le_pow_right (by decide) h
  have hlimit : 2 ^ 31 ≤ Number.limit32 := by decide
  exact min_eq_left (hpower.trans hlimit)

theorem factor_of_lt {retry : ℕ} (h : 31 < retry) : factor retry = Number.limit32 := by
  have hpower : 2 ^ 32 ≤ 2 ^ retry := Nat.pow_le_pow_right (by decide) h
  have hlimit : Number.limit32 ≤ 2 ^ 32 := by decide
  exact min_eq_right (hlimit.trans hpower)

theorem factor_le_succ (retry : ℕ) : factor retry ≤ factor (retry + 1) :=
  min_le_min_right _ (Nat.pow_le_pow_right (by decide) (Nat.le_succ retry))

/-- The factor never more than doubles, also where it comes to its limit. -/
theorem factor_succ_le (retry : ℕ) : factor (retry + 1) ≤ 2 * factor retry := by
  unfold factor
  rw [Nat.pow_succ]
  omega

theorem backoffFor_eq (policy : RetryPolicy) (retry : ℕ) :
    policy.backoffFor retry = min (policy.initialBackoff * factor retry) Duration.longest := by
  unfold backoffFor
  dsimp only
  split
  next hless =>
    rw [factor_of_le (Nat.le_of_lt_succ hless)]
    rfl
  next hless => rw [factor_of_lt (Nat.lt_of_not_ge fun hle ↦ hless (Nat.lt_succ_of_le hle))]

theorem backoffFor_le_succ (policy : RetryPolicy) (retry : ℕ) :
    policy.backoffFor retry ≤ policy.backoffFor (retry + 1) := by
  rw [backoffFor_eq, backoffFor_eq]
  exact min_le_min_right _ (Nat.mul_le_mul_left _ (factor_le_succ retry))

theorem backoffFor_succ_le (policy : RetryPolicy) (retry : ℕ) :
    policy.backoffFor (retry + 1) ≤ min (2 * policy.backoffFor retry) Duration.longest := by
  have hproduct : policy.initialBackoff * factor (retry + 1) ≤
      2 * (policy.initialBackoff * factor retry) :=
    calc
      policy.initialBackoff * factor (retry + 1) ≤ policy.initialBackoff * (2 * factor retry) :=
        Nat.mul_le_mul_left _ (factor_succ_le retry)
      _ = _ := Nat.mul_left_comm _ _ _
  rw [backoffFor_eq, backoffFor_eq]
  refine le_min ?_ (min_le_right _ _)
  rcases le_total (policy.initialBackoff * factor retry) Duration.longest with hfits | hlong
  · rw [min_eq_left hfits]
    exact (min_le_left _ _).trans hproduct
  · rw [min_eq_right hlong]
    exact (min_le_right _ _).trans (Nat.le_mul_of_pos_left _ (by decide))

/-- The pause before a retry can be held and is computed without an overflow. It is the first pause
times a power of two where this can be held and the retry is one of the first, and the longest
duration where the product cannot be held. From retry to retry it never shrinks and at most
doubles. -/
theorem backoffFor_saturates (policy : RetryPolicy) (parts : Duration.Parts)
    (h : parts.whole = policy.initialBackoff) (retry : ℕ) :
    (policy.backoffFor retry).Representable ∧
    parts.nanos * factor retry ≤ Number.limit64 ∧
    policy.backoffFor retry =
      (parts.times? (factor retry)).elim Duration.longest Duration.Parts.whole ∧
    (retry ≤ 31 → Duration.Representable (policy.initialBackoff * 2 ^ retry) →
      policy.backoffFor retry = policy.initialBackoff * 2 ^ retry) ∧
    (¬Duration.Representable (policy.initialBackoff * min (2 ^ retry) (2 ^ 32 - 1)) →
      IsGreatest {duration : Duration | duration.Representable} (policy.backoffFor retry)) ∧
    (∀ earlier ≤ retry, policy.backoffFor earlier ≤ policy.backoffFor retry) ∧
    policy.backoffFor retry ≤ policy.backoffFor (retry + 1) ∧
    policy.backoffFor (retry + 1) ≤ min (2 * policy.backoffFor retry) Duration.longest := by
  refine ⟨?held, parts.nanos_mul_le (min_le_right _ _), ?computed, ?exact, ?longest,
    fun earlier hearlier ↦ monotone_nat_of_le_succ policy.backoffFor_le_succ hearlier,
    policy.backoffFor_le_succ retry, policy.backoffFor_succ_le retry⟩
  case held =>
    rw [Duration.representable_iff, backoffFor_eq]
    exact min_le_right _ _
  case computed => rw [parts.elim_times?, h, backoffFor_eq]
  case exact =>
    intro hretry hheld
    rw [backoffFor_eq, factor_of_le hretry]
    exact min_eq_left ((Duration.representable_iff _).mp hheld)
  case longest =>
    intro hheld
    rw [Duration.representable_iff, not_le] at hheld
    have hlongest : policy.backoffFor retry = Duration.longest := by
      rw [backoffFor_eq]
      exact min_eq_right hheld.le
    exact hlongest ▸ Duration.isGreatest_longest

/-- A pause that still fits at the last power of two. At the limit of the factor its seconds alone
would fit as well, but the nanoseconds carry. -/
theorem backoffFor_saturates_carry :
    ∃ policy : RetryPolicy, policy.initialBackoff = Duration.ofSeconds 4294967297 + 1 ∧
      4294967297 * factor 32 < Number.twoPow 64 ∧
      policy.backoffFor 31 = policy.initialBackoff * 2 ^ 31 ∧
      IsGreatest {duration : Duration | duration.Representable} (policy.backoffFor 32) := by
  let parts : Duration.Parts := ⟨4294967297, 1, by decide, by decide⟩
  let policy : RetryPolicy := { initialBackoff := parts.whole }
  obtain ⟨-, -, -, hexact, -⟩ := backoffFor_saturates policy parts rfl 31
  obtain ⟨-, -, -, -, hlongest, -⟩ := backoffFor_saturates policy parts rfl 32
  refine ⟨policy, rfl, by decide, hexact (le_refl 31) ?_, hlongest ?_⟩
  · rw [Duration.representable_iff]
    decide
  · rw [Duration.representable_iff]
    decide

end RetryPolicy

end FareSearch
