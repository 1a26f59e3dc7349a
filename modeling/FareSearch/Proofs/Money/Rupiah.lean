import FareSearch.Money.Rupiah
import FareSearch.Proofs.Money.Value
import FareSearch.Proofs.Number.Digits
import FareSearch.Proofs.Number.Rounding
import Mathlib.Algebra.BigOperators.Ring.List

/-!
# Rupiah that are read back

Rupiah show the whole number nearest to an amount: its digits in groups of three, of which only the
first may be shorter, and a minus sign if it is below zero. Without the points the digits are those
of the number, so what is shown tells the rounded amount and nothing else.
-/

namespace FareSearch

namespace Amount

/-- The whole number nearest to an amount. -/
def rounded (amount : Amount) : ℤ :=
  if amount.negative then -(amount.roundedMagnitude : ℤ) else amount.roundedMagnitude

theorem abs_value (amount : Amount) :
    |amount.value| = (amount.magnitude : ℚ) / 10 ^ amount.scale := by
  have hnonneg : (0 : ℚ) ≤ amount.magnitude / 10 ^ amount.scale := by positivity
  rw [value_eq_sign]
  cases amount.negative <;> simp [abs_of_nonneg hnonneg]

theorem value_eq_abs (amount : Amount) :
    amount.value = if amount.negative then -|amount.value| else |amount.value| := by
  rw [abs_value, value_eq_sign]
  cases amount.negative <;> simp

theorem isNearestEven_abs_value (amount : Amount) :
    Number.IsNearestEven |amount.value| amount.roundedMagnitude := by
  have hrounded := Number.isNearestEven_roundHalfEven amount.magnitude
    (Nat.pow_pos (by decide) : 0 < Number.tenPow amount.scale)
  rw [abs_value]
  simpa [Number.tenPow, roundedMagnitude] using hrounded

theorem isNearestEven_value (amount : Amount) :
    Number.IsNearestEven amount.value amount.rounded := by
  rw [value_eq_abs, rounded]
  split
  · exact amount.isNearestEven_abs_value.neg
  · exact amount.isNearestEven_abs_value

theorem natAbs_rounded (amount : Amount) : amount.rounded.natAbs = amount.roundedMagnitude := by
  unfold rounded
  split <;> simp

theorem rounded_neg_iff (amount : Amount) :
    amount.rounded < 0 ↔ amount.value < 0 ∧ 0 < amount.roundedMagnitude := by
  have hmagnitude := amount.natAbs_rounded
  constructor
  · intro hnegative
    exact ⟨amount.isNearestEven_value.neg_of_neg hnegative, by omega⟩
  · rintro ⟨hvalue, hpositive⟩
    have hnonpos := amount.isNearestEven_value.nonpos hvalue.le
    omega

end Amount

namespace Rupiah

/-- Groups of three digits, of which the first may have fewer. -/
structure IsGrouping (first : List Char) (rest : List (List Char)) (digits : List Char) :
    Prop where
  flatten : (first :: rest).flatten = digits
  length_pos : 0 < first.length
  length_le : first.length ≤ 3
  length_rest : ∀ group ∈ rest, group.length = 3

theorem IsGrouping.length_mod {first digits : List Char} {rest : List (List Char)}
    (h : IsGrouping first rest digits) : digits.length % 3 = first.length % 3 := by
  have hrest : 3 ∣ (rest.map List.length).sum := by
    apply List.dvd_sum
    intro length hlength
    obtain ⟨group, hgroup, rfl⟩ := List.mem_map.mp hlength
    rw [h.length_rest group hgroup]
  rw [← h.flatten, List.flatten_cons, List.length_append, List.length_flatten]
  omega

theorem grouped_cons_cons (digit next : Char) (rest : List Char) :
    grouped (digit :: next :: rest) =
      if (next :: rest).length % 3 = 0 then digit :: '.' :: grouped (next :: rest)
      else digit :: grouped (next :: rest) :=
  rfl

/-- The points stand between groups of three digits, counted from the end. -/
theorem exists_isGrouping {digits : List Char} (h : digits ≠ []) :
    ∃ first rest, IsGrouping first rest digits ∧
      grouped digits = ['.'].intercalate (first :: rest) := by
  induction digits with
  | nil => exact absurd rfl h
  | cons digit digits ih =>
    have hone : 0 < [digit].length ∧ [digit].length ≤ 3 := by simp
    cases digits with
    | nil => exact ⟨[digit], [], ⟨rfl, hone.1, hone.2, by simp⟩, by simp [grouped]⟩
    | cons next digits =>
      obtain ⟨first, rest, hgrouping, hgrouped⟩ := ih (List.cons_ne_nil _ _)
      have hlength := hgrouping.length_mod
      have hpos := hgrouping.length_pos
      have hle := hgrouping.length_le
      rw [grouped_cons_cons, hgrouped]
      split
      next hfull =>
        -- The groups so far are full ones, and the digit begins another.
        refine ⟨[digit], first :: rest, ⟨?_, hone.1, hone.2, ?_⟩, ?_⟩
        · rw [List.flatten_cons, hgrouping.flatten, List.singleton_append]
        · rw [List.forall_mem_cons]
          exact ⟨by omega, hgrouping.length_rest⟩
        · rw [List.intercalate_cons_cons]
          rfl
      next hfull =>
        refine ⟨digit :: first, rest, ⟨?_, by simp, ?_, hgrouping.length_rest⟩, ?_⟩
        · rw [List.flatten_cons, List.cons_append, ← List.flatten_cons, hgrouping.flatten]
        · rw [List.length_cons]
          omega
        · cases rest with
          | nil => simp
          | cons group rest =>
            rw [List.intercalate_cons_cons, List.intercalate_cons_cons]
            rfl

/-- Without the points the digits are as before. -/
theorem filter_grouped {digits : List Char} (h : '.' ∉ digits) :
    (grouped digits).filter (· ≠ '.') = digits := by
  induction digits with
  | nil => rfl
  | cons digit digits ih =>
    obtain ⟨hdigit, hdigits⟩ := not_or.mp (mt List.mem_cons.mpr h)
    have hkept (rest : List Char) :
        (digit :: rest).filter (· ≠ '.') = digit :: rest.filter (· ≠ '.') :=
      List.filter_cons_of_pos (decide_eq_true (Ne.symm hdigit))
    cases digits with
    | nil => rw [grouped, hkept, List.filter_nil]
    | cons next digits =>
      rw [grouped_cons_cons]
      split
      · rw [hkept, List.filter_cons_of_neg (by decide), ih hdigits]
      · rw [hkept, ih hdigits]

/-- The number that digits make without the points between them. -/
def ungrouped? (digits : List Char) : Option ℕ :=
  Number.digits? (digits.filter (· ≠ '.'))

theorem ungrouped?_grouped (n : ℕ) : ungrouped? (grouped (Nat.toDigits 10 n)) = some n := by
  have hdigits : ∀ c ∈ Nat.toDigits 10 n, Number.isDigit c = true :=
    fun c hc ↦ Number.isDigit_of_mem_toDigits hc
  have hpoint : '.' ∉ Nat.toDigits 10 n := fun hmem ↦ absurd (hdigits _ hmem) (by decide)
  rw [ungrouped?, filter_grouped hpoint, Number.digits?, List.all_eq_true.mpr hdigits,
    Number.ofDigits_toDigits]
  simp [Nat.toDigits_ne_nil]

/-- What is read from a rendering: the number behind the sign and the unit. -/
def reading? (text : String) : Option ℤ :=
  match text.toList with
  | '-' :: 'R' :: 'p' :: '.' :: ' ' :: digits => (ungrouped? digits).map fun n : ℕ ↦ -(n : ℤ)
  | 'R' :: 'p' :: '.' :: ' ' :: digits => (ungrouped? digits).map fun n : ℕ ↦ (n : ℤ)
  | _ => none

/-- A rendering depends on the rounded amount only. -/
theorem text_eq (amount : Amount) :
    text amount = (if amount.rounded < 0 then "-" else "") ++ "Rp. " ++
      String.ofList (grouped (Nat.toDigits 10 amount.rounded.natAbs)) := by
  have hsign : (amount.negative && decide (amount.roundedMagnitude ≠ 0)) =
      decide (amount.rounded < 0) := by
    unfold Amount.rounded
    cases amount.negative
    · simp
    · simp [Nat.pos_iff_ne_zero]
  rw [text, hsign, amount.natAbs_rounded]
  by_cases hnegative : amount.rounded < 0
  · rw [decide_eq_true hnegative, if_pos rfl, if_pos hnegative]
    rfl
  · rw [decide_eq_false hnegative, if_neg Bool.false_ne_true, if_neg hnegative]
    rfl

theorem reading?_text (amount : Amount) : reading? (text amount) = some amount.rounded := by
  have hnumber := ungrouped?_grouped amount.rounded.natAbs
  rw [text_eq, reading?]
  by_cases hnegative : amount.rounded < 0
  · rw [if_pos hnegative, String.toList_append, String.toList_ofList]
    change (ungrouped? (grouped (Nat.toDigits 10 amount.rounded.natAbs))).map _ = _
    rw [hnumber, Option.map_some, Int.ofNat_natAbs_of_nonpos hnegative.le, neg_neg]
  · rw [if_neg hnegative, String.toList_append, String.toList_ofList]
    change (ungrouped? (grouped (Nat.toDigits 10 amount.rounded.natAbs))).map _ = _
    rw [hnumber, Option.map_some, Int.natAbs_of_nonneg (not_lt.mp hnegative)]

theorem text_eq_iff {amount other : Amount} :
    text amount = text other ↔ amount.rounded = other.rounded := by
  constructor
  · intro h
    have hreading := congrArg reading? h
    rwa [reading?_text, reading?_text, Option.some_inj] at hreading
  · intro h
    rw [text_eq, text_eq, h]

/-- Rupiah are the digits of the whole number nearest to the amount, an even one at a half, in groups
of three with points between them and only the first group shorter; a minus sign stands before them
just if the amount and what it is rounded to are below zero. Without sign, unit and points they read
back as the rounded amount, and two amounts look alike just if they are rounded to one number. -/
theorem text_faithful (amount : Amount) :
    ∃ n : ℕ,
      (∀ whole : ℤ, Number.IsNearestEven |amount.value| whole ↔ whole = n) ∧
      (∃ first rest, IsGrouping first rest (Nat.toDigits 10 n) ∧
        text amount = (if amount.value < 0 ∧ 0 < n then "-" else "") ++ "Rp. " ++
          String.ofList (['.'].intercalate (first :: rest))) ∧
      ((Nat.toDigits 10 n).head? = some '0' → n = 0) ∧
      (∀ whole : ℤ, reading? (text amount) = some whole ↔
        Number.IsNearestEven amount.value whole) ∧
      ∀ other : Amount, text amount = text other ↔
        ∃ whole, Number.IsNearestEven amount.value whole ∧
          Number.IsNearestEven other.value whole := by
  obtain ⟨first, rest, hgrouping, hgrouped⟩ :=
    exists_isGrouping (Nat.toDigits_ne_nil (b := 10) (n := amount.roundedMagnitude))
  refine ⟨amount.roundedMagnitude, ?nearest, ⟨first, rest, hgrouping, ?shown⟩, ?leading, ?read,
    ?alike⟩
  case nearest => exact fun whole ↦ amount.isNearestEven_abs_value.iff_eq
  case shown =>
    rw [text_eq, amount.natAbs_rounded, hgrouped]
    simp only [Amount.rounded_neg_iff]
  case leading =>
    intro hzero
    by_contra hne
    exact Number.head?_toDigits_ne_zero (Nat.pos_of_ne_zero hne) hzero
  case read =>
    intro whole
    rw [reading?_text, Option.some_inj, amount.isNearestEven_value.iff_eq, eq_comm]
  case alike =>
    intro other
    rw [text_eq_iff]
    constructor
    · intro h
      exact ⟨_, amount.isNearestEven_value, h ▸ other.isNearestEven_value⟩
    · rintro ⟨whole, hwhole, hother⟩
      exact (amount.isNearestEven_value.eq hwhole).trans (hother.eq other.isNearestEven_value)

end Rupiah

end FareSearch
