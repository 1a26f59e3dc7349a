import FareSearch.Number.Reader
import Mathlib.Data.List.TakeWhile
import Mathlib.Tactic.Ring

/-!
# Digits that are read back

The digits of a number are read as that number, and a reader of digits stops where they end. Digits
that follow others continue a number that never falls.
-/

namespace FareSearch.Number

/-- The number that digits make of the number before them. -/
def continued (start : ℕ) (digits : List Char) : ℕ :=
  digits.foldl (fun value c ↦ value * 10 + digitValue c) start

theorem continued_nil (start : ℕ) : continued start [] = start := rfl

theorem continued_cons (start : ℕ) (c : Char) (digits : List Char) :
    continued start (c :: digits) = continued (start * 10 + digitValue c) digits := by
  rw [continued, List.foldl_cons, continued]

theorem continued_append (start : ℕ) (left right : List Char) :
    continued start (left ++ right) = continued (continued start left) right :=
  List.foldl_append

theorem continued_zero (digits : List Char) : continued 0 digits = ofDigits digits := rfl

theorem le_continued (start : ℕ) (digits : List Char) : start ≤ continued start digits := by
  induction digits generalizing start with
  | nil => exact le_refl start
  | cons c digits ih => exact le_trans (by omega) (ih (start * 10 + digitValue c))

theorem continued_eq_ofDigitChars (start : ℕ) (digits : List Char) :
    continued start digits = Nat.ofDigitChars 10 digits start := by
  rw [Nat.ofDigitChars_eq_foldl, continued]
  congr
  funext value c
  rw [digitValue, Nat.mul_comm]

theorem ofDigits_toDigits (n : ℕ) : ofDigits (Nat.toDigits 10 n) = n := by
  rw [← continued_zero, continued_eq_ofDigitChars, Nat.ofDigitChars_ten_toDigits]

theorem isDigit_of_mem_toDigits {n : ℕ} {c : Char} (h : c ∈ Nat.toDigits 10 n) :
    isDigit c = true :=
  Nat.isDigit_of_mem_toDigits (by decide) (by decide) h

/-- A text that does not go on with a digit. -/
def EndsDigits (rest : List Char) : Prop :=
  ∀ c ∈ rest.head?, isDigit c = false

theorem endsDigits_nil : EndsDigits [] := by
  rintro c ⟨⟩

theorem endsDigits_cons {c : Char} (h : isDigit c = false) (rest : List Char) :
    EndsDigits (c :: rest) := by
  rintro d ⟨⟩
  exact h

section Runs

variable {digits rest : List Char}

theorem takeWhile_of_endsDigits (h : EndsDigits rest) : rest.takeWhile isDigit = [] := by
  cases rest with
  | nil => rfl
  | cons c rest => rw [List.takeWhile_cons_of_neg (by simp [h c rfl])]

theorem takeWhile_isDigit_append (hdigits : ∀ c ∈ digits, isDigit c = true)
    (hrest : EndsDigits rest) : (digits ++ rest).takeWhile isDigit = digits := by
  rw [List.takeWhile_append_of_pos hdigits, takeWhile_of_endsDigits hrest, List.append_nil]

theorem dropWhile_isDigit_append (hdigits : ∀ c ∈ digits, isDigit c = true)
    (hrest : EndsDigits rest) : (digits ++ rest).dropWhile isDigit = rest := by
  rw [List.dropWhile_append_of_pos hdigits]
  cases rest with
  | nil => rfl
  | cons c rest => rw [List.dropWhile_cons_of_neg (by simp [hrest c rfl])]

end Runs

/-- Only zero begins with the digit zero. -/
theorem head?_toDigits_ne_zero {n : ℕ} (h : 0 < n) : (Nat.toDigits 10 n).head? ≠ some '0' := by
  induction n using Nat.strongRecOn with
  | ind n ih =>
    by_cases hsmall : n < 10
    · rw [Nat.toDigits_of_lt_base hsmall, List.head?_cons, Ne, Option.some_inj,
        Nat.digitChar_eq_zero]
      omega
    · have hfirst := ih (n / 10) (Nat.div_lt_self h (by decide)) (by omega)
      obtain ⟨c, rest, hdigits⟩ :=
        List.exists_cons_of_ne_nil (Nat.toDigits_ne_nil (n := n / 10) (b := 10))
      rw [Nat.toDigits_of_base_le (by decide) (not_lt.mp hsmall), hdigits]
      rwa [hdigits] at hfirst

end FareSearch.Number
