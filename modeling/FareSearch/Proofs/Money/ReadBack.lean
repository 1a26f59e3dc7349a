import FareSearch.Money.AmountReader
import FareSearch.Proofs.Calendar.ReadBack
import FareSearch.Proofs.Money.Value
import FareSearch.Proofs.Money.Writer

/-!
# Amounts that are read back

The text of an amount is read as the amount, with all of its places. Only the sign of a zero is
lost, which no comparison sees.
-/

namespace FareSearch.Amount

open FareSearch.Number

/-- The amount as it is read: zero has no sign. -/
def settled (amount : Amount) : Amount :=
  { amount with negative := amount.negative && amount.magnitude ≠ 0 }

theorem value_settled (amount : Amount) : amount.settled.value = amount.value := by
  rw [value_eq_sign, value_eq_sign]
  by_cases hzero : amount.magnitude = 0
  · simp [settled, hzero]
  · simp [settled, hzero]

theorem written?_eq (amount : Amount) :
    written? amount.negative amount.magnitude amount.scale = some amount.settled := by
  have hscale : amount.scale % 29 = amount.scale :=
    Nat.mod_eq_of_lt (Nat.lt_succ_of_le amount.scale_le)
  rw [written?, hscale, of?, dif_pos ⟨amount.magnitude_lt, amount.scale_le⟩]
  rfl

section Digits

variable {negative : Bool} {digits : List Char}

-- The equations that `rw` makes of this definition compute the limits in it, which takes too long.
theorem readDigits_cons (negative : Bool) (magnitude scale : ℕ) (afterPoint seen : Bool) (c : Char)
    (rest : List Char) :
    readDigits negative magnitude scale afterPoint seen (c :: rest) =
      if isDigit c then
        if twoPow 96 ≤ magnitude * 10 + digitValue c then
          if afterPoint then roundedAt? negative magnitude scale (c :: rest) else none
        else if afterPoint && 28 ≤ (if afterPoint then scale + 1 else scale) then
          match rest with
          | [] => written? negative (magnitude * 10 + digitValue c)
              (if afterPoint then scale + 1 else scale)
          | d :: after =>
            if d == '_' && wideFrom ≤ magnitude then
              readDigits negative (magnitude * 10 + digitValue c)
                (if afterPoint then scale + 1 else scale) afterPoint true after
            else roundedAt? negative (magnitude * 10 + digitValue c)
              (if afterPoint then scale + 1 else scale) (d :: after)
        else readDigits negative (magnitude * 10 + digitValue c)
          (if afterPoint then scale + 1 else scale) afterPoint true rest
      else if c == '.' && !afterPoint then readDigits negative magnitude scale true seen rest
      else if c == '_' && seen then readDigits negative magnitude scale afterPoint seen rest
      else none := by
  cases rest with
  | nil => rfl
  | cons d after => rfl

/-- Digits before the point continue the magnitude. -/
theorem readDigits_whole (hdigits : ∀ c ∈ digits, isDigit c = true) (magnitude scale : ℕ)
    (seen : Bool) (rest : List Char) (hlimit : continued magnitude digits < twoPow 96)
    (negative : Bool) :
    readDigits negative magnitude scale false seen (digits ++ rest) =
      readDigits negative (continued magnitude digits) scale false (seen || !digits.isEmpty)
        rest := by
  induction digits generalizing magnitude seen with
  | nil => simp [continued_nil]
  | cons c digits ih =>
    rw [continued_cons] at hlimit ⊢
    have hnext := Nat.lt_of_le_of_lt (le_continued _ digits) hlimit
    rw [List.cons_append, readDigits_cons, if_pos (hdigits c List.mem_cons_self),
      if_neg (Nat.not_le.mpr hnext), Bool.false_and, if_neg Bool.false_ne_true,
      if_neg Bool.false_ne_true, ih (fun d hd ↦ hdigits d (.tail _ hd)) _ _ hlimit]
    simp

/-- Digits after the point continue the magnitude and count as places. -/
theorem readDigits_fraction (hdigits : ∀ c ∈ digits, isDigit c = true) (magnitude scale : ℕ)
    (hscale : scale + digits.length ≤ 28) (hlimit : continued magnitude digits < twoPow 96) :
    readDigits negative magnitude scale true true digits =
      written? negative (continued magnitude digits) (scale + digits.length) := by
  induction digits generalizing magnitude scale with
  | nil => rfl
  | cons c digits ih =>
    rw [continued_cons] at hlimit ⊢
    have hnext := Nat.lt_of_le_of_lt (le_continued _ digits) hlimit
    rw [List.length_cons] at hscale
    rw [readDigits_cons, if_pos (hdigits c List.mem_cons_self), if_neg (Nat.not_le.mpr hnext),
      Bool.true_and, if_pos rfl]
    by_cases hlast : 28 ≤ scale + 1
    · obtain rfl : digits = [] := List.length_eq_zero_iff.mp (by omega)
      rw [if_pos (decide_eq_true hlast)]
      rfl
    · rw [if_neg (by simpa using hlast),
        ih (fun d hd ↦ hdigits d (.tail _ hd)) _ _ (by omega) hlimit, List.length_cons,
        Nat.add_right_comm, Nat.add_assoc]

theorem readDigits_digitsText (negative : Bool) {magnitude scale : ℕ} (hscale : scale ≤ 28)
    (hmagnitude : magnitude < twoPow 96) :
    readDigits negative 0 0 false false (digitsText magnitude scale) =
      written? negative magnitude scale := by
  by_cases hplaces : scale = 0
  · have hdigits : ∀ c ∈ Nat.toDigits 10 magnitude, isDigit c = true :=
      fun c hc ↦ isDigit_of_mem_toDigits hc
    have hvalue : continued 0 (Nat.toDigits 10 magnitude) = magnitude := ofDigits_toDigits magnitude
    have hsome : (Nat.toDigits 10 magnitude).isEmpty = false := by
      rw [List.isEmpty_eq_false_iff]
      exact Nat.toDigits_ne_nil
    have hread := readDigits_whole hdigits 0 0 false [] (by rwa [hvalue])
    rw [List.append_nil, hvalue, hsome] at hread
    rw [digitsText, if_pos hplaces, hread negative, hplaces]
    rfl
  · obtain ⟨whole, fraction, htext, hpadded, hlength⟩ := exists_digitsText hplaces magnitude
    have hdigits : ∀ c ∈ whole ++ fraction, isDigit c = true := by
      intro c hc
      rw [hpadded] at hc
      exact Calendar.isDigit_of_mem_padded hc
    have hvalue : continued (continued 0 whole) fraction = magnitude := by
      rw [← continued_append, hpadded, continued_zero, Calendar.ofDigits_padded]
    have hwhole : continued 0 whole < twoPow 96 :=
      lt_of_le_of_lt (le_continued _ fraction) (by rwa [hvalue])
    have hsome : whole.isEmpty = false := by
      have hlonger := congrArg List.length hpadded
      rw [List.length_append, hlength, Calendar.toList_padded, List.length_append,
        List.length_replicate] at hlonger
      rw [List.isEmpty_eq_false_iff]
      rintro rfl
      rw [List.length_nil] at hlonger
      omega
    rw [htext, readDigits_whole (fun c hc ↦ hdigits c (List.mem_append_left _ hc)) _ _ _ _ hwhole,
      hsome]
    calc
      readDigits negative (continued 0 whole) 0 false (false || !false) ('.' :: fraction) =
          readDigits negative (continued 0 whole) 0 true true fraction := by
        rw [readDigits_cons]
        rfl
      _ = written? negative magnitude scale := by
        rw [readDigits_fraction (fun c hc ↦ hdigits c (List.mem_append_right _ hc)) _ _ (by omega)
          (by rwa [hvalue]), hvalue, Nat.zero_add, hlength]

end Digits

theorem readPlain?_text (amount : Amount) :
    readPlain? amount.text.toList = some amount.settled := by
  have hread (negative : Bool) := readDigits_digitsText negative amount.scale_le
    amount.magnitude_lt
  rw [← written?_eq, text]
  cases amount.negative with
  | true =>
    rw [if_pos rfl, String.toList_append, ← hread true]
    simp only [String.toList_ofList]
    rfl
  | false =>
    rw [if_neg Bool.false_ne_true, String.toList_ofList, ← hread false]
    obtain ⟨c, more, hdigits⟩ := List.exists_cons_of_ne_nil
      (digitsText_ne_nil amount.magnitude amount.scale)
    have hc : c ≠ '-' ∧ c ≠ '+' := by
      have hkind := isDigit_or_point_of_mem (hdigits ▸ List.mem_cons_self)
      constructor
      · rintro rfl
        exact absurd hkind (by decide)
      · rintro rfl
        exact absurd hkind (by decide)
    rw [hdigits, readPlain?]
    · exact fun _ heq ↦ hc.1 (List.cons.inj heq).1
    · exact fun _ heq ↦ hc.2 (List.cons.inj heq).1

/-- An amount is read back from JSON with its value and its places. -/
theorem ofJson?_toJson (amount : Amount) : ofJson? amount.toJson = some amount.settled := by
  rw [toJson, ofJson?, ofTextOrScientific?, readPlain?_text]
  rfl

end FareSearch.Amount
