import FareSearch.Calendar.Reader
import Mathlib.Data.Int.Order.Basic
import Mathlib.Data.List.Induction
import Mathlib.Data.List.TakeWhile

/-!
# Timestamps that are read

The reader takes hours and minutes for an offset, nine places of a second, and a leap second only
as second sixty of a minute. So the texts of the timestamps that it reads tell all of them but the
fraction of the second.
-/

namespace FareSearch

/-- What timestamps are like that were read from text: the offset is one of whole minutes, and only
the last second of a minute can be a leap second. -/
structure Timestamp.IsRegular (stamp : Timestamp) : Prop where
  offset : stamp.offset % 60 = 0
  nano : stamp.time.nano < 2000000000
  leap : 1000000000 ≤ stamp.time.nano → stamp.time.second % 60 = 59

instance (stamp : Timestamp) : Decidable stamp.IsRegular :=
  decidable_of_iff (stamp.offset % 60 = 0 ∧ stamp.time.nano < 2000000000 ∧
      (1000000000 ≤ stamp.time.nano → stamp.time.second % 60 = 59))
    ⟨fun h ↦ ⟨h.1, h.2.1, h.2.2⟩, fun h ↦ ⟨h.offset, h.nano, h.leap⟩⟩

namespace Number

theorem digitValue_lt {c : Char} (h : isDigit c = true) : digitValue c < 10 := by
  simp only [isDigit, Bool.and_eq_true, decide_eq_true_eq] at h
  have hnine : c.toNat ≤ 57 := h.2
  have hzero : '0'.toNat = 48 := rfl
  rw [digitValue, hzero]
  omega

theorem ofDigits_lt {digits : List Char} (h : ∀ c ∈ digits, isDigit c = true) :
    ofDigits digits < tenPow digits.length := by
  induction digits using List.reverseRecOn with
  | nil => decide
  | append_singleton digits c ih =>
    have hdigits := ih fun d hd ↦ h d (List.mem_append_left [c] hd)
    have hlast := digitValue_lt (h c (List.mem_append_right digits (List.mem_singleton_self c)))
    calc
      ofDigits (digits ++ [c]) = ofDigits digits * 10 + digitValue c := by
        rw [ofDigits, ofDigits, List.foldl_append]
        rfl
      _ < (ofDigits digits + 1) * 10 := by omega
      _ ≤ tenPow digits.length * 10 := Nat.mul_le_mul_right 10 hdigits
      _ = tenPow (digits ++ [c]).length := by
        rw [List.length_append]
        rfl

end Number

namespace Calendar

open Number

theorem scanFraction_lt {chars rest : List Char} {nano : ℕ}
    (h : scanFraction chars = some (nano, rest)) : nano < 1000000000 := by
  unfold scanFraction at h
  split at h
  next _ fraction =>
    generalize hdigits : (fraction.take 9).takeWhile isDigit = digits at h
    simp only [Option.ite_none_left_eq_some, Option.some.injEq, Prod.mk.injEq] at h
    have hlength : digits.length ≤ 9 := by
      rw [← hdigits]
      exact le_trans (List.takeWhile_prefix _).length_le (List.length_take_le 9 fraction)
    have hvalue : ofDigits digits < tenPow digits.length := by
      apply ofDigits_lt
      intro c hc
      rw [← hdigits] at hc
      exact List.mem_takeWhile_imp hc
    calc
      nano = ofDigits digits * tenPow (9 - digits.length) := h.2.1.symm
      _ < tenPow digits.length * tenPow (9 - digits.length) :=
        Nat.mul_lt_mul_of_pos_right hvalue (Nat.pow_pos (by decide))
      _ = tenPow (digits.length + (9 - digits.length)) := (Nat.pow_add 10 _ _).symm
      _ = tenPow 9 := congrArg tenPow (Nat.add_sub_of_le hlength)
  next =>
    cases h
    decide

/-- Second sixty is kept as the one before it, with a fraction of a second or more. -/
theorem timeOf_regular (hour minute : ℕ) {second nano : ℕ} (h : nano < 1000000000) :
    (timeOf hour minute second nano).nano < 2000000000 ∧
      (1000000000 ≤ (timeOf hour minute second nano).nano →
        (timeOf hour minute second nano).second % 60 = 59) := by
  unfold timeOf
  split <;> dsimp only <;> omega

theorem scanTime_regular {chars rest : List Char} {time : TimeOfDay}
    (h : scanTime chars = some (time, rest)) :
    time.nano < 2000000000 ∧ (1000000000 ≤ time.nano → time.second % 60 = 59) := by
  simp only [scanTime, Option.bind_eq_bind, Option.bind_eq_some_iff, Prod.exists, Option.pure_def,
    Option.some.injEq, Prod.mk.injEq] at h
  obtain ⟨hour, _, -, _, -, minute, _, -, _, -, second, _, -, nano, _, hfraction, rfl, -⟩ := h
  exact timeOf_regular hour minute (scanFraction_lt hfraction)

/-- Hours and minutes are whole minutes. -/
theorem scanSignedOffset_mod {separator : List Char → Option (List Char)} {chars rest : List Char}
    {offset : ℤ} (h : scanSignedOffset separator chars = some (offset, rest)) :
    offset % 60 = 0 := by
  simp only [scanSignedOffset, Option.bind_eq_bind, Option.bind_eq_some_iff, Prod.exists,
    Option.ite_none_left_eq_some, Option.some.injEq, Prod.mk.injEq] at h
  obtain ⟨negative, _, -, hours, _, -, _, -, minutes, _, -, -, hoffset, -⟩ := h
  have hminutes : Int.ofNat (hours * 3600 + minutes * 60) =
      60 * Int.ofNat (hours * 60 + minutes) := by
    simp only [Int.ofNat_eq_natCast]
    omega
  rw [← hoffset, hminutes]
  split <;> omega

theorem scanOffset_mod {separator : List Char → Option (List Char)} {chars rest : List Char}
    {offset : ℤ} (h : scanOffset separator chars = some (offset, rest)) : offset % 60 = 0 := by
  unfold scanOffset at h
  split at h
  next => cases h; rfl
  next => cases h; rfl
  next => exact scanSignedOffset_mod h

theorem isRegular_of_timestamp? {text : String} {stamp : Timestamp}
    (h : timestamp? text = some stamp) : stamp.IsRegular := by
  simp only [timestamp?, Option.bind_eq_bind, Option.bind_eq_some_iff, Prod.exists] at h
  obtain ⟨date, _, -, _, -, time, _, htime, hrest⟩ := h
  have hkept {offset : ℤ} {rest : List Char} (hoffset : offset % 60 = 0)
      (hstamp : (if (Text.trimStart rest).isEmpty then Timestamp.ofLocal? date time offset
        else none) = some stamp) : stamp.IsRegular := by
    simp only [Option.ite_none_right_eq_some, Timestamp.ofLocal?, Option.some.injEq] at hstamp
    obtain ⟨-, -, rfl⟩ := hstamp
    exact ⟨hoffset, (scanTime_regular htime).1, (scanTime_regular htime).2⟩
  split at hrest
  next => exact hkept rfl hrest
  next =>
    obtain ⟨⟨offset, _⟩, hoffset, hstamp⟩ := Option.bind_eq_some_iff.mp hrest
    exact hkept (scanOffset_mod hoffset) hstamp

end Calendar

end FareSearch
