import FareSearch.Calendar.Date
import Mathlib.Data.Int.Order.Basic
import Mathlib.Order.SuccPred.Basic
import Mathlib.Tactic.IntervalCases

/-!
# The numbers of days

Every day but the last is followed by the day with the next number, in its month, at the beginning
of the next month or at the beginning of the next year. So the numbers of days rise along the
calendar, and no number between that of the first and that of the last day is left out.
-/

namespace FareSearch

namespace Calendar

variable {year other : ℤ} {month later day first : ℕ}

section Steps

theorem isLeapYear_iff :
    isLeapYear year = true ↔ year % 4 = 0 ∧ (year % 100 ≠ 0 ∨ year % 400 = 0) := by
  simp [isLeapYear]

theorem one_le_daysInMonth (year : ℤ) (month : ℕ) : 1 ≤ daysInMonth year month := by
  unfold daysInMonth
  split_ifs <;> decide

theorem dayNumber_succ (year : ℤ) (month day : ℕ) :
    dayNumber year month (day + 1) = dayNumber year month day + 1 := by
  simp only [dayNumber, Int.ofNat_eq_natCast]
  omega

/-- The first day of a month has the number after the last day of the month before. -/
theorem dayNumber_nextMonth (hmonth : 1 ≤ month) (hlast : month ≤ 11) :
    dayNumber year (month + 1) 1 = dayNumber year month (daysInMonth year month) + 1 := by
  -- Only February has to be told what a leap year is: January and February are counted with the
  -- year before, so that the leap day ends one.
  have hfebruary : dayNumber year 3 1 = dayNumber year 2 (daysInMonth year 2) + 1 := by
    have hlength : daysInMonth year 2 = if isLeapYear year then 29 else 28 := rfl
    rw [hlength]
    simp only [dayNumber, Int.ofNat_eq_natCast, Nat.reduceLeDiff, if_true, if_false]
    split_ifs with hleap <;> rw [isLeapYear_iff] at hleap <;> omega
  by_cases hmiddle : month = 2
  · rw [hmiddle, hfebruary]
  · simp only [dayNumber, daysInMonth, hmiddle, Int.ofNat_eq_natCast, if_false]
    interval_cases month <;> simp <;> omega

theorem dayNumber_nextYear (year : ℤ) :
    dayNumber (year + 1) 1 1 = dayNumber year 12 31 + 1 := by
  simp only [dayNumber, Nat.reduceLeDiff, if_true, if_false, Int.ofNat_eq_natCast]
  omega

end Steps

section Order

theorem dayNumber_mono (h : day ≤ first) :
    dayNumber year month day ≤ dayNumber year month first := by
  simp only [dayNumber, Int.ofNat_eq_natCast]
  omega

/-- A month ends before a later one of the year begins. -/
theorem dayNumber_lt_of_month (hmonth : 1 ≤ month) (hlater : month < later) (hyear : later ≤ 12)
    (hday : day ≤ daysInMonth year month) (hfirst : 1 ≤ first) :
    dayNumber year month day < dayNumber year later first := by
  have hnext {month : ℕ} (hmonth : 1 ≤ month) (hlast : month ≤ 11) :
      dayNumber year month (daysInMonth year month) < dayNumber year (month + 1) 1 := by
    rw [dayNumber_nextMonth hmonth hlast]
    exact Int.lt_succ _
  suffices h : dayNumber year month (daysInMonth year month) < dayNumber year later 1 from
    lt_of_le_of_lt (dayNumber_mono hday) (lt_of_lt_of_le h (dayNumber_mono hfirst))
  induction later, hlater using Nat.le_induction with
  | base => exact hnext hmonth (by omega)
  | succ later hlater ih =>
    calc
      dayNumber year month (daysInMonth year month) < dayNumber year later 1 := ih (by omega)
      _ ≤ dayNumber year later (daysInMonth year later) := dayNumber_mono (one_le_daysInMonth year later)
      _ < dayNumber year (later + 1) 1 := hnext (by omega) (by omega)

theorem firstOfYear_mono (h : year ≤ other) : dayNumber year 1 1 ≤ dayNumber other 1 1 := by
  simp only [dayNumber, Nat.reduceLeDiff, if_true]
  omega

theorem IsDay.firstOfYear_le (h : IsDay year month day) :
    dayNumber year 1 1 ≤ dayNumber year month day := by
  obtain ⟨-, -, hmonth, hlast, hday, -⟩ := h
  rcases Nat.lt_or_eq_of_le hmonth with hmonth | rfl
  · exact (dayNumber_lt_of_month (le_refl 1) hmonth hlast (show 1 ≤ 31 by decide) hday).le
  · exact dayNumber_mono hday

theorem IsDay.le_lastOfYear (h : IsDay year month day) :
    dayNumber year month day ≤ dayNumber year 12 31 := by
  obtain ⟨-, -, hmonth, hlast, -, hday⟩ := h
  rcases Nat.lt_or_eq_of_le hlast with hlast | rfl
  · exact (dayNumber_lt_of_month hmonth hlast (le_refl 12) hday (by decide)).le
  · exact dayNumber_mono hday

end Order

end Calendar

namespace Date

variable {left right : Date}

section Order

/-- The numbers of days rise along the calendar. -/
theorem number_lt_of_before (h : left.before right = true) : left.number < right.number := by
  obtain ⟨year, month, day, hleft⟩ := left
  obtain ⟨year', month', day', hright⟩ := right
  have hbefore : year < year' ∨ year = year' ∧ (month < month' ∨ month = month' ∧ day < day') := by
    simpa [before] using h
  rcases hbefore with hyear | ⟨rfl, hmonth | ⟨rfl, hday⟩⟩
  · calc
      Calendar.dayNumber year month day ≤ Calendar.dayNumber year 12 31 := hleft.le_lastOfYear
      _ < Calendar.dayNumber (year + 1) 1 1 := by
        rw [Calendar.dayNumber_nextYear]
        exact Int.lt_succ _
      _ ≤ Calendar.dayNumber year' 1 1 := Calendar.firstOfYear_mono hyear
      _ ≤ Calendar.dayNumber year' month' day' := hright.firstOfYear_le
  · exact Calendar.dayNumber_lt_of_month hleft.2.2.1 hmonth hright.2.2.2.1 hleft.2.2.2.2.2
      hright.2.2.2.2.1
  · calc
      Calendar.dayNumber year month day < Calendar.dayNumber year month (day + 1) := by
        rw [Calendar.dayNumber_succ]
        exact Int.lt_succ _
      _ ≤ Calendar.dayNumber year month day' := Calendar.dayNumber_mono hday

theorem before_trichotomy (left right : Date) :
    left.before right = true ∨ left = right ∨ right.before left = true := by
  simp only [before, Date.ext_iff, Bool.or_eq_true, Bool.and_eq_true, decide_eq_true_eq, beq_iff_eq]
  omega

theorem before_iff : left.before right = true ↔ left.number < right.number := by
  refine ⟨number_lt_of_before, fun h ↦ ?_⟩
  rcases before_trichotomy left right with hbefore | rfl | hafter
  · exact hbefore
  · exact absurd h (lt_irrefl _)
  · exact absurd (number_lt_of_before hafter) (lt_asymm h)

end Order

section Range

theorem firstNumber_le (date : Date) : firstNumber ≤ date.number :=
  (Calendar.firstOfYear_mono date.isDay.1).trans date.isDay.firstOfYear_le

theorem le_lastNumber (date : Date) : date.number ≤ lastNumber := by
  rcases Int.lt_or_eq_of_le date.isDay.2.1 with hyear | hyear
  · calc
      date.number ≤ Calendar.dayNumber date.year 12 31 := date.isDay.le_lastOfYear
      _ ≤ Calendar.dayNumber date.year 12 31 + 1 := Int.le_add_one (le_refl _)
      _ = Calendar.dayNumber (date.year + 1) 1 1 := (Calendar.dayNumber_nextYear _).symm
      _ ≤ Calendar.dayNumber 262142 1 1 := Calendar.firstOfYear_mono hyear
      _ ≤ lastNumber := by decide
  · calc
      date.number ≤ Calendar.dayNumber date.year 12 31 := date.isDay.le_lastOfYear
      _ = lastNumber := by rw [hyear]; rfl

/-- The day after a day that is not the last one. -/
theorem exists_next (date : Date) (h : date.number < lastNumber) :
    ∃ next : Date, next.number = date.number + 1 := by
  obtain ⟨year, month, day, hfirst, hlast, hmonth, hyear, hday, hlength⟩ := date
  rcases Nat.lt_or_eq_of_le hlength with hinner | rfl
  · exact ⟨⟨year, month, day + 1, hfirst, hlast, hmonth, hyear, by omega, hinner⟩,
      Calendar.dayNumber_succ year month day⟩
  · rcases Nat.lt_or_eq_of_le hyear with hinner | rfl
    · exact ⟨⟨year, month + 1, 1, hfirst, hlast, by omega, hinner, le_refl 1,
        Calendar.one_le_daysInMonth year (month + 1)⟩,
        Calendar.dayNumber_nextMonth hmonth (by omega)⟩
    · have hinner : year < 262142 := by
        refine lt_of_le_of_ne hlast ?_
        rintro rfl
        exact lt_irrefl _ h
      exact ⟨⟨year + 1, 1, 1, by omega, hinner, le_refl 1, by decide, le_refl 1,
        show 1 ≤ 31 by decide⟩, Calendar.dayNumber_nextYear year⟩

/-- The numbers of days are those from that of the first day to that of the last one. -/
theorem exists_number_eq_iff {number : ℤ} :
    (∃ date : Date, date.number = number) ↔ firstNumber ≤ number ∧ number ≤ lastNumber := by
  constructor
  · rintro ⟨date, rfl⟩
    exact ⟨date.firstNumber_le, date.le_lastNumber⟩
  · rintro ⟨hfirst, hlast⟩
    induction number, hfirst using Int.leInduction with
    | base => exact ⟨⟨-262143, 1, 1, by decide⟩, rfl⟩
    | succ number hfirst ih =>
      obtain ⟨date, rfl⟩ := ih (by omega)
      exact date.exists_next hlast

end Range

end Date

end FareSearch
