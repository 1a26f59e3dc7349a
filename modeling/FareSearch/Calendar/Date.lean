/-!
# Calendar dates

Days of the Gregorian calendar, in years whose number has at most six digits. A date is kept as
year, month and day; the number of its day serves to compare instants.
-/

namespace FareSearch

namespace Calendar

def isLeapYear (year : Int) : Bool :=
  year % 4 = 0 && (year % 100 ≠ 0 || year % 400 = 0)

def daysInMonth (year : Int) (month : Nat) : Nat :=
  if month = 2 then if isLeapYear year then 29 else 28
  else if month = 4 || month = 6 || month = 9 || month = 11 then 30
  else 31

/-- A day that exists, in a year that is kept. -/
def IsDay (year : Int) (month day : Nat) : Prop :=
  -262143 ≤ year ∧ year ≤ 262142 ∧ 1 ≤ month ∧ month ≤ 12 ∧ 1 ≤ day ∧ day ≤ daysInMonth year month

instance (year : Int) (month day : Nat) : Decidable (IsDay year month day) :=
  inferInstanceAs (Decidable (_ ∧ _))

/-- The number of a day, counted from the first of January 1970. Years are counted from March, so
that the leap day ends one. -/
def dayNumber (year : Int) (month day : Nat) : Int :=
  let marchYear := if month ≤ 2 then year - 1 else year
  let marchMonth : Nat := (month + 9) % 12
  365 * marchYear + marchYear / 4 - marchYear / 100 + marchYear / 400 +
    Int.ofNat ((153 * marchMonth + 2) / 5) + Int.ofNat day - 719469

end Calendar

/-- A day of the calendar. -/
@[ext]
structure Date where
  year : Int
  month : Nat
  day : Nat
  isDay : Calendar.IsDay year month day := by decide
  deriving DecidableEq

namespace Date

/-- The date of a year, month and day, if there is such a day. -/
def of? (year : Int) (month day : Nat) : Option Date :=
  if h : Calendar.IsDay year month day then some ⟨year, month, day, h⟩ else none

def number (date : Date) : Int :=
  Calendar.dayNumber date.year date.month date.day

/-- Earlier in the calendar. -/
def before (left right : Date) : Bool :=
  left.year < right.year ||
    (left.year == right.year &&
      (left.month < right.month || (left.month == right.month && left.day < right.day)))

/-- The first and the last day that is kept. -/
def firstNumber : Int :=
  Calendar.dayNumber (-262143) 1 1

def lastNumber : Int :=
  Calendar.dayNumber 262142 12 31

end Date

end FareSearch
