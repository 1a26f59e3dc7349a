import FareSearch.Calendar.Writer
import FareSearch.Proofs.Text.Cut
import Mathlib.Data.Int.Init

/-!
# What dates and times can be read from

The text of a date tells the date. The text of a timestamp to the second tells the timestamp but for
the fraction of its second and the seconds of its offset, which are not written.
-/

namespace FareSearch.Calendar

/-- The characters that numbers, dates and times of day are written with. -/
def isNumeralChar (c : Char) : Bool :=
  c.isDigit || c == '-' || c == '+' || c == '.' || c == ':'

/-- A text of numbers, dates and times of day. -/
def IsNumeral (text : String) : Prop :=
  ∀ c ∈ text.toList, isNumeralChar c = true

instance (text : String) : Decidable (IsNumeral text) :=
  List.decidableBAll (isNumeralChar · = true) text.toList

theorem IsNumeral.append {left right : String} (hleft : IsNumeral left) (hright : IsNumeral right) :
    IsNumeral (left ++ right) := by
  intro c hc
  rw [String.toList_append, List.mem_append] at hc
  exact hc.elim (hleft c) (hright c)

theorem IsNumeral.lacks {text : String} {c : Char} (h : IsNumeral text)
    (hc : isNumeralChar c = false) : c ∉ text.toList := by
  intro hmem
  rw [h c hmem] at hc
  exact absurd hc.symm Bool.false_ne_true

section Padded

variable {width width' m n : Nat}

theorem toList_padded (width n : Nat) :
    (padded width n).toList =
      List.replicate (width - (Nat.toDigits 10 n).length) '0' ++ Nat.toDigits 10 n :=
  String.toList_ofList

theorem isDigit_of_mem_padded {c : Char} (h : c ∈ (padded width n).toList) : c.isDigit = true := by
  rw [toList_padded, List.mem_append] at h
  rcases h with hzero | hdigit
  · rw [List.eq_of_mem_replicate hzero]
    rfl
  · exact Nat.isDigit_of_mem_toDigits (by decide) (by decide) hdigit

theorem isNumeral_padded (width n : Nat) : IsNumeral (padded width n) := by
  intro c hc
  rw [isNumeralChar, isDigit_of_mem_padded hc]
  rfl

theorem padded_lacks {c : Char} (hc : c.isDigit = false) : c ∉ (padded width n).toList := by
  intro hmem
  rw [isDigit_of_mem_padded hmem] at hc
  exact absurd hc.symm Bool.false_ne_true

theorem ofDigitChars_padded : Nat.ofDigitChars 10 (padded width n).toList 0 = n := by
  rw [toList_padded, Nat.ofDigitChars_append, Nat.ofDigitChars_replicate_zero, Nat.mul_zero,
    Nat.ofDigitChars_ten_toDigits]

theorem padded_inj (h : padded width m = padded width' n) : m = n :=
  calc
    m = Nat.ofDigitChars 10 (padded width m).toList 0 := ofDigitChars_padded.symm
    _ = Nat.ofDigitChars 10 (padded width' n).toList 0 := by rw [h]
    _ = n := ofDigitChars_padded

/-- A number does not begin with a sign. -/
theorem padded_ne_append {c : Char} {sign text : String} (hsign : sign.toList = [c])
    (hc : c.isDigit = false) : padded width n ≠ sign ++ text := by
  intro h
  have hmem : c ∈ (padded width n).toList := by
    rw [h, String.toList_append, hsign]
    exact List.mem_cons_self
  exact padded_lacks hc hmem

end Padded

theorem minus_append_ne (left right : String) : "-" ++ left ≠ "+" ++ right := by
  intro h
  have hhead := congrArg (·.toList.head?) h
  simp at hhead

theorem yearText_inj {y z : ℤ} (h : yearText y = yearText z) : y = z := by
  have hcases (x : ℤ) : (0 ≤ x ∧ yearText x = padded 4 x.toNat) ∨
      (x < 0 ∧ yearText x = "-" ++ padded 4 x.natAbs) ∨
      (0 ≤ x ∧ yearText x = "+" ++ padded 4 x.natAbs) := by
    unfold yearText
    by_cases hplain : 0 ≤ x ∧ x ≤ 9999
    · simp [hplain]
    · by_cases hnegative : x < 0
      · have : ¬0 ≤ x := by omega
        simp [this, hnegative]
      · have : 0 ≤ x ∧ ¬x ≤ 9999 := by omega
        simp [this, hnegative]
  rcases hcases y with ⟨hy, hytext⟩ | ⟨hy, hytext⟩ | ⟨hy, hytext⟩ <;>
    rcases hcases z with ⟨hz, hztext⟩ | ⟨hz, hztext⟩ | ⟨hz, hztext⟩ <;>
      rw [hytext, hztext] at h
  · have := padded_inj h
    omega
  · exact absurd h (padded_ne_append rfl rfl)
  · exact absurd h (padded_ne_append rfl rfl)
  · exact absurd h.symm (padded_ne_append rfl rfl)
  · have := padded_inj (String.append_right_inj _ |>.mp h)
    omega
  · exact absurd h (minus_append_ne _ _)
  · exact absurd h.symm (padded_ne_append rfl rfl)
  · exact absurd h.symm (minus_append_ne _ _)
  · have := padded_inj (String.append_right_inj _ |>.mp h)
    omega

theorem isNumeral_yearText (y : ℤ) : IsNumeral (yearText y) := by
  unfold yearText
  split
  · exact isNumeral_padded _ _
  · split
    · exact .append (by decide) (isNumeral_padded _ _)
    · exact .append (by decide) (isNumeral_padded _ _)

theorem isNumeral_dateText (date : Date) : IsNumeral (dateText date) := by
  have hdash : IsNumeral "-" := by decide
  exact (((isNumeral_yearText _).append hdash).append (isNumeral_padded _ _)).append hdash |>.append
    (isNumeral_padded _ _)

theorem isNumeral_clockText (time : TimeOfDay) : IsNumeral (clockText time) := by
  have hcolon : IsNumeral ":" := by decide
  exact (((isNumeral_padded _ _).append hcolon).append (isNumeral_padded _ _)).append hcolon
    |>.append (isNumeral_padded _ _)

theorem isNumeral_offsetText (offset : ℤ) : IsNumeral (offsetText offset) := by
  have hsign : IsNumeral (if offset < 0 then "-" else "+") := by
    split <;> decide
  have hcolon : IsNumeral ":" := by decide
  exact ((hsign.append (isNumeral_padded _ _)).append hcolon).append (isNumeral_padded _ _)

theorem secondsText_lacks {c : Char} (hc : isNumeralChar c = false) (hmark : c ≠ 'T')
    (stamp : Timestamp) : c ∉ (secondsText stamp).toList := by
  unfold secondsText
  simp only [String.toList_append, List.mem_append, not_or]
  refine ⟨⟨⟨?_, ?_⟩, ?_⟩, ?_⟩
  · exact (isNumeral_dateText stamp.date).lacks hc
  · simpa using hmark
  · exact (isNumeral_clockText stamp.time).lacks hc
  · exact (isNumeral_offsetText stamp.offset).lacks hc

theorem dateText_inj {x y : Date} (h : dateText x = dateText y) : x = y := by
  unfold dateText at h
  obtain ⟨hrest, hday⟩ := Text.cut_last (c := '-') rfl (padded_lacks rfl) (padded_lacks rfl) h
  obtain ⟨hyear, hmonth⟩ := Text.cut_last (c := '-') rfl (padded_lacks rfl) (padded_lacks rfl) hrest
  exact Date.ext (yearText_inj hyear) (padded_inj hmonth) (padded_inj hday)

theorem dateText_ne_empty (date : Date) : dateText date ≠ "" := by
  intro h
  have hlength := congrArg (·.toList.length) h
  simp [dateText] at hlength

/-- The clock text tells the numbers that it writes. -/
theorem parts_of_clockText_eq {x y : TimeOfDay} (h : clockText x = clockText y) :
    x.second / 3600 = y.second / 3600 ∧ x.second / 60 % 60 = y.second / 60 % 60 ∧
      x.second % 60 + (if x.nano < 1000000000 then 0 else 1) =
        y.second % 60 + (if y.nano < 1000000000 then 0 else 1) := by
  unfold clockText at h
  obtain ⟨hrest, hsecond⟩ := Text.cut_last (c := ':') rfl (padded_lacks rfl) (padded_lacks rfl) h
  obtain ⟨hhour, hminute⟩ :=
    Text.cut_last (c := ':') rfl (padded_lacks rfl) (padded_lacks rfl) hrest
  exact ⟨padded_inj hhour, padded_inj hminute, padded_inj hsecond⟩

/-- The clock text tells the time but for its fraction. -/
theorem clockText_inj {x y : TimeOfDay} (h : clockText x = clockText y) (hnano : x.nano = y.nano) :
    x = y := by
  obtain ⟨hhour, hminute, hsecond⟩ := parts_of_clockText_eq h
  rw [hnano] at hsecond
  exact TimeOfDay.ext (by omega) hnano

/-- The offset text tells the offset but for its seconds. -/
theorem offsetText_inj {m n : ℤ} (h : offsetText m = offsetText n) (hseconds : m % 60 = n % 60) :
    m = n := by
  unfold offsetText at h
  obtain ⟨hrest, hminute⟩ := Text.cut_last (c := ':') rfl (padded_lacks rfl) (padded_lacks rfl) h
  have hminutes := padded_inj hminute
  by_cases hm : m < 0
  · by_cases hn : n < 0
    · rw [if_pos hm, if_pos hn, String.append_right_inj] at hrest
      have hhours := padded_inj hrest
      omega
    · rw [if_pos hm, if_neg hn] at hrest
      exact absurd hrest (minus_append_ne _ _)
  · by_cases hn : n < 0
    · rw [if_neg hm, if_pos hn] at hrest
      exact absurd hrest.symm (minus_append_ne _ _)
    · rw [if_neg hm, if_neg hn, String.append_right_inj] at hrest
      have hhours := padded_inj hrest
      omega

/-- A number ends where an offset begins. -/
theorem padded_append_offsetText_inj {width i j : ℕ} {m n : ℤ}
    (h : padded width i ++ offsetText m = padded width j ++ offsetText n) :
    padded width i = padded width j ∧ offsetText m = offsetText n := by
  have hsign (k : ℤ) : ∃ c rest, (offsetText k).toList = c :: rest ∧ ¬c.isDigit = true := by
    unfold offsetText
    split
    · exact ⟨'-', _, by simp only [String.toList_append]; rfl, by decide⟩
    · exact ⟨'+', _, by simp only [String.toList_append]; rfl, by decide⟩
  obtain ⟨c, rest, hrest, hc⟩ := hsign m
  obtain ⟨c', rest', hrest', hc'⟩ := hsign n
  have hchars := congrArg String.toList h
  rw [String.toList_append, String.toList_append, hrest, hrest'] at hchars
  obtain ⟨hnumber, hchar, hoffset⟩ := Text.append_cons_inj (·.isDigit = true)
    (fun _ hx ↦ isDigit_of_mem_padded hx) (fun _ hx ↦ isDigit_of_mem_padded hx) hc hc' hchars
  exact ⟨String.toList_injective hnumber,
    String.toList_injective (by rw [hrest, hrest', hchar, hoffset])⟩

theorem clockText_append_offsetText_inj {x y : TimeOfDay} {m n : ℤ}
    (h : clockText x ++ offsetText m = clockText y ++ offsetText n) :
    clockText x = clockText y ∧ offsetText m = offsetText n := by
  unfold clockText at h ⊢
  dsimp only at h ⊢
  generalize x.second % 60 + (if x.nano < 1000000000 then 0 else 1) = xsecond at h ⊢
  generalize y.second % 60 + (if y.nano < 1000000000 then 0 else 1) = ysecond at h ⊢
  have hparts : padded 2 (x.second / 3600) ++ ":" ++
        (padded 2 (x.second / 60 % 60) ++ ":" ++ (padded 2 xsecond ++ offsetText m)) =
      padded 2 (y.second / 3600) ++ ":" ++
        (padded 2 (y.second / 60 % 60) ++ ":" ++ (padded 2 ysecond ++ offsetText n)) := by
    simpa only [String.append_assoc] using h
  obtain ⟨hhour, hrest⟩ :=
    Text.cut_first (c := ':') rfl (padded_lacks rfl) (padded_lacks rfl) hparts
  obtain ⟨hminute, hrest⟩ :=
    Text.cut_first (c := ':') rfl (padded_lacks rfl) (padded_lacks rfl) hrest
  obtain ⟨hsecond, hoffset⟩ := padded_append_offsetText_inj hrest
  rw [hhour, hminute, hsecond]
  exact ⟨rfl, hoffset⟩

/-- The text to the second tells the texts of its date, its clock and its offset. -/
theorem parts_of_secondsText_eq {x y : Timestamp} (h : secondsText x = secondsText y) :
    dateText x.date = dateText y.date ∧ clockText x.time = clockText y.time ∧
      offsetText x.offset = offsetText y.offset := by
  have hparts : dateText x.date ++ "T" ++ (clockText x.time ++ offsetText x.offset) =
      dateText y.date ++ "T" ++ (clockText y.time ++ offsetText y.offset) := by
    simpa only [secondsText, String.append_assoc] using h
  have hlacks (date : Date) : 'T' ∉ (dateText date).toList := (isNumeral_dateText date).lacks rfl
  obtain ⟨hdate, hrest⟩ := Text.cut_first (c := 'T') rfl (hlacks _) (hlacks _) hparts
  exact ⟨hdate, clockText_append_offsetText_inj hrest⟩

/-- The text to the second tells the timestamp but for what it does not write. -/
theorem secondsText_inj {x y : Timestamp} (h : secondsText x = secondsText y)
    (hnano : x.time.nano = y.time.nano) (hoffset : x.offset % 60 = y.offset % 60) : x = y := by
  obtain ⟨hdate, hclock, hzone⟩ := parts_of_secondsText_eq h
  exact Timestamp.ext (dateText_inj hdate) (clockText_inj hclock hnano)
    (offsetText_inj hzone hoffset)

/-- What a clock shows: the minute of the day and the second of the minute. A leap second is
number 60. -/
def clockReading (time : TimeOfDay) : ℕ × ℕ :=
  (time.second / 60, time.second % 60 + if time.nano < 1000000000 then 0 else 1)

theorem clockText_eq_iff {x y : TimeOfDay} :
    clockText x = clockText y ↔ clockReading x = clockReading y := by
  constructor
  · intro h
    obtain ⟨hhour, hminute, hsecond⟩ := parts_of_clockText_eq h
    exact Prod.ext (by dsimp only [clockReading]; omega) hsecond
  · intro h
    obtain ⟨hminute, hsecond⟩ := Prod.mk.inj h
    have hhour (time : TimeOfDay) : time.second / 3600 = time.second / 60 / 60 :=
      (Nat.div_div_eq_div_mul _ 60 60).symm
    simp only [clockText, hhour, hminute, hsecond]

/-- A timestamp to the second: its local date, the reading of its clock, and its offset. -/
def reading (stamp : Timestamp) : Date × (ℕ × ℕ) × ℤ :=
  (stamp.date, clockReading stamp.time, stamp.offset)

theorem secondsText_eq_of_reading_eq {x y : Timestamp} (h : reading x = reading y) :
    secondsText x = secondsText y := by
  obtain ⟨hdate, hrest⟩ := Prod.mk.inj h
  obtain ⟨hclock, hoffset⟩ := Prod.mk.inj hrest
  rw [secondsText, secondsText, hdate, clockText_eq_iff.mpr hclock, hoffset]

/-- At offsets of whole minutes the text to the second tells just the timestamp to the second. -/
theorem secondsText_eq_iff {x y : Timestamp} (hx : x.offset % 60 = 0) (hy : y.offset % 60 = 0) :
    secondsText x = secondsText y ↔ reading x = reading y := by
  refine ⟨fun h ↦ ?_, secondsText_eq_of_reading_eq⟩
  obtain ⟨hdate, hclock, hoffset⟩ := parts_of_secondsText_eq h
  rw [reading, reading, dateText_inj hdate, clockText_eq_iff.mp hclock,
    offsetText_inj hoffset (hx.trans hy.symm)]

theorem secondsText_ne_empty (stamp : Timestamp) : secondsText stamp ≠ "" := by
  intro h
  have hlength := congrArg (·.toList.length) h
  simp [secondsText] at hlength

end FareSearch.Calendar
