import FareSearch.Proofs.Calendar.Regular
import FareSearch.Proofs.Calendar.Writer
import FareSearch.Proofs.Number.Digits
import FareSearch.Proofs.Text.Lowercase

/-!
# Dates and timestamps that are read back

The text of a date is read as the date. The text of a timestamp that the calendar keeps is read as
the timestamp, with its fraction and its offset, as long as the offset is one of whole minutes. What
was read is of this kind.
-/

namespace FareSearch

/-- A timestamp that the calendar keeps: a time of day in which only the last second of a minute can
be a leap second, an offset of less than a day, and a day of universal time that is kept. -/
structure Timestamp.IsKept (stamp : Timestamp) : Prop where
  second : stamp.time.second < 86400
  nano : stamp.time.nano < 2000000000
  leap : 1000000000 ≤ stamp.time.nano → stamp.time.second % 60 = 59
  offset : stamp.offset.natAbs < 86400
  first : Date.firstNumber ≤ universalDay stamp.date stamp.time stamp.offset
  last : universalDay stamp.date stamp.time stamp.offset ≤ Date.lastNumber

namespace Calendar

open Number

section Digits

variable {digits rest : List Char} {least most : ℕ}

theorem endsDigits_take (h : EndsDigits rest) (count : ℕ) : EndsDigits (rest.take count) := by
  cases count with
  | zero => exact endsDigits_nil
  | succ count =>
    cases rest with
    | nil => exact endsDigits_nil
    | cons c rest => exact endsDigits_cons (h c rfl) _

/-- A run of digits is taken if it is as long as it may be or the text does not go on with one. -/
theorem scanDigits_append (hdigits : ∀ c ∈ digits, isDigit c = true)
    (hleast : least ≤ digits.length) (hmost : digits.length ≤ most)
    (hend : digits.length = most ∨ EndsDigits rest) :
    scanDigits least most (digits ++ rest) = some (ofDigits digits, rest) := by
  have hafter : EndsDigits (rest.take (most - digits.length)) := by
    rcases hend with hfull | hrest
    · rw [hfull, Nat.sub_self]
      exact endsDigits_nil
    · exact endsDigits_take hrest _
  have hrun : ((digits ++ rest).take most).takeWhile isDigit = digits := by
    rw [List.take_append, List.take_of_length_le hmost, takeWhile_isDigit_append hdigits hafter]
  rw [scanDigits, hrun, if_neg (Nat.not_lt.mpr hleast), List.drop_left]

theorem forall_padded_isDigit (width n : ℕ) :
    ∀ c ∈ (padded width n).toList, isDigit c = true :=
  fun _ hc ↦ isDigit_of_mem_padded hc

theorem ofDigits_padded (width n : ℕ) : ofDigits (padded width n).toList = n := by
  rw [← continued_zero, continued_eq_ofDigitChars, ofDigitChars_padded]

theorem length_padded {width n : ℕ} (hwidth : 0 < width) (h : n < 10 ^ width) :
    (padded width n).toList.length = width := by
  have hdigits := (Nat.length_toDigits_le_iff (by decide) hwidth).mpr h
  rw [toList_padded, List.length_append, List.length_replicate]
  omega

theorem isBlank_of_isDigit {c : Char} (h : isDigit c = true) : Text.isBlank c = false := by
  have hascii : c.toNat < 128 := by
    simp only [isDigit, Bool.and_eq_true, decide_eq_true_eq] at h
    have hnine : c.toNat ≤ 57 := h.2
    omega
  exact Text.ascii_forall (motive := fun c ↦ isDigit c = true → Text.isBlank c = false)
    (by decide) hascii h

/-- Two digits are taken as their number, whatever follows. -/
theorem scanDigits_two (least : ℕ) (hleast : least ≤ 2) {n : ℕ} (h : n < 100)
    (rest : List Char) :
    scanDigits least 2 ((padded 2 n).toList ++ rest) = some (n, rest) := by
  have hlength := length_padded (by decide) (show n < 10 ^ 2 from h)
  rw [scanDigits_append (forall_padded_isDigit _ _) (by omega) (by omega) (.inl hlength),
    ofDigits_padded]

theorem exists_padded_cons (width n : ℕ) :
    ∃ c more, (padded width n).toList = c :: more ∧ isDigit c = true := by
  obtain ⟨c, more, hdigits⟩ : ∃ c more, (padded width n).toList = c :: more := by
    apply List.exists_cons_of_ne_nil
    rw [toList_padded]
    exact List.append_ne_nil_of_right_ne_nil _ Nat.toDigits_ne_nil
  exact ⟨c, more, hdigits, isDigit_of_mem_padded (hdigits ▸ List.mem_cons_self)⟩

theorem trimStart_cons {c : Char} (h : Text.isBlank c = false) (rest : List Char) :
    Text.trimStart (c :: rest) = c :: rest := by
  rw [Text.trimStart, List.dropWhile_cons_of_neg (by simp [h])]

theorem trimStart_padded {width n : ℕ} (rest : List Char) :
    Text.trimStart ((padded width n).toList ++ rest) = (padded width n).toList ++ rest := by
  obtain ⟨c, more, hdigits, hc⟩ := exists_padded_cons width n
  rw [hdigits, List.cons_append, trimStart_cons (isBlank_of_isDigit hc)]

theorem scanField_padded {low high n : ℕ} (hlow : low ≤ n) (hhigh : n ≤ high) (h : high < 100)
    (rest : List Char) : scanField low high ((padded 2 n).toList ++ rest) = some (n, rest) := by
  rw [scanField, trimStart_padded, scanDigits_two 1 (by decide) (by omega)]
  simp [hlow, hhigh]

end Digits

section Dates

/-- A year has four digits, or a sign and as many as there are. -/
theorem scanYear_yearText (y : ℤ) (rest : List Char) :
    scanYear ((yearText y).toList ++ '-' :: rest) = some (y, '-' :: rest) := by
  have hsigned (n : ℕ) : scanDigits 1 ((padded 4 n).toList ++ '-' :: rest).length
      ((padded 4 n).toList ++ '-' :: rest) = some (n, '-' :: rest) := by
    obtain ⟨c, more, hdigits, -⟩ := exists_padded_cons 4 n
    rw [scanDigits_append (forall_padded_isDigit _ _) (by rw [hdigits]; simp)
      (by rw [List.length_append]; omega) (.inr (endsDigits_cons (by decide) rest)),
      ofDigits_padded]
  have hmark (sign : String) (c : Char) (hsign : sign.toList = [c]) (n : ℕ) :
      (sign ++ padded 4 n).toList ++ '-' :: rest = c :: ((padded 4 n).toList ++ '-' :: rest) := by
    rw [String.toList_append, hsign, List.append_assoc, List.singleton_append]
  unfold yearText
  split_ifs with hplain hnegative
  · rw [Bool.and_eq_true, decide_eq_true_eq, decide_eq_true_eq] at hplain
    obtain ⟨c, more, hdigits, hc⟩ := exists_padded_cons 4 y.toNat
    have hscan : scanDigits 1 4 ((padded 4 y.toNat).toList ++ '-' :: rest) =
        some (y.toNat, '-' :: rest) := by
      have hlength := length_padded (by decide) (show y.toNat < 10 ^ 4 by omega)
      rw [scanDigits_append (forall_padded_isDigit _ _) (by omega) (by omega) (.inl hlength),
        ofDigits_padded]
    have hnumber : Int.ofNat y.toNat = y := Int.toNat_of_nonneg hplain.1
    rw [scanYear, trimStart_padded]
    rw [hdigits, List.cons_append] at hscan ⊢
    split
    next heq => exact absurd (List.cons.inj heq).1 (by rintro rfl; exact absurd hc (by decide))
    next heq => exact absurd (List.cons.inj heq).1 (by rintro rfl; exact absurd hc (by decide))
    next => simp only [hscan, Option.map_some, hnumber]
  · have hnumber : -Int.ofNat y.natAbs = y := by
      simp only [Int.ofNat_eq_natCast]
      omega
    rw [hmark "-" '-' rfl, scanYear, trimStart_cons (by decide)]
    simp only [hsigned, Option.map_some, hnumber]
  · have hnumber : Int.ofNat y.natAbs = y := by
      simp only [Int.ofNat_eq_natCast]
      omega
    rw [hmark "+" '+' rfl, scanYear, trimStart_cons (by decide)]
    simp only [hsigned, Option.map_some, hnumber]

theorem scanDate_dateText (date : Date) (rest : List Char) :
    scanDate ((dateText date).toList ++ rest) = some (date, rest) := by
  obtain ⟨-, -, hmonth, hmonth', hday, hday'⟩ := date.isDay
  have hlast : date.day ≤ 31 := by
    refine le_trans hday' ?_
    unfold daysInMonth
    split_ifs <;> decide
  have htext : (dateText date).toList ++ rest =
      (yearText date.year).toList ++ '-' :: ((padded 2 date.month).toList ++
        '-' :: ((padded 2 date.day).toList ++ rest)) := by
    simp [dateText]
  have hmark (following : List Char) : scanMark '-' ('-' :: following) = some following := rfl
  have hdate : Date.of? date.year date.month date.day = some date := dif_pos date.isDay
  rw [htext, scanDate]
  simp only [scanYear_yearText, hmark, scanField_padded hmonth hmonth' (by decide),
    scanField_padded hday hlast (by decide), hdate, Option.bind_eq_bind, Option.bind_some,
    Option.pure_def]

/-- A date is read from its text. -/
theorem date?_dateText (date : Date) : date? (dateText date) = some date := by
  have hscan := scanDate_dateText date []
  rw [List.append_nil] at hscan
  rw [date?, hscan]
  rfl

end Dates

section Times

theorem scanFraction_digits {digits rest : List Char} (hdigits : ∀ c ∈ digits, isDigit c = true)
    (hsome : digits ≠ []) (hlength : digits.length ≤ 9) (hrest : EndsDigits rest) :
    scanFraction ('.' :: (digits ++ rest)) =
      some (ofDigits digits * tenPow (9 - digits.length), rest) := by
  have hrun : ((digits ++ rest).take 9).takeWhile isDigit = digits := by
    rw [List.take_append, List.take_of_length_le hlength,
      takeWhile_isDigit_append hdigits (endsDigits_take hrest _)]
  have hafter : rest.dropWhile isDigit = rest :=
    dropWhile_isDigit_append (List.forall_mem_nil _) hrest
  have hisEmpty : digits.isEmpty = false := by simpa using hsome
  simp only [scanFraction, hrun, hisEmpty, List.drop_left, hafter]
  rfl

/-- What stands where a fraction may begin, if there is none. -/
theorem scanFraction_none {c : Char} (hc : c ≠ '.') (rest : List Char) :
    scanFraction (c :: rest) = some (0, c :: rest) := by
  unfold scanFraction
  split
  next heq => exact absurd (List.cons.inj heq).1 hc
  next => rfl

theorem scanFraction_fractionText (time : TimeOfDay) {c : Char} (hdigit : isDigit c = false)
    (hc : c ≠ '.') (rest : List Char) :
    scanFraction ((fractionText time).toList ++ c :: rest) =
      some (time.nano % 1000000000, c :: rest) := by
  have hplaces (width n : ℕ) (hwidth : 0 < width) (hmost : width ≤ 9) (hn : n < 10 ^ width) :
      scanFraction (("." ++ padded width n).toList ++ c :: rest) =
        some (n * tenPow (9 - width), c :: rest) := by
    have hlength := length_padded hwidth hn
    obtain ⟨first, more, hdigits, -⟩ := exists_padded_cons width n
    have hscan := scanFraction_digits (forall_padded_isDigit width n)
      (by rw [hdigits]; exact List.cons_ne_nil _ _) (by omega) (endsDigits_cons hdigit rest)
    rw [hlength, ofDigits_padded] at hscan
    rw [String.toList_append, List.append_assoc]
    exact hscan
  unfold fractionText
  dsimp only
  have hless : time.nano % 1000000000 < 1000000000 := Nat.mod_lt _ (by decide)
  generalize time.nano % 1000000000 = nano at hless ⊢
  split_ifs with hzero hmilli hmicro
  · rw [hzero]
    exact scanFraction_none hc rest
  · rw [hplaces 3 _ (by decide) (by decide) (by omega)]
    have hexact : nano / 1000000 * tenPow (9 - 3) = nano :=
      Nat.div_mul_cancel (Nat.dvd_of_mod_eq_zero hmilli)
    rw [hexact]
  · rw [hplaces 6 _ (by decide) (by decide) (by omega)]
    have hexact : nano / 1000 * tenPow (9 - 6) = nano :=
      Nat.div_mul_cancel (Nat.dvd_of_mod_eq_zero hmicro)
    rw [hexact]
  · rw [hplaces 9 _ (by decide) (by decide) hless]
    have hexact : nano * tenPow (9 - 9) = nano := Nat.mul_one nano
    rw [hexact]

/-- A clock reading stands for a time of day if a leap second is the last of its minute. -/
theorem timeOf_reading {time : TimeOfDay} (hnano : time.nano < 2000000000)
    (hleap : 1000000000 ≤ time.nano → time.second % 60 = 59) :
    timeOf (time.second / 3600) (time.second / 60 % 60)
        (time.second % 60 + if time.nano < 1000000000 then 0 else 1) (time.nano % 1000000000) =
      time := by
  unfold timeOf
  split_ifs with hfraction hsixty hsixty
  · omega
  · exact TimeOfDay.ext (by dsimp only; omega) (by dsimp only; omega)
  · exact TimeOfDay.ext (by dsimp only; omega) (by dsimp only; omega)
  · omega

theorem scanTime_clockText {time : TimeOfDay} (hsecond : time.second < 86400)
    (hnano : time.nano < 2000000000) (hleap : 1000000000 ≤ time.nano → time.second % 60 = 59)
    {c : Char} (hdigit : isDigit c = false) (hc : c ≠ '.') (rest : List Char) :
    scanTime ((clockText time).toList ++ ((fractionText time).toList ++ c :: rest)) =
      some (time, c :: rest) := by
  have htext (following : List Char) : (clockText time).toList ++ following =
      (padded 2 (time.second / 3600)).toList ++ ':' ::
        ((padded 2 (time.second / 60 % 60)).toList ++ ':' ::
          ((padded 2 (time.second % 60 + if time.nano < 1000000000 then 0 else 1)).toList ++
            following)) := by
    simp [clockText]
  have hmark (following : List Char) : scanMark ':' (':' :: following) = some following := rfl
  have hclock : time.second % 60 + (if time.nano < 1000000000 then 0 else 1) ≤ 60 := by
    split <;> omega
  rw [htext, scanTime]
  simp only [scanField_padded (Nat.zero_le _) (show time.second / 3600 ≤ 23 by omega) (by decide),
    scanField_padded (Nat.zero_le _) (show time.second / 60 % 60 ≤ 59 by omega) (by decide),
    scanField_padded (Nat.zero_le _) hclock (by decide), hmark,
    scanFraction_fractionText time hdigit hc, timeOf_reading hnano hleap, Option.bind_eq_bind,
    Option.bind_some, Option.pure_def]

end Times

section Offsets

theorem looseSeparator_padded (n : ℕ) (rest : List Char) :
    looseSeparator (':' :: ((padded 2 n).toList ++ rest)) =
      some ((padded 2 n).toList ++ rest) := by
  obtain ⟨c, more, hdigits, hc⟩ := exists_padded_cons 2 n
  have hcolon : c ≠ ':' := by
    rintro rfl
    exact absurd hc (by decide)
  rw [hdigits, looseSeparator, List.dropWhile_cons_of_pos (by rfl), List.cons_append,
    List.dropWhile_cons_of_neg (by simp [hcolon, isBlank_of_isDigit hc])]

/-- A signed offset of whole minutes below a day. -/
theorem scanSignedOffset_offsetText {offset : ℤ} (hminutes : offset % 60 = 0)
    (hday : offset.natAbs < 86400) :
    scanSignedOffset looseSeparator (offsetText offset).toList = some (offset, []) := by
  have hround : (offset.natAbs + 30) / 60 = offset.natAbs / 60 := by omega
  have hhours : offset.natAbs / 60 / 60 ≤ 23 := by omega
  have hless : offset.natAbs / 60 % 60 ≤ 59 := by omega
  have hbounds : (decide (offset.natAbs / 60 % 60 > 59) || decide (offset.natAbs / 60 / 60 > 23)) =
      false := by
    simp only [Bool.or_eq_false_iff, decide_eq_false_iff_not]
    omega
  have hscan (sign : Char) (negative : Bool)
      (hsign : ∀ following, scanSign (sign :: following) = some (negative, following)) :
      scanSignedOffset looseSeparator (sign :: ((padded 2 (offset.natAbs / 60 / 60)).toList ++
          ':' :: ((padded 2 (offset.natAbs / 60 % 60)).toList ++ []))) =
        some (if negative then -(offset.natAbs : ℤ) else offset.natAbs, []) := by
    have hseconds : offset.natAbs / 60 / 60 * 3600 + offset.natAbs / 60 % 60 * 60 =
        offset.natAbs := by omega
    rw [scanSignedOffset]
    simp only [hsign, scanPair, scanDigits_two 2 (le_refl 2)
        (show offset.natAbs / 60 / 60 < 100 by omega),
      scanDigits_two 2 (le_refl 2) (show offset.natAbs / 60 % 60 < 100 by omega),
      looseSeparator_padded, Option.bind_eq_bind, Option.bind_some, hbounds, hseconds]
    rfl
  rw [offsetText, hround]
  split
  next hnegative =>
    have hvalue : -(offset.natAbs : ℤ) = offset := by omega
    have hback := hscan '-' true fun _ ↦ rfl
    rw [if_pos rfl, hvalue, List.append_nil] at hback
    simpa [String.toList_append] using hback
  next hpositive =>
    have hvalue : (offset.natAbs : ℤ) = offset := by omega
    have hback := hscan '+' false fun _ ↦ rfl
    rw [if_neg Bool.false_ne_true, hvalue, List.append_nil] at hback
    simpa [String.toList_append] using hback

/-- How a timestamp ends: with the letter of universal time or with an offset. -/
def zoneText (offset : ℤ) : String :=
  if offset = 0 then "Z" else offsetText offset

/-- The zone begins with a mark that ends a number, and is read as the offset. -/
theorem scanOffset_zoneText {offset : ℤ} (hminutes : offset % 60 = 0)
    (hday : offset.natAbs < 86400) :
    ∃ c more, (zoneText offset).toList = c :: more ∧ isDigit c = false ∧ c ≠ '.' ∧
      Text.isBlank c = false ∧ scanUniversal (c :: more) = none ∧
      scanOffset looseSeparator (c :: more) = some (offset, []) := by
  unfold zoneText
  split
  next hzero =>
    rw [hzero]
    exact ⟨'Z', [], rfl, by decide, by decide, by decide, rfl, rfl⟩
  next hzero =>
    have hscan := scanSignedOffset_offsetText hminutes hday
    obtain ⟨c, more, htext, hsign⟩ : ∃ c more, (offsetText offset).toList = c :: more ∧
        (c = '-' ∨ c = '+') := by
      unfold offsetText
      dsimp only
      split
      · exact ⟨'-', _, by simp only [String.toList_append]; rfl, .inl rfl⟩
      · exact ⟨'+', _, by simp only [String.toList_append]; rfl, .inr rfl⟩
    rw [htext] at hscan
    have huniversal : scanUniversal (c :: more) = none := by
      unfold scanUniversal
      split
      next heq =>
        obtain ⟨rfl, -⟩ := List.cons.inj heq
        rcases hsign with rfl | rfl <;> rfl
      next => rfl
    refine ⟨c, more, htext, ?_⟩
    rcases hsign with rfl | rfl
    · exact ⟨by decide, by decide, by decide, huniversal, hscan⟩
    · exact ⟨by decide, by decide, by decide, huniversal, hscan⟩

end Offsets

/-- A timestamp at an offset of whole minutes is read from its text. -/
theorem timestamp?_timestampText {stamp : Timestamp} (hkept : stamp.IsKept)
    (hminutes : stamp.offset % 60 = 0) : timestamp? (timestampText stamp) = some stamp := by
  obtain ⟨c, more, hzone, hdigit, hpoint, hblank, huniversal, hoffset⟩ :=
    scanOffset_zoneText hminutes hkept.offset
  have htext : (timestampText stamp).toList =
      (dateText stamp.date).toList ++ 'T' :: ((clockText stamp.time).toList ++
        ((fractionText stamp.time).toList ++ c :: more)) := by
    rw [← hzone]
    simp [timestampText, zoneText]
  have hmark (following : List Char) : scanDayTimeMark ('T' :: following) = some following := rfl
  have hlocal : Timestamp.ofLocal? stamp.date stamp.time stamp.offset = some stamp := by
    simp only [Timestamp.ofLocal?, Bool.and_eq_true, decide_eq_true_eq]
    exact if_pos ⟨hkept.first, hkept.last⟩
  rw [timestamp?, htext]
  simp only [scanDate_dateText, hmark,
    scanTime_clockText hkept.second hkept.nano hkept.leap hdigit hpoint, trimStart_cons hblank,
    huniversal, hoffset, Option.bind_eq_bind, Option.bind_some, hlocal]
  rfl

section Bounds

theorem scanField_le {low high value : ℕ} {chars rest : List Char}
    (h : scanField low high chars = some (value, rest)) : value ≤ high := by
  simp only [scanField, Option.bind_eq_bind, Option.bind_eq_some_iff, Prod.exists,
    Option.ite_none_right_eq_some, Bool.and_eq_true, decide_eq_true_eq, Option.some.injEq,
    Prod.mk.injEq] at h
  obtain ⟨_, _, -, ⟨-, hhigh⟩, rfl, -⟩ := h
  exact hhigh

theorem scanTime_second_lt {chars rest : List Char} {time : TimeOfDay}
    (h : scanTime chars = some (time, rest)) : time.second < 86400 := by
  simp only [scanTime, Option.bind_eq_bind, Option.bind_eq_some_iff, Prod.exists, Option.pure_def,
    Option.some.injEq, Prod.mk.injEq] at h
  obtain ⟨hour, _, hhour, _, -, minute, _, hminute, _, -, second, _, hsecond, nano, _, -, rfl, -⟩ :=
    h
  have hhour' := scanField_le hhour
  have hminute' := scanField_le hminute
  have hsecond' := scanField_le hsecond
  unfold timeOf
  split <;> dsimp only <;> omega

theorem scanSignedOffset_lt {separator : List Char → Option (List Char)} {chars rest : List Char}
    {offset : ℤ} (h : scanSignedOffset separator chars = some (offset, rest)) :
    offset.natAbs < 86400 := by
  simp only [scanSignedOffset, Option.bind_eq_bind, Option.bind_eq_some_iff, Prod.exists,
    Option.ite_none_left_eq_some, Option.some.injEq, Prod.mk.injEq, Bool.or_eq_true,
    decide_eq_true_eq] at h
  obtain ⟨negative, _, -, hours, _, -, _, -, minutes, _, -, hbounds, rfl, -⟩ := h
  split <;> simp only [Int.ofNat_eq_natCast] <;> omega

theorem scanOffset_lt {separator : List Char → Option (List Char)} {chars rest : List Char}
    {offset : ℤ} (h : scanOffset separator chars = some (offset, rest)) :
    offset.natAbs < 86400 := by
  unfold scanOffset at h
  split at h
  next => cases h; decide
  next => cases h; decide
  next => exact scanSignedOffset_lt h

theorem isKept_of_timestamp? {text : String} {stamp : Timestamp}
    (h : timestamp? text = some stamp) : stamp.IsKept := by
  have hregular := isRegular_of_timestamp? h
  simp only [timestamp?, Option.bind_eq_bind, Option.bind_eq_some_iff, Prod.exists] at h
  obtain ⟨date, _, -, _, -, time, _, htime, hrest⟩ := h
  have hkept {offset : ℤ} {rest : List Char} (hoffset : offset.natAbs < 86400)
      (hstamp : (if (Text.trimStart rest).isEmpty then Timestamp.ofLocal? date time offset
        else none) = some stamp) : stamp.IsKept := by
    simp only [Option.ite_none_right_eq_some, Timestamp.ofLocal?, Bool.and_eq_true,
      decide_eq_true_eq, Option.some.injEq] at hstamp
    obtain ⟨-, ⟨hfirst, hlast⟩, rfl⟩ := hstamp
    exact ⟨scanTime_second_lt htime, hregular.nano, hregular.leap, hoffset, hfirst, hlast⟩
  split at hrest
  next => exact hkept (show (0 : ℤ).natAbs < 86400 by decide) hrest
  next =>
    obtain ⟨⟨offset, _⟩, hoffset, hstamp⟩ := Option.bind_eq_some_iff.mp hrest
    exact hkept (scanOffset_lt hoffset) hstamp

end Bounds

end Calendar

end FareSearch
