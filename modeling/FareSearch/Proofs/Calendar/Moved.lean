import FareSearch.Proofs.Calendar.DayNumber
import FareSearch.Proofs.Calendar.Instant

/-!
# Timestamps moved to another date

The instant of a timestamp and its offset tell the day and the time of day that a clock shows.
Moving a timestamp to a date keeps what the clock shows but for the date, if the instant falls on a
day that is kept; otherwise nothing is changed. So the last of several moves counts. Two timestamps
that are moved together keep their order just if they lie as many days apart as their dates do.
-/

namespace FareSearch.Timestamp

variable {stamp other after before : Timestamp} {date later : Date}

section Clock

/-- What a clock at the offset shows at the instant: the number of the day, the second of the day
and the fraction of the second. -/
def clock (stamp : Timestamp) : ℤ × ℤ × ℕ :=
  ((stamp.unixSeconds + stamp.offset) / 86400, (stamp.unixSeconds + stamp.offset) % 86400,
    stamp.time.nano)

theorem clock_eq (h : stamp.time.second < 86400) :
    stamp.clock = (stamp.date.number, (stamp.time.second : ℤ), stamp.time.nano) := by
  simp only [clock, unixSeconds, Prod.mk.injEq, and_true]
  omega

end Clock

section Moving

/-- Moved to the date, the timestamp falls on a day of universal time that is kept. -/
def FitsOn (stamp : Timestamp) (date : Date) : Prop :=
  ∃ day : Date, day.number = universalDay date stamp.time stamp.offset

theorem fitsOn_iff : stamp.FitsOn date ↔
    Date.firstNumber ≤ universalDay date stamp.time stamp.offset ∧
      universalDay date stamp.time stamp.offset ≤ Date.lastNumber :=
  Date.exists_number_eq_iff

instance (stamp : Timestamp) (date : Date) : Decidable (stamp.FitsOn date) :=
  decidable_of_iff _ fitsOn_iff.symm

theorem ofLocal?_of_fitsOn (h : stamp.FitsOn date) :
    ofLocal? date stamp.time stamp.offset = some { stamp with date } := by
  simp only [ofLocal?, Bool.and_eq_true, decide_eq_true_eq]
  exact if_pos (fitsOn_iff.mp h)

theorem ofLocal?_of_not_fitsOn (h : ¬stamp.FitsOn date) :
    ofLocal? date stamp.time stamp.offset = none := by
  simp only [ofLocal?, Bool.and_eq_true, decide_eq_true_eq]
  exact if_neg fun hbounds ↦ h (fitsOn_iff.mpr hbounds)

theorem movedTo_of_fitsOn (h : stamp.FitsOn date) : stamp.movedTo date = { stamp with date } := by
  rw [movedTo, ofLocal?_of_fitsOn h, Option.getD_some]

theorem movedTo_of_not_fitsOn (h : ¬stamp.FitsOn date) : stamp.movedTo date = stamp := by
  rw [movedTo, ofLocal?_of_not_fitsOn h, Option.getD_none]

theorem movedTo_date (stamp : Timestamp) : stamp.movedTo stamp.date = stamp := by
  by_cases h : stamp.FitsOn stamp.date
  · rw [movedTo_of_fitsOn h]
  · rw [movedTo_of_not_fitsOn h]

/-- The last move counts. -/
theorem movedTo_movedTo (h : stamp.FitsOn later) :
    (stamp.movedTo date).movedTo later = stamp.movedTo later := by
  by_cases hdate : stamp.FitsOn date
  · have hmoved : FitsOn { stamp with date } later := h
    rw [movedTo_of_fitsOn hdate, movedTo_of_fitsOn hmoved, movedTo_of_fitsOn h]
  · rw [movedTo_of_not_fitsOn hdate]

/-- A timestamp and what it is on a date: the date is given, time of day and offset are kept. A clock
shows as much at the two instants. -/
structure SameTimeOn (date : Date) (stamp moved : Timestamp) : Prop where
  day : moved.date = date
  time : moved.time = stamp.time
  offset : moved.offset = stamp.offset
  clock : stamp.time.second < 86400 → moved.clock = (date.number, stamp.clock.2)

theorem sameTimeOn_movedTo (h : stamp.FitsOn date) : SameTimeOn date stamp (stamp.movedTo date) := by
  rw [movedTo_of_fitsOn h]
  refine ⟨rfl, rfl, rfl, fun hsecond ↦ ?_⟩
  have hmoved : ({ stamp with date } : Timestamp).clock =
      (date.number, (stamp.time.second : ℤ), stamp.time.nano) := clock_eq hsecond
  rw [hmoved, clock_eq hsecond]

end Moving

section Order

/-- As many days after the first timestamp as the dates of the two are apart, the second one is not
yet over. -/
def SpansDays (after before : Timestamp) : Prop :=
  toLex (after.unixSeconds + 86400 * (before.date.number - after.date.number), after.time.nano) ≤
    before.instant

instance (after before : Timestamp) : Decidable (after.SpansDays before) :=
  inferInstanceAs (Decidable (toLex _ ≤ toLex _))

/-- Moved to one date, two timestamps are in order just if they lie as far apart as their dates. -/
theorem movedTo_le_movedTo_iff (hafter : after.FitsOn date) (hbefore : before.FitsOn date) :
    (after.movedTo date).le (before.movedTo date) = true ↔ after.SpansDays before := by
  rw [le_iff, movedTo_of_fitsOn hafter, movedTo_of_fitsOn hbefore, SpansDays]
  simp only [instant, unixSeconds, Prod.Lex.toLex_le_toLex]
  omega

/-- Two timestamps in order whose dates are not in order, or are the same. -/
theorem SpansDays.of_le (h : after.le before = true)
    (hdate : before.date.number ≤ after.date.number) : after.SpansDays before := by
  rw [le_iff, instant, instant, Prod.Lex.toLex_le_toLex] at h
  simp only [SpansDays, instant, Prod.Lex.toLex_le_toLex]
  omega

end Order

end FareSearch.Timestamp
