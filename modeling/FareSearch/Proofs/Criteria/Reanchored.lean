import FareSearch.Proofs.Calendar.Moved
import FareSearch.Proofs.Criteria.FilterKey

/-!
# Filters moved to another date

Moving filters to a date moves each time window that is given, by itself, and touches nothing else.
The last of several moves counts, and filters whose windows are on the date already stay as they
are. Anchoring a time of day on a date and moving it is anchoring it on the other date.
-/

namespace FareSearch

namespace FilterSet

variable {filters : FilterSet} {date later : Date}

/-- Each time window that is given falls on a day that is kept when it is moved to the date. -/
def FitsOn (filters : FilterSet) (date : Date) : Prop :=
  ∀ window ∈ filters.windows, ∀ stamp ∈ window, stamp.FitsOn date

instance (filters : FilterSet) (date : Date) : Decidable (filters.FitsOn date) :=
  List.decidableBAll (fun window : Option Timestamp ↦ ∀ stamp ∈ window, stamp.FitsOn date) _

/-- What the filters say of prices, stops, durations and airlines. -/
def withoutWindows (filters : FilterSet) : FilterSet :=
  { filters with departAfter := none, departBefore := none, arriveAfter := none, arriveBefore := none }

theorem windows_reanchoredOn (filters : FilterSet) (date : Date) :
    (filters.reanchoredOn date).windows = filters.windows.map (·.map (·.movedTo date)) :=
  rfl

theorem eq_of_windows_eq {left right : FilterSet} (hwindows : left.windows = right.windows)
    (hothers : left.withoutWindows = right.withoutWindows) : left = right := by
  simp only [windows, List.cons.injEq, and_true] at hwindows
  simp only [withoutWindows, mk.injEq, and_true] at hothers
  cases left
  cases right
  simp_all

/-- Filters of which each window stays where it is. -/
theorem reanchoredOn_eq_self
    (h : ∀ window ∈ filters.windows, ∀ stamp ∈ window, stamp.movedTo date = stamp) :
    filters.reanchoredOn date = filters := by
  refine eq_of_windows_eq ?_ rfl
  have hwindow : ∀ window ∈ filters.windows, window.map (·.movedTo date) = id window :=
    fun window hwindow ↦ (Option.map_congr (h window hwindow)).trans Option.map_id'
  rw [windows_reanchoredOn, List.map_congr_left hwindow, List.map_id]

/-- The last move counts. -/
theorem reanchoredOn_reanchoredOn (h : filters.FitsOn later) :
    (filters.reanchoredOn date).reanchoredOn later = filters.reanchoredOn later := by
  refine eq_of_windows_eq ?_ rfl
  simp only [windows_reanchoredOn, List.map_map, Function.comp_def, Option.map_map]
  apply List.map_congr_left
  intro window hwindow
  exact Option.map_congr fun stamp hstamp ↦ Timestamp.movedTo_movedTo (h window hwindow stamp hstamp)

theorem anchorTimeOfDay_eq_ok_iff {text : String} {offset : ℤ} {stamp : Timestamp} :
    anchorTimeOfDay date text offset = .ok stamp ↔
      ∃ time, Calendar.timeOfDay? (Text.trim text) = some time ∧
        Timestamp.ofLocal? date time offset = some stamp := by
  rw [← Option.bind_eq_some_iff]
  unfold anchorTimeOfDay
  split
  next found hfound => rw [hfound, Except.ok.injEq, Option.some.injEq]
  next hnone => simp [hnone]

/-- A time of day anchored on one date and moved to another is anchored on the other. -/
theorem anchorTimeOfDay_movedTo {text : String} {offset : ℤ} {stamp : Timestamp}
    (h : anchorTimeOfDay date text offset = .ok stamp) (hfits : stamp.FitsOn later) :
    anchorTimeOfDay later text offset = .ok (stamp.movedTo later) := by
  obtain ⟨time, htime, hlocal⟩ := anchorTimeOfDay_eq_ok_iff.mp h
  obtain ⟨-, hstamp⟩ := Option.ite_none_right_eq_some.mp hlocal
  cases hstamp
  have hmoved := Timestamp.ofLocal?_of_fitsOn hfits
  rw [anchorTimeOfDay_eq_ok_iff, Timestamp.movedTo_of_fitsOn hfits]
  exact ⟨time, htime, hmoved⟩

/-- Moved to a date, each window that fits there has the date, its time of day and its offset, any
other window stays, and so do absent windows and all other bounds. The last move counts, windows that
are on the date stay, and what is anchored as a time of day moves to where it would be anchored. -/
theorem reanchoredOn_sameTimeOn (filters : FilterSet) (date : Date) :
    List.Forall₂ (Option.Rel fun stamp moved ↦
        (stamp.FitsOn date → stamp.SameTimeOn date moved) ∧ (¬stamp.FitsOn date → moved = stamp))
      filters.windows (filters.reanchoredOn date).windows ∧
    ((filters.reanchoredOn date).withoutWindows = filters.withoutWindows ∧
      (filters.reanchoredOn date).validate = filters.validate ∧
      (filters.reanchoredOn date).normalizedAirlines = filters.normalizedAirlines) ∧
    (∀ later, filters.FitsOn later →
      (filters.reanchoredOn date).reanchoredOn later = filters.reanchoredOn later) ∧
    ((∀ window ∈ filters.windows, ∀ stamp ∈ window, stamp.date = date) →
      filters.reanchoredOn date = filters) ∧
    ∀ text offset stamp, anchorTimeOfDay date text offset = .ok stamp →
      ∀ later, stamp.FitsOn later →
        anchorTimeOfDay later text offset = .ok (stamp.movedTo later) := by
  refine ⟨?windows, ⟨rfl, rfl, rfl⟩, ?last, ?still, ?anchored⟩
  case windows =>
    rw [windows_reanchoredOn, List.forall₂_map_right_iff]
    apply List.forall₂_same.mpr
    intro window _
    cases window with
    | none => exact .none
    | some stamp =>
      exact .some ⟨Timestamp.sameTimeOn_movedTo, Timestamp.movedTo_of_not_fitsOn⟩
  case last => exact fun _ ↦ reanchoredOn_reanchoredOn
  case still =>
    intro hdate
    apply reanchoredOn_eq_self
    intro window hwindow stamp hstamp
    rw [← hdate window hwindow stamp hstamp, Timestamp.movedTo_date]
  case anchored => exact fun _ _ _ h _ ↦ anchorTimeOfDay_movedTo h

/-- No departure before a quarter past six seven hours east, when the day before is not yet over in
universal time, and no arrival after half past eleven at night five hours west, the day after. -/
def earlyToLate (date : Date) : FilterSet where
  departAfter := some ⟨date, ⟨22500, 500000000⟩, 25200⟩
  arriveBefore := some ⟨date, ⟨84600, 0⟩, -18000⟩

theorem reanchoredOn_sameTimeOn_leapDay :
    let leapDay : Date := { year := 2024, month := 2, day := 29 }
    let newYear : Date := { year := 2025, month := 1, day := 1 }
    ((earlyToLate leapDay).FitsOn newYear ∧
      ((earlyToLate leapDay).reanchoredOn leapDay).reanchoredOn newYear =
        (earlyToLate leapDay).reanchoredOn newYear) ∧
    (earlyToLate leapDay).reanchoredOn leapDay = earlyToLate leapDay ∧
    anchorTimeOfDay newYear "6:15" 25200 =
      .ok (Timestamp.movedTo ⟨leapDay, ⟨22500, 0⟩, 25200⟩ newYear) := by
  intro leapDay newYear
  obtain ⟨-, -, hlast, hstill, hanchored⟩ := reanchoredOn_sameTimeOn (earlyToLate leapDay) leapDay
  have hfits : (earlyToLate leapDay).FitsOn newYear := by decide +kernel
  refine ⟨⟨hfits, hlast newYear hfits⟩, hstill ?_, ?_⟩
  · simp [windows, earlyToLate]
  · exact hanchored "6:15" 25200 _ (by decide +kernel) newYear (by decide +kernel)

end FilterSet

end FareSearch
