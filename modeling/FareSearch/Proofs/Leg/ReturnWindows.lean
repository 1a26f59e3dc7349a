import FareSearch.Proofs.Criteria.Reanchored
import FareSearch.Proofs.Leg.Offers

/-!
# Time windows on the way back

The two bounds of a window are moved to the return date each by itself. So a window stays one just if
it lasts as many days as the dates of its bounds are apart: always if they are of one date, but not
from late in the evening to early in the morning. The filters of the way back admit some departure
and some arrival just if both windows have stayed windows.
-/

namespace FareSearch

/-- What lies between two instants; an absent bound does not constrain. -/
structure TimeWindow where
  after : Option Timestamp
  before : Option Timestamp

namespace TimeWindow

variable {window : TimeWindow} {date : Date}

/-- Whether a test holds of the bounds, if both are given. -/
def Bounds (window : TimeWindow) (test : Timestamp → Timestamp → Prop) : Prop :=
  ∀ earliest ∈ window.after, ∀ latest ∈ window.before, test earliest latest

theorem Bounds.imp {test other : Timestamp → Timestamp → Prop} (h : window.Bounds test)
    (himp : ∀ earliest latest, test earliest latest → other earliest latest) :
    window.Bounds other :=
  fun earliest hearliest latest hlatest ↦
    himp earliest latest (h earliest hearliest latest hlatest)

/-- The first bound is not after the second one. -/
def IsOrdered (window : TimeWindow) : Prop :=
  window.Bounds fun earliest latest ↦ earliest.le latest = true

/-- Both bounds fall on a day that is kept when they are moved to the date, or neither does. -/
def FitsTogetherOn (window : TimeWindow) (date : Date) : Prop :=
  window.Bounds fun earliest latest ↦ (earliest.FitsOn date ↔ latest.FitsOn date)

/-- The window lasts as many days as the dates of its bounds are apart. -/
def SpansDays (window : TimeWindow) : Prop :=
  window.Bounds Timestamp.SpansDays

/-- The date of the second bound is not after that of the first one. -/
def OnOneDay (window : TimeWindow) : Prop :=
  window.Bounds fun earliest latest ↦ latest.date.number ≤ earliest.date.number

def movedTo (window : TimeWindow) (date : Date) : TimeWindow where
  after := window.after.map (·.movedTo date)
  before := window.before.map (·.movedTo date)

/-- An instant lies in the window. -/
def admits (window : TimeWindow) (stamp : Timestamp) : Bool :=
  window.after.all (fun bound ↦ bound.le stamp) && window.before.all (fun bound ↦ stamp.le bound)

/-- A window is in order just if an instant lies in it. -/
theorem isOrdered_iff_exists_admits :
    window.IsOrdered ↔ ∃ stamp, window.admits stamp = true := by
  have hself (stamp : Timestamp) : stamp.le stamp = true := Timestamp.le_iff.mpr (le_refl _)
  obtain ⟨after, before⟩ := window
  constructor
  · intro h
    cases after with
    | some earliest =>
      refine ⟨earliest, ?_⟩
      cases before with
      | some latest => simp [admits, hself, h earliest rfl latest rfl]
      | none => simp [admits, hself]
    | none =>
      cases before with
      | some latest => exact ⟨latest, by simp [admits, hself]⟩
      | none => exact ⟨⟨⟨1970, 1, 1, by decide⟩, ⟨0, 0⟩, 0⟩, rfl⟩
  · rintro ⟨stamp, hstamp⟩ earliest hearliest latest hlatest
    cases hearliest
    cases hlatest
    simp only [admits, Option.all_some, Bool.and_eq_true] at hstamp
    rw [Timestamp.le_iff, Timestamp.le_iff] at hstamp
    exact Timestamp.le_iff.mpr (hstamp.1.trans hstamp.2)

theorem isOrdered_movedTo : (window.movedTo date).IsOrdered ↔
    window.Bounds fun earliest latest ↦ (earliest.movedTo date).le (latest.movedTo date) = true := by
  obtain ⟨after, before⟩ := window
  cases after <;> cases before <;> simp [movedTo, IsOrdered, Bounds]

/-- A window in order that is moved to a date stays in order just if it lasts as many days as the
dates of its bounds are apart, or cannot be moved. -/
theorem isOrdered_movedTo_iff (h : window.IsOrdered) (hfits : window.FitsTogetherOn date) :
    (window.movedTo date).IsOrdered ↔
      window.Bounds fun earliest latest ↦ earliest.FitsOn date → earliest.SpansDays latest := by
  rw [isOrdered_movedTo]
  refine forall₄_congr fun earliest hearliest latest hlatest ↦ ?_
  have htogether : earliest.FitsOn date ↔ latest.FitsOn date :=
    hfits earliest hearliest latest hlatest
  dsimp only
  by_cases hearly : earliest.FitsOn date
  · rw [Timestamp.movedTo_le_movedTo_iff hearly (htogether.mp hearly), forall_prop_of_true hearly]
  · rw [Timestamp.movedTo_of_not_fitsOn hearly,
      Timestamp.movedTo_of_not_fitsOn fun hlate ↦ hearly (htogether.mpr hlate)]
    exact iff_of_true (h earliest hearliest latest hlatest) fun hfit ↦ absurd hfit hearly

theorem IsOrdered.spansDays (h : window.IsOrdered) (hday : window.OnOneDay) : window.SpansDays :=
  fun earliest hearliest latest hlatest ↦
    .of_le (h earliest hearliest latest hlatest) (hday earliest hearliest latest hlatest)

end TimeWindow

namespace FilterSet

def departures (filters : FilterSet) : TimeWindow :=
  ⟨filters.departAfter, filters.departBefore⟩

def arrivals (filters : FilterSet) : TimeWindow :=
  ⟨filters.arriveAfter, filters.arriveBefore⟩

theorem acceptsTimes_some (filters : FilterSet) (leaves arrives : Timestamp) :
    filters.acceptsTimes (some leaves) (some arrives) =
      (filters.departures.admits leaves && filters.arrivals.admits arrives) := by
  simp only [acceptsTimes, TimeWindow.admits, departures, arrivals, Bool.and_assoc]

/-- Some times are accepted just if both windows are in order. -/
theorem exists_acceptsTimes_iff (filters : FilterSet) :
    (∃ leaves arrives, filters.acceptsTimes (some leaves) (some arrives) = true) ↔
      filters.departures.IsOrdered ∧ filters.arrivals.IsOrdered := by
  simp only [acceptsTimes_some, Bool.and_eq_true, exists_and_left, exists_and_right,
    TimeWindow.isOrdered_iff_exists_admits]

/-- A window out of order refuses every flight. -/
theorem accepts_eq_false {filters : FilterSet}
    (h : ¬(filters.departures.IsOrdered ∧ filters.arrivals.IsOrdered)) (flight : Flight) :
    filters.accepts flight = false := by
  rw [← exists_acceptsTimes_iff] at h
  have htimes : filters.acceptsTimes flight.departsAt flight.arrivesAt = false := by
    rw [Bool.eq_false_iff]
    intro haccepted
    cases hleaves : flight.departsAt with
    | none => simp [hleaves, acceptsTimes] at haccepted
    | some leaves =>
      cases harrives : flight.arrivesAt with
      | none => simp [harrives, acceptsTimes] at haccepted
      | some arrives => exact h ⟨leaves, arrives, by rwa [hleaves, harrives] at haccepted⟩
  rw [accepts, htimes, Bool.and_false]

/-- On a date on which both bounds of a window in order can be kept, or neither can, the window stays
in order just if it stays where it is or lasts as many days as the dates of its bounds are apart; so
it does if they are of one date. On the way back some times are accepted just if both windows are in
order. -/
theorem reanchoredOn_isOrdered_iff (filters : FilterSet) (date : Date) :
    (∀ window ∈ [filters.departures, filters.arrivals],
      window.IsOrdered → window.FitsTogetherOn date →
        ((window.movedTo date).IsOrdered ↔
          window.Bounds fun earliest latest ↦ earliest.FitsOn date → earliest.SpansDays latest) ∧
        (window.OnOneDay → (window.movedTo date).IsOrdered)) ∧
    (filters.reanchoredOn date).departures = filters.departures.movedTo date ∧
    (filters.reanchoredOn date).arrivals = filters.arrivals.movedTo date ∧
    ((∃ leaves arrives,
      (filters.reanchoredOn date).acceptsTimes (some leaves) (some arrives) = true) ↔
        (filters.reanchoredOn date).departures.IsOrdered ∧
          (filters.reanchoredOn date).arrivals.IsOrdered) := by
  refine ⟨?_, rfl, rfl, (filters.reanchoredOn date).exists_acceptsTimes_iff⟩
  intro window _ hordered hfits
  have hiff := TimeWindow.isOrdered_movedTo_iff hordered hfits
  exact ⟨hiff, fun hday ↦ hiff.mpr ((hordered.spansDays hday).imp fun _ _ hspans _ ↦ hspans)⟩

/-- A departure between two times of day on the given dates, seven hours east. -/
def leavingBetween (first last : Date) (earliest latest : ℕ) : FilterSet where
  departAfter := some ⟨first, ⟨earliest, 0⟩, 25200⟩
  departBefore := some ⟨last, ⟨latest, 0⟩, 25200⟩

/-- The day after the day of travel, and the day of the way back. -/
def nextDay : Date :=
  { travelDay with day := 16, isDay := by decide }

def returnDay : Date :=
  { travelDay with day := 18, isDay := by decide }

theorem reanchoredOn_isOrdered_iff_morning :
    let morning := leavingBetween travelDay travelDay 21600 43200
    morning.departures.IsOrdered ∧ morning.departures.FitsTogetherOn returnDay ∧
      morning.departures.OnOneDay ∧ (morning.departures.movedTo returnDay).IsOrdered := by
  intro morning
  have hordered : morning.departures.IsOrdered := by
    rintro _ ⟨⟩ _ ⟨⟩
    decide
  have hfits : morning.departures.FitsTogetherOn returnDay := by
    rintro _ ⟨⟩ _ ⟨⟩
    decide +kernel
  have hday : morning.departures.OnOneDay := by
    rintro _ ⟨⟩ _ ⟨⟩
    exact le_refl _
  obtain ⟨hwindows, -⟩ := reanchoredOn_isOrdered_iff morning returnDay
  exact ⟨hordered, hfits, hday, (hwindows _ List.mem_cons_self hordered hfits).2 hday⟩

/-- A flight at eleven in the evening. -/
def eveningFlight : Flight :=
  { morningFlight "Garuda" lowPrice with
    departure := ⟨"CGK", "Jakarta", some ⟨travelDay, ⟨82800, 0⟩, 25200⟩⟩
    arrival := ⟨"DPS", "Denpasar", some ⟨nextDay, ⟨7200, 0⟩, 28800⟩⟩ }

/-- Departures from ten in the evening to two in the morning are a window in which a flight of the
outbound leg lies, and on the way back the window is none, so that no flight is accepted. On the last
day of the calendar a window within one date is lost if only its first bound can be moved there. -/
theorem overnight_not_isOrdered :
    (∃ (filters : FilterSet) (date : Date),
      filters.departures.IsOrdered ∧ filters.FitsOn date ∧
      (∃ flight, Leg.toDenpasar.contains flight = true ∧ filters.accepts flight = true) ∧
      ¬(filters.reanchoredOn date).departures.IsOrdered ∧
      ∀ flight, (filters.reanchoredOn date).accepts flight = false) ∧
    ∃ (filters : FilterSet) (date : Date),
      filters.departures.IsOrdered ∧ filters.departures.OnOneDay ∧
      ¬(filters.reanchoredOn date).departures.IsOrdered := by
  have hlost {filters : FilterSet} {earliest latest : Timestamp}
      (hafter : filters.departAfter = some earliest) (hbefore : filters.departBefore = some latest)
      (hless : latest.lt earliest = true) : ¬filters.departures.IsOrdered := by
    intro h
    have hle : earliest.le latest = true := h earliest hafter latest hbefore
    rw [Timestamp.le, hless] at hle
    cases hle
  constructor
  · have hmoved : ¬((leavingBetween travelDay nextDay 79200 7200).reanchoredOn
        returnDay).departures.IsOrdered :=
      hlost rfl rfl (by decide +kernel)
    refine ⟨leavingBetween travelDay nextDay 79200 7200, returnDay, ?_, by decide +kernel,
      ⟨eveningFlight, by decide +kernel, by decide +kernel⟩, hmoved,
      accepts_eq_false fun h ↦ hmoved h.1⟩
    rintro _ ⟨⟩ _ ⟨⟩
    decide
  · refine ⟨{ departAfter := some ⟨travelDay, ⟨36000, 0⟩, 0⟩
              departBefore := some ⟨travelDay, ⟨72000, 0⟩, -18000⟩ },
      ⟨262142, 12, 31, by decide⟩, ?_, ?_, hlost rfl rfl (by decide +kernel)⟩
    · rintro _ ⟨⟩ _ ⟨⟩
      decide
    · rintro _ ⟨⟩ _ ⟨⟩
      exact le_refl _

end FilterSet

end FareSearch
