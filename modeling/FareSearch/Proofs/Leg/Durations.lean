import FareSearch.Proofs.Calendar.Instant
import FareSearch.Proofs.Leg.Offers

/-!
# Durations of offers

An offered flight arrives after it departs. If a minute or more passes in between, its duration is
the whole minutes of that time, whatever its provider declared. Below a minute the schedule is not
used: the offer has the declared duration, which can be anything that the filters let pass.
-/

namespace FareSearch

namespace Flight

variable {flight : Flight} {leaves arrives : Timestamp}

theorem hasValidSchedule_iff :
    flight.hasValidSchedule = true ↔
      ∃ leaves arrives, flight.departsAt = some leaves ∧ flight.arrivesAt = some arrives ∧
        leaves.lt arrives = true := by
  unfold hasValidSchedule departsAt arrivesAt
  cases flight.departure.time <;> cases flight.arrival.time <;> simp

theorem scheduledDuration?_eq (hleaves : flight.departsAt = some leaves)
    (harrives : flight.arrivesAt = some arrives) :
    flight.scheduledDuration? =
      if 0 < arrives.minutesSince leaves then some (arrives.minutesSince leaves) else none := by
  rw [scheduledDuration?, scheduledMinutes?, show flight.departure.time = some leaves from hleaves,
    show flight.arrival.time = some arrives from harrives]

theorem normalizeDuration_of_minute (hleaves : flight.departsAt = some leaves)
    (harrives : flight.arrivesAt = some arrives)
    (h : Timestamp.minute ≤ arrives.nanosecondsSince leaves) :
    flight.normalizeDuration =
      { flight with durationMinutes := arrives.nanosecondsSince leaves / Timestamp.minute } := by
  obtain ⟨hminutes, hpositive⟩ := Timestamp.minutesSince_of_minute h
  rw [normalizeDuration, scheduledDuration?_eq hleaves harrives, if_pos hpositive, hminutes]

theorem normalizeDuration_of_less (hleaves : flight.departsAt = some leaves)
    (harrives : flight.arrivesAt = some arrives)
    (h : arrives.nanosecondsSince leaves < Timestamp.minute) :
    flight.normalizeDuration = flight := by
  have hminutes := Timestamp.minutesSince_of_less h
  rw [normalizeDuration, scheduledDuration?_eq hleaves harrives, if_neg (not_lt.mpr hminutes)]

end Flight

namespace FilterSet

theorem acceptsDuration_iff {filters : FilterSet} {minutes : ℤ} :
    filters.acceptsDuration minutes = true ↔
      (∀ least ∈ filters.minDuration, least ≤ minutes) ∧
        ∀ most ∈ filters.maxDuration, minutes ≤ most := by
  rw [acceptsDuration, Bool.and_eq_true]
  cases filters.minDuration <;> cases filters.maxDuration <;> simp

theorem acceptsDuration_of_accepts {filters : FilterSet} {flight : Flight}
    (h : filters.accepts flight = true) :
    filters.acceptsDuration flight.durationMinutes = true := by
  simp only [accepts, Bool.and_eq_true] at h
  exact h.1.1.2

end FilterSet

namespace Leg

variable {leg : Leg} {filters : FilterSet} {weights : BestValue} {sort : SortSpec}
  {records : List Flight} {offer : Flight}

theorem hasValidSchedule_of_contains {flight : Flight} (h : leg.contains flight = true) :
    flight.hasValidSchedule = true := by
  simp only [contains, Bool.and_eq_true] at h
  exact h.1.1.2

/-- The duration of an offer is the whole minutes of its schedule if this has any, and otherwise
the one that its record declared. Either lies within the requested bounds. -/
theorem offers_durations (h : offer ∈ leg.offers filters weights sort records) :
    ∃ leaves arrives, offer.departsAt = some leaves ∧ offer.arrivesAt = some arrives ∧
      leaves.lt arrives = true ∧
      (leaves.time.nano < 1000000000 → 0 < arrives.nanosecondsSince leaves) ∧
      (Timestamp.minute ≤ arrives.nanosecondsSince leaves →
        offer.durationMinutes = arrives.nanosecondsSince leaves / Timestamp.minute ∧
          0 < offer.durationMinutes) ∧
      (arrives.nanosecondsSince leaves < Timestamp.minute →
        ∃ record ∈ records, leg.Admits filters record ∧
          offer = { record with bestValueScore := offer.bestValueScore }) ∧
      (∀ least ∈ filters.minDuration, least ≤ offer.durationMinutes) ∧
      ∀ most ∈ filters.maxDuration, offer.durationMinutes ≤ most := by
  obtain ⟨record, hrecord, hadmits, hscored⟩ := exists_admitted_of_mem_offers h
  have hduration : offer.durationMinutes = record.normalizeDuration.durationMinutes := by
    rw [hscored]
  have hschedule := hasValidSchedule_of_contains hadmits.1
  rw [Flight.hasValidSchedule_iff, record.normalizeDuration_departsAt,
    record.normalizeDuration_arrivesAt] at hschedule
  obtain ⟨leaves, arrives, hleaves, harrives, hlater⟩ := hschedule
  have hbounds := FilterSet.acceptsDuration_of_accepts hadmits.2
  rw [← hduration, FilterSet.acceptsDuration_iff] at hbounds
  refine ⟨leaves, arrives, ?departs, ?arrives, hlater, ?passes, ?scheduled, ?declared, hbounds⟩
  case departs =>
    rw [hscored]
    exact record.normalizeDuration_departsAt.trans hleaves
  case arrives =>
    rw [hscored]
    exact record.normalizeDuration_arrivesAt.trans harrives
  case passes => exact Timestamp.nanosecondsSince_pos hlater
  case scheduled =>
    intro hminute
    obtain ⟨hminutes, hpositive⟩ := Timestamp.minutesSince_of_minute hminute
    rw [hduration, Flight.normalizeDuration_of_minute hleaves harrives hminute]
    exact ⟨rfl, hminutes ▸ hpositive⟩
  case declared =>
    intro hless
    rw [Flight.normalizeDuration_of_less hleaves harrives hless] at hscored
    exact ⟨record, hrecord, hadmits, hscored⟩

/-- The morning flight with an arrival and a declared duration. -/
def arrivingAt (second : ℕ) (declared : ℤ) : Flight :=
  { morningFlight "Garuda" lowPrice with
    arrival := ⟨"DPS", "Denpasar", some ⟨travelDay, ⟨second, 0⟩, 28800⟩⟩
    durationMinutes := declared }

theorem offers_durations_garuda :
    ∃ offer ∈ toDenpasar.offers { maxDuration := some 120 } .standard {} [arrivingAt 39659 7],
      offer.durationMinutes = 120 := by
  have hadmits : toDenpasar.Admits { maxDuration := some 120 } (arrivingAt 39659 7) := by
    decide +kernel
  obtain ⟨offer, hoffer, hscored⟩ := exists_offer_of_admits hadmits
  obtain ⟨leaves, arrives, hleaves, harrives, -, -, hscheduled, -⟩ := offers_durations hoffer
  rw [hscored] at hleaves harrives
  cases (Flight.normalizeDuration_departsAt _).symm.trans hleaves
  cases (Flight.normalizeDuration_arrivesAt _).symm.trans harrives
  exact ⟨offer, hoffer, (hscheduled (by decide)).1⟩

/-- Half a minute after its departure a flight arrives, and it is offered with the duration below
zero that its provider declared, although it is scheduled for no whole minute. -/
theorem hop_keeps_declared :
    ∃ offer ∈ toDenpasar.offers {} .standard {} [arrivingAt 32430 (-5)],
      ∃ leaves arrives, offer.departsAt = some leaves ∧ offer.arrivesAt = some arrives ∧
        arrives.nanosecondsSince leaves = 30000000000 ∧ offer.durationMinutes = -5 := by
  have hadmits : toDenpasar.Admits {} (arrivingAt 32430 (-5)) := by
    decide +kernel
  obtain ⟨offer, hoffer, hscored⟩ := exists_offer_of_admits hadmits
  have hdeclared : (arrivingAt 32430 (-5)).normalizeDuration.durationMinutes = -5 := by decide
  refine ⟨offer, hoffer, ⟨travelDay, ⟨28800, 0⟩, 25200⟩, ⟨travelDay, ⟨32430, 0⟩, 28800⟩, ?_⟩
  rw [hscored]
  exact ⟨rfl, rfl, by decide, hdeclared⟩

end Leg

end FareSearch
