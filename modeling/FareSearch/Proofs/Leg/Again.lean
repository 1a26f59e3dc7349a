import FareSearch.Proofs.Leg.Comparison
import FareSearch.Proofs.Leg.Distinct
import FareSearch.Proofs.Leg.Durations
import FareSearch.Proofs.Leg.Order

/-!
# Offers as records again

The offers of a leg are themselves records of the leg: their durations are settled, they fly the leg
and satisfy the filters, no two of them share a key, and they are in the requested order. So a
second passage returns them as they are. Only the scores are computed anew, which is why an order
by score is left out.
-/

namespace FareSearch

namespace Flight

theorem normalizeDuration_normalizeDuration (flight : Flight) :
    flight.normalizeDuration.normalizeDuration = flight.normalizeDuration := by
  have hscheduled : flight.normalizeDuration.scheduledDuration? = flight.scheduledDuration? := by
    rw [normalizeDuration_eq]
    rfl
  rw [normalizeDuration, hscheduled, normalizeDuration]
  cases flight.scheduledDuration? <;> rfl

theorem normalizeDuration_withScore (flight : Flight) (score : Float) :
    { flight with bestValueScore := score }.normalizeDuration =
      { flight.normalizeDuration with bestValueScore := score } := by
  have hscheduled : { flight with bestValueScore := score }.scheduledDuration? =
      flight.scheduledDuration? := rfl
  rw [normalizeDuration, hscheduled, normalizeDuration]
  cases flight.scheduledDuration? <;> rfl

end Flight

/-- Only the order by score reads scores. -/
theorem SortSpec.notAfter_unscored {sort : SortSpec} (h : sort.field ≠ .bestValue)
    (left right : Flight) :
    sort.NotAfter left.unscored right.unscored ↔ sort.NotAfter left right := by
  obtain ⟨field, order⟩ := sort
  cases order <;> cases field <;> first | rfl | exact absurd rfl h

namespace Leg

section Passage

variable {leg : Leg} {filters : FilterSet} {weights : BestValue} {sort : SortSpec}
  {records : List Flight} {offer : Flight}

theorem normalizeDuration_of_mem_offers
    (h : offer ∈ leg.offers filters weights sort records) : offer.normalizeDuration = offer := by
  obtain ⟨record, -, -, hscored⟩ := exists_admitted_of_mem_offers h
  rw [hscored, Flight.normalizeDuration_withScore, Flight.normalizeDuration_normalizeDuration]

theorem accepted_of_mem_offers (h : offer ∈ leg.offers filters weights sort records) :
    (leg.contains offer && filters.accepts offer) = true := by
  obtain ⟨record, -, hadmits, hscored⟩ := exists_admitted_of_mem_offers h
  rw [hscored, Bool.and_eq_true]
  exact hadmits

variable (leg filters weights sort records)

theorem eligible_offers :
    leg.eligible filters
        ((leg.offers filters weights sort records).map Flight.normalizeDuration) =
      leg.offers filters weights sort records := by
  rw [List.map_congr_left fun _ ↦ normalizeDuration_of_mem_offers, List.map_id'', eligible,
    List.filter_eq_self]
  · exact fun _ ↦ accepted_of_mem_offers
  · exact fun _ ↦ rfl

/-- A second passage scores and orders the offers of the first one. -/
theorem offers_offers_eq :
    leg.offers filters weights sort (leg.offers filters weights sort records) =
      sortFlights sort (weights.score (leg.offers filters weights sort records)) := by
  have hdistinct := deduplicate_of_nodup (leg.offers_keys_nodup filters weights sort records)
  conv_lhs => rw [offers]
  rw [eligible_offers, hdistinct]

variable {sort}

/-- The offers of a leg, taken as its records, are offered again in the same order, each the same
in all but its score. -/
theorem offers_offers (h : sort.field ≠ .bestValue) :
    (leg.offers filters weights sort (leg.offers filters weights sort records)).map
        Flight.unscored =
      (leg.offers filters weights sort records).map Flight.unscored := by
  have hscored : (weights.score (leg.offers filters weights sort records)).map Flight.unscored =
      (leg.offers filters weights sort records).map Flight.unscored :=
    weights.map_score _ Flight.unscored fun _ _ ↦ rfl
  have hordered : (leg.offers filters weights sort records).Pairwise sort.NotAfter :=
    (stablySorted_sortFlights sort _).ordered
  have hagain : (weights.score (leg.offers filters weights sort records)).Pairwise
      sort.NotAfter := by
    have hunscored (flights : List Flight) :
        (flights.map Flight.unscored).Pairwise sort.NotAfter ↔ flights.Pairwise sort.NotAfter := by
      simp only [List.pairwise_map, SortSpec.notAfter_unscored h]
    rwa [← hunscored, hscored, hunscored]
  rw [offers_offers_eq, sortFlights_of_pairwise hagain, hscored]

end Passage

/-- Two records of one flight and another flight at the amount of the cheaper one, the dearest
first. -/
theorem offers_offers_garuda :
    (toDenpasar.offers {} .standard ⟨.price, .descending⟩
        (toDenpasar.offers {} .standard ⟨.price, .descending⟩
          (arrivingAt 39659 7 :: lowAndHigh))).map Flight.unscored =
      (toDenpasar.offers {} .standard ⟨.price, .descending⟩
        (arrivingAt 39659 7 :: lowAndHigh)).map Flight.unscored :=
  toDenpasar.offers_offers {} .standard (arrivingAt 39659 7 :: lowAndHigh) (by decide)

end Leg

end FareSearch
