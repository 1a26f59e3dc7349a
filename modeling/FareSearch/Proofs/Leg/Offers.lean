import FareSearch.Leg.Offers
import FareSearch.Proofs.Leg.Duplicates

/-!
# What a leg offers

Scoring and ordering neither lose nor change a record, their score apart. So the offers of a leg are
the standing records of the eligible ones: each key of an eligible record is offered once, by a
record of least rank, and no other key is.
-/

namespace FareSearch

namespace Flight

/-- All of a flight but its score. -/
def unscored (flight : Flight) : Flight :=
  { flight with bestValueScore := 0 }

theorem eq_of_unscored_eq {flight scored : Flight} (h : scored.unscored = flight.unscored) :
    scored = { flight with bestValueScore := scored.bestValueScore } :=
  calc
    scored = { scored.unscored with bestValueScore := scored.bestValueScore } := rfl
    _ = { flight.unscored with bestValueScore := scored.bestValueScore } := by rw [h]
    _ = _ := rfl

end Flight

namespace BestValue

section Lengths

variable {R : Type} [Add R] [Sub R] [Mul R] [Div R] [Zero R] [One R] [LT R] [DecidableLT R]

theorem length_scores (weights : Weights R) (values : List (R × R)) :
    (scores weights values).length = values.length := by
  cases values with
  | nil => rfl
  | cons value rest => simp [scores]

theorem length_flightScores (ofAmount : Amount → R) (ofMinutes : ℤ → R) (weights : Weights R)
    (flights : List Flight) :
    (flightScores ofAmount ofMinutes weights flights).length = flights.length := by
  rw [flightScores, length_scores, List.length_map]

end Lengths

theorem score_eq_map_zip (weights : BestValue) (flights : List Flight) :
    weights.score flights =
      (flights.zip (flightScores Amount.toFloat Number.ofInt weights flights)).map
        fun entry ↦ { entry.1 with bestValueScore := entry.2 } :=
  (List.map_uncurry_zip_eq_zipWith ..).symm

/-- Scoring keeps whatever does not read the score. -/
theorem map_score {α : Type} (weights : BestValue) (flights : List Flight) (reading : Flight → α)
    (hreading : ∀ flight value, reading { flight with bestValueScore := value } = reading flight) :
    (weights.score flights).map reading = flights.map reading := by
  rw [score_eq_map_zip, List.map_map]
  calc
    _ = (flights.zip _).map (reading ∘ Prod.fst) :=
      List.map_congr_left fun entry _ ↦ hreading entry.1 entry.2
    _ = flights.map reading := by
      rw [← List.map_map, List.map_fst_zip (length_flightScores _ _ _ _).ge]

/-- What is written are the scores by the rule, in doubles. -/
theorem map_bestValueScore (weights : BestValue) (flights : List Flight) :
    (weights.score flights).map (·.bestValueScore) =
      flightScores Amount.toFloat Number.ofInt weights flights := by
  rw [score_eq_map_zip, List.map_map]
  exact List.map_snd_zip (length_flightScores _ _ _ _).le

theorem mem_score {weights : BestValue} {flights : List Flight} {offer : Flight}
    (h : offer ∈ weights.score flights) :
    ∃ flight ∈ flights, offer = { flight with bestValueScore := offer.bestValueScore } := by
  have hmap : (weights.score flights).map Flight.unscored = flights.map Flight.unscored :=
    weights.map_score flights Flight.unscored fun _ _ ↦ rfl
  have hmem : offer.unscored ∈ flights.map Flight.unscored := hmap ▸ List.mem_map_of_mem h
  obtain ⟨flight, hflight, hsame⟩ := List.mem_map.mp hmem
  exact ⟨flight, hflight, Flight.eq_of_unscored_eq hsame.symm⟩

end BestValue

theorem perm_sortFlights (sort : SortSpec) (flights : List Flight) :
    (sortFlights sort flights).Perm flights :=
  List.mergeSort_perm flights sort.le

namespace Flight

/-- Settling the duration touches nothing else. -/
theorem normalizeDuration_eq (flight : Flight) :
    flight.normalizeDuration =
      { flight with durationMinutes := flight.normalizeDuration.durationMinutes } := by
  unfold normalizeDuration
  split <;> rfl

theorem normalizeDuration_dedupKey (flight : Flight) :
    flight.normalizeDuration.dedupKey = flight.dedupKey := by
  rw [normalizeDuration_eq]
  rfl

theorem normalizeDuration_departsAt (flight : Flight) :
    flight.normalizeDuration.departsAt = flight.departsAt := by
  rw [normalizeDuration_eq]
  rfl

theorem normalizeDuration_arrivesAt (flight : Flight) :
    flight.normalizeDuration.arrivesAt = flight.arrivesAt := by
  rw [normalizeDuration_eq]
  rfl

theorem normalizeDuration_rank (flight : Flight) : flight.normalizeDuration.rank = flight.rank := by
  rw [normalizeDuration_eq]
  rfl

end Flight

namespace Leg

/-- The record flies the leg and satisfies the filters once its duration is settled. -/
def Admits (leg : Leg) (filters : FilterSet) (record : Flight) : Prop :=
  leg.contains record.normalizeDuration = true ∧ filters.accepts record.normalizeDuration = true

instance (leg : Leg) (filters : FilterSet) (record : Flight) :
    Decidable (leg.Admits filters record) :=
  inferInstanceAs (Decidable (_ ∧ _))

theorem mem_eligible {leg : Leg} {filters : FilterSet} {records : List Flight} {flight : Flight} :
    flight ∈ leg.eligible filters (records.map Flight.normalizeDuration) ↔
      ∃ record ∈ records, leg.Admits filters record ∧ record.normalizeDuration = flight := by
  simp only [eligible, Admits, List.mem_filter, List.mem_map, Bool.and_eq_true]
  constructor
  · rintro ⟨⟨record, hrecord, rfl⟩, hadmits⟩
    exact ⟨record, hrecord, hadmits, rfl⟩
  · rintro ⟨record, hrecord, hadmits, rfl⟩
    exact ⟨⟨record, hrecord, rfl⟩, hadmits⟩

/-- Offers that are just those of the admitted records among the returned ones: each key of one
occurs once, any other key never, and the offer is one of the records, of least rank among those
with its key. -/
structure OffersOf (leg : Leg) (filters : FilterSet) (returned : Flight → Prop)
    (offers : List Flight) : Prop where
  once : ∀ key, (∃ record, returned record ∧ leg.Admits filters record ∧ record.dedupKey = key) →
    (offers.map Flight.dedupKey).count key = 1
  never : ∀ key,
    (¬∃ record, returned record ∧ leg.Admits filters record ∧ record.dedupKey = key) →
      key ∉ offers.map Flight.dedupKey
  kept : ∀ offer ∈ offers, ∃ record, returned record ∧ leg.Admits filters record ∧
    record.dedupKey = offer.dedupKey ∧
    offer = { record with
      durationMinutes := offer.durationMinutes
      bestValueScore := offer.bestValueScore }
  least : ∀ offer ∈ offers, ∀ record, returned record → leg.Admits filters record →
    record.dedupKey = offer.dedupKey → offer.rank ≤ record.rank

section Offers

variable (leg : Leg) (filters : FilterSet) (weights : BestValue) (sort : SortSpec)
  (records : List Flight)

theorem offers_keys_perm :
    ((leg.offers filters weights sort records).map Flight.dedupKey).Perm
      ((deduplicate (leg.eligible filters (records.map Flight.normalizeDuration))).map
        Flight.dedupKey) := by
  have hsort := (perm_sortFlights sort
    (weights.score (deduplicate (leg.eligible filters (records.map
      Flight.normalizeDuration))))).map Flight.dedupKey
  have hscore := weights.map_score
    (deduplicate (leg.eligible filters (records.map Flight.normalizeDuration))) Flight.dedupKey
    fun _ _ ↦ rfl
  rw [hscore] at hsort
  exact hsort

theorem offers_keys_nodup :
    ((leg.offers filters weights sort records).map Flight.dedupKey).Nodup :=
  (leg.offers_keys_perm filters weights sort records).nodup_iff.mpr (deduplicate_keys_nodup _)

theorem mem_offers_keys (key : String) :
    key ∈ (leg.offers filters weights sort records).map Flight.dedupKey ↔
      ∃ record ∈ records, leg.Admits filters record ∧ record.dedupKey = key := by
  rw [(leg.offers_keys_perm filters weights sort records).mem_iff, mem_deduplicate_keys,
    List.mem_map]
  constructor
  · rintro ⟨flight, hflight, rfl⟩
    obtain ⟨record, hrecord, hadmits, rfl⟩ := mem_eligible.mp hflight
    exact ⟨record, hrecord, hadmits, record.normalizeDuration_dedupKey.symm⟩
  · rintro ⟨record, hrecord, hadmits, rfl⟩
    exact ⟨_, mem_eligible.mpr ⟨record, hrecord, hadmits, rfl⟩, record.normalizeDuration_dedupKey⟩

variable {leg filters weights sort records}

/-- An offer is a kept record with its score. -/
theorem exists_kept_of_mem_offers {offer : Flight}
    (h : offer ∈ leg.offers filters weights sort records) :
    ∃ flight ∈ deduplicate (leg.eligible filters (records.map Flight.normalizeDuration)),
      offer = { flight with bestValueScore := offer.bestValueScore } :=
  BestValue.mem_score ((perm_sortFlights sort _).mem_iff.mp h)

/-- An offer is an admitted record with its duration settled and its score. -/
theorem exists_admitted_of_mem_offers {offer : Flight}
    (h : offer ∈ leg.offers filters weights sort records) :
    ∃ record ∈ records, leg.Admits filters record ∧
      offer = { record.normalizeDuration with bestValueScore := offer.bestValueScore } := by
  obtain ⟨flight, hflight, hscored⟩ := exists_kept_of_mem_offers h
  have hstanding := standing_mem (mem_deduplicate_iff.mp hflight)
  obtain ⟨record, hrecord, hadmits, rfl⟩ := mem_eligible.mp (List.mem_filter.mp hstanding).1
  exact ⟨record, hrecord, hadmits, hscored⟩

/-- A record that is admitted alone is offered. -/
theorem exists_offer_of_admits {record : Flight} (h : leg.Admits filters record) :
    ∃ offer ∈ leg.offers filters weights sort [record],
      offer = { record.normalizeDuration with bestValueScore := offer.bestValueScore } := by
  have hkey := (leg.mem_offers_keys filters weights sort [record] record.dedupKey).mpr
    ⟨record, List.mem_singleton_self record, h, rfl⟩
  obtain ⟨offer, hoffer, -⟩ := List.mem_map.mp hkey
  obtain ⟨given, hgiven, -, hscored⟩ := exists_admitted_of_mem_offers hoffer
  rw [List.mem_singleton.mp hgiven] at hscored
  exact ⟨offer, hoffer, hscored⟩

variable (leg filters weights sort records)

/-- The offers of a leg are just those of the admitted records. -/
theorem offers_offersOf :
    leg.OffersOf filters (· ∈ records) (leg.offers filters weights sort records) where
  once key hkey :=
    List.count_eq_one_of_mem (leg.offers_keys_nodup filters weights sort records)
      ((leg.mem_offers_keys filters weights sort records key).mpr hkey)
  never key hkey hmem := hkey ((leg.mem_offers_keys filters weights sort records key).mp hmem)
  kept offer hoffer := by
    obtain ⟨record, hrecord, hadmits, hscored⟩ := exists_admitted_of_mem_offers hoffer
    have hfields : offer = { record with
        durationMinutes := offer.durationMinutes
        bestValueScore := offer.bestValueScore } := by
      rw [hscored, record.normalizeDuration_eq]
    refine ⟨record, hrecord, hadmits, ?_, hfields⟩
    rw [hfields]
    rfl
  least offer hoffer record hrecord hadmits hkey := by
    obtain ⟨flight, hflight, hscored⟩ := exists_kept_of_mem_offers hoffer
    have hsame : flight.dedupKey = offer.dedupKey := by
      rw [hscored]
      rfl
    have hduplicate : record.normalizeDuration ∈
        (leg.eligible filters (records.map Flight.normalizeDuration)).filter
          fun other ↦ other.dedupKey = flight.dedupKey := by
      rw [List.mem_filter]
      refine ⟨mem_eligible.mpr ⟨record, hrecord, hadmits, rfl⟩, ?_⟩
      simp [record.normalizeDuration_dedupKey, hkey, hsame]
    calc
      offer.rank = flight.rank := Flight.rank_eq_of_fields (by rw [hscored]) (by rw [hscored])
      _ ≤ record.normalizeDuration.rank :=
        standing_rank_le (mem_deduplicate_iff.mp hflight) hduplicate
      _ = record.rank := record.normalizeDuration_rank

end Offers

end Leg

def travelDay : Date :=
  ⟨2025, 12, 15, by decide⟩

/-- From Jakarta to Denpasar in economy class. -/
def Leg.toDenpasar : Leg :=
  ⟨"CGK", "DPS", travelDay, "economy"⟩

def lowPrice : Amount :=
  { Amount.zero with magnitude := 1400000, magnitude_lt := by decide }

def highPrice : Amount :=
  { Amount.zero with magnitude := 1500000, magnitude_lt := by decide }

/-- One flight at eight in the morning, as a provider offers it. -/
def morningFlight (provider : String) (price : Amount) : Flight where
  id := qualifiedId "GA410" provider
  provider
  airline := ⟨"Garuda Indonesia", "GA"⟩
  flightNumber := "GA410"
  departure := ⟨"CGK", "Jakarta", some ⟨travelDay, ⟨28800, 0⟩, 25200⟩⟩
  arrival := ⟨"DPS", "Denpasar", some ⟨travelDay, ⟨39600, 0⟩, 28800⟩⟩
  durationMinutes := 0
  stops := 0
  price := .rupiah price
  availableSeats := 9
  cabinClass := "economy"
  aircraft := none
  amenities := []
  baggage := {}
  bestValueScore := 0

end FareSearch
