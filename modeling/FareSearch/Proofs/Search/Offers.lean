import FareSearch.Proofs.Leg.Offers
import FareSearch.Proofs.Search.Course

/-!
# The offers of a search

Whatever the providers return on a leg, an outcome that was not found in the cache offers each
eligible flight once, at its lowest price, and nothing else. The way back is asked for when the
outbound leg is over, with the airports exchanged and the time windows on its own date.
-/

namespace FareSearch

/-- A record that was returned by a provider that answered. -/
def Returned (outcomes : List ProviderOutcome) (record : Flight) : Prop :=
  ∃ outcome ∈ outcomes, ∃ records, outcome.result = .ok records ∧ record ∈ records

theorem mem_answeredRecords {outcomes : List ProviderOutcome} {record : Flight} :
    record ∈ answeredRecords outcomes ↔ Returned outcomes record := by
  rw [answeredRecords, List.mem_flatMap]
  constructor
  · rintro ⟨outcome, houtcome, hrecord⟩
    cases hresult : outcome.result with
    | ok records =>
      rw [hresult] at hrecord
      exact ⟨outcome, houtcome, records, hresult, hrecord⟩
    | error error => simp [hresult] at hrecord
  · rintro ⟨outcome, houtcome, records, hresult, hrecord⟩
    refine ⟨outcome, houtcome, ?_⟩
    rw [hresult]
    exact hrecord

/-- The offers of a leg result are those of the returned records. -/
theorem LegResult.of_offersOf (request : SearchRequest) (filters : FilterSet) (weights : BestValue)
    (sort : SortSpec) (outcomes : List ProviderOutcome) :
    request.leg.OffersOf filters (Returned outcomes)
      (LegResult.of request filters weights sort outcomes).flights := by
  have hreturned : (· ∈ answeredRecords outcomes) = Returned outcomes := by
    funext record
    exact propext mem_answeredRecords
  rw [← hreturned]
  exact request.leg.offers_offersOf filters weights sort (answeredRecords outcomes)

namespace SearchService

variable {σ : Type} {service : SearchService σ} {criteria : SearchCriteria} {stop : StopSignal}
  {start finish : ℕ} {shared after : SharedState σ} {outcome : SearchOutcome}

/-- The flights of an outcome that was not found in the cache are the offers of what the providers
returned for the outbound leg, and the return flights those of the way back, if there is one. -/
theorem search_offersOf
    (hmiss : shared.cache.peek? criteria.cacheKey shared.cacheNow = none)
    (hsearch : service.search start criteria stop shared = (finish, .ok outcome, after)) :
    let outbound := service.fanOut.searchAll criteria.outboundRequest stop start shared.states
    Leg.OffersOf
      { origin := criteria.origin
        destination := criteria.destination
        date := criteria.departureDate
        cabinClass := criteria.cabinClass }
      criteria.filters (Returned outbound.2.1) outcome.flights ∧
    match criteria.returnDate with
    | none => outcome.returnFlights = []
    | some date =>
      let request : SearchRequest :=
        { origin := criteria.destination
          destination := criteria.origin
          date
          passengers := criteria.passengers
          cabinClass := criteria.cabinClass }
      let inbound := service.fanOut.searchAll request stop outbound.1 outbound.2.2
      Leg.OffersOf
        { origin := criteria.destination
          destination := criteria.origin
          date
          cabinClass := criteria.cabinClass }
        (criteria.filters.reanchoredOn date) (Returned inbound.2.1) outcome.returnFlights := by
  have houtcome := eq_outcomeOf_of_search hmiss hsearch
  rw [FanOut.searchAll_eq_course]
  constructor
  · rw [houtcome]
    exact LegResult.of_offersOf criteria.outboundRequest criteria.filters service.weights
      criteria.sort _
  · cases hdate : criteria.returnDate with
    | none =>
      have hrequest : criteria.returnRequest? = none := by
        rw [SearchCriteria.returnRequest?, hdate, Option.map_none]
      simp [houtcome, outcomeOf, course, inboundCourse?, hrequest, SearchOutcome.assemble]
    | some date =>
      dsimp only
      rw [FanOut.searchAll_eq_course, houtcome]
      have hrequest : criteria.returnRequest? =
          some ⟨criteria.destination, criteria.origin, date, criteria.passengers,
            criteria.cabinClass⟩ := by
        rw [SearchCriteria.returnRequest?, hdate, Option.map_some]
      simp only [outcomeOf, course, inboundCourse?, hrequest, SearchOutcome.assemble,
        Option.map_some, Option.getD_some]
      exact LegResult.of_offersOf
        ⟨criteria.destination, criteria.origin, date, criteria.passengers, criteria.cabinClass⟩
        (criteria.filters.reanchoredOn date) service.weights criteria.sort _

/-- A provider that answers at once. -/
def promptProvider (name : String) (records : List Flight) : Provider Unit where
  name
  search _ _ := .done (.ok records)

/-- Two providers of one flight at two prices. -/
def promptService : SearchService Unit where
  providers :=
    [ promptProvider "Garuda" [morningFlight "Garuda" highPrice],
      promptProvider "Lion" [morningFlight "Lion" lowPrice] ]

def tripCriteria : SearchCriteria where
  origin := "CGK"
  destination := "DPS"
  departureDate := travelDay
  returnDate := some ⟨2025, 12, 20, by decide⟩
  passengers := 1
  cabinClass := "economy"
  filters := {}
  sort := {}

theorem search_offersOf_morningFlight :
    ∃ finish outcome after,
      promptService.search 0 tripCriteria none { states := [(), ()] } =
        (finish, .ok outcome, after) ∧
      (outcome.flights.map Flight.dedupKey).count (morningFlight "Lion" lowPrice).dedupKey = 1 ∧
      ∀ offer ∈ outcome.flights, (morningFlight "Lion" lowPrice).dedupKey = offer.dedupKey →
        offer.rank ≤ (morningFlight "Lion" lowPrice).rank := by
  have hok : (promptService.search 0 tripCriteria none { states := [(), ()] }).2.1.isOk = true := by
    decide +kernel
  rcases hsearch : promptService.search 0 tripCriteria none { states := [(), ()] } with
    ⟨finish, result, after⟩
  rw [hsearch] at hok
  cases result with
  | error error => simp [Except.isOk, Except.toBool] at hok
  | ok outcome =>
    obtain ⟨houtbound, -⟩ := search_offersOf (by rfl) hsearch
    have hreturned : Returned (promptService.fanOut.searchAll tripCriteria.outboundRequest none 0
        [(), ()]).2.1 (morningFlight "Lion" lowPrice) :=
      ⟨⟨"Lion", .ok [morningFlight "Lion" lowPrice]⟩, .tail _ (.head _), _, rfl, .head _⟩
    have hadmits : tripCriteria.outboundRequest.leg.Admits tripCriteria.filters
        (morningFlight "Lion" lowPrice) := by
      constructor <;> decide +kernel
    refine ⟨finish, outcome, after, rfl, ?_, ?_⟩
    · exact houtbound.once _ ⟨morningFlight "Lion" lowPrice, hreturned, hadmits, rfl⟩
    · intro offer hoffer hkey
      exact houtbound.least offer hoffer _ hreturned hadmits hkey

end SearchService

end FareSearch
