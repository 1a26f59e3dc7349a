import FareSearch.Flight.Wire
import FareSearch.Leg.Offers
import FareSearch.Search.FanOut

/-!
# The outcome of a search

An outcome repeats the criteria, counts the providers, and holds the offers of each leg. It is a
function of the criteria and the final results of the providers; of the course of the search only
the time it took enters.
-/

namespace FareSearch

/-- The criteria as an outcome repeats them. -/
structure CriteriaEcho where
  origin : String
  destination : String
  departureDate : String
  returnDate : Option String
  passengers : Nat
  cabinClass : String
  deriving DecidableEq, Inhabited

structure SearchMetadata where
  totalResults : Nat
  providersQueried : Nat
  providersSucceeded : Nat
  providersFailed : Nat
  searchTimeMillis : Nat
  cacheHit : Bool
  failedProviders : List String
  deriving DecidableEq, Inhabited

structure SearchOutcome where
  criteria : CriteriaEcho
  metadata : SearchMetadata
  flights : List Flight
  returnFlights : List Flight
  deriving Inhabited

def SearchCriteria.echo (criteria : SearchCriteria) : CriteriaEcho where
  origin := criteria.origin
  destination := criteria.destination
  departureDate := Calendar.dateText criteria.departureDate
  returnDate := criteria.returnDate.map Calendar.dateText
  passengers := criteria.passengers
  cabinClass := criteria.cabinClass

/-- The offers of a leg and the providers that answered. -/
structure LegResult where
  flights : List Flight
  succeeded : List String

/-- The records of the providers that answered, in the order of the providers. -/
def answeredRecords (outcomes : List ProviderOutcome) : List Flight :=
  outcomes.flatMap fun outcome ↦
    match outcome.result with
    | .ok records => records
    | .error _ => []

/-- The result of a leg from the final results of the providers. -/
def LegResult.of (request : SearchRequest) (filters : FilterSet) (weights : BestValue)
    (sort : SortSpec) (outcomes : List ProviderOutcome) : LegResult where
  flights := request.leg.offers filters weights sort (answeredRecords outcomes)
  succeeded := (outcomes.filter ProviderOutcome.isSuccess).map (·.provider)

namespace SearchCriteria

def outboundResult (criteria : SearchCriteria) (weights : BestValue)
    (outcomes : List ProviderOutcome) : LegResult :=
  .of criteria.outboundRequest criteria.filters weights criteria.sort outcomes

/-- The way back has its own request, and the time windows of the filters on its own date. -/
def returnResult (criteria : SearchCriteria) (request : SearchRequest) (weights : BestValue)
    (outcomes : List ProviderOutcome) : LegResult :=
  .of request (criteria.filters.reanchoredOn request.date) weights criteria.sort outcomes

end SearchCriteria

namespace SearchOutcome

/-- The providers that answered on no leg. -/
def failedProviders (names : List String) (outbound : LegResult) (inbound : Option LegResult) :
    List String :=
  names.filter fun name ↦
    !(outbound.succeeded.contains name || inbound.any fun leg ↦ leg.succeeded.contains name)

/-- The outcome of a search that asked its providers. -/
def assemble (criteria : SearchCriteria) (names : List String) (outbound : LegResult)
    (inbound : Option LegResult) (elapsedMillis : Nat) : SearchOutcome :=
  let failed := failedProviders names outbound inbound
  let returnFlights := (inbound.map LegResult.flights).getD []
  { criteria := criteria.echo
    metadata :=
      { totalResults := outbound.flights.length + returnFlights.length
        providersQueried := names.length
        providersSucceeded := names.length - failed.length
        providersFailed := failed.length
        searchTimeMillis := elapsedMillis
        cacheHit := false
        failedProviders := failed }
    flights := outbound.flights
    returnFlights }

def isEmpty (outcome : SearchOutcome) : Bool :=
  outcome.flights.isEmpty && outcome.returnFlights.isEmpty

/-- The outcome as a look-up in the cache gives it. -/
def replayed (outcome : SearchOutcome) (elapsedMillis : Nat) : SearchOutcome :=
  { outcome with
    metadata := { outcome.metadata with cacheHit := true, searchTimeMillis := elapsedMillis } }

end SearchOutcome

end FareSearch
