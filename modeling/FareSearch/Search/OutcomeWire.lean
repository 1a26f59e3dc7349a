import FareSearch.Search.Outcome

/-!
# Outcomes as JSON

The echo leaves the return date out where there is none.
-/

namespace FareSearch

namespace CriteriaEcho

def toJson (echo : CriteriaEcho) : Json :=
  .object
    ([("origin", .string echo.origin),
      ("destination", .string echo.destination),
      ("departure_date", .string echo.departureDate)] ++
      (echo.returnDate.map fun date ↦ ("return_date", Json.string date)).toList ++
      [("passengers", .nat echo.passengers), ("cabin_class", .string echo.cabinClass)])

def fieldNames : List String :=
  ["origin", "destination", "departure_date", "return_date", "passengers", "cabin_class"]

def ofJson? (json : Json) : Option CriteriaEcho := do
  match ← Json.entries? fieldNames json with
  | [origin, destination, departureDate, returnDate, passengers, cabinClass] =>
    return {
      origin := ← origin.required Json.text?
      destination := ← destination.required Json.text?
      departureDate := ← departureDate.required Json.text?
      returnDate := ← returnDate.optionalAnywhere Json.text?
      passengers := ← passengers.required Json.nat32?
      cabinClass := ← cabinClass.required Json.text? }
  | _ => none

end CriteriaEcho

namespace SearchMetadata

def fieldNames : List String :=
  ["total_results", "providers_queried", "providers_succeeded", "providers_failed",
   "search_time_ms", "cache_hit", "failed_providers"]

def toJson (metadata : SearchMetadata) : Json :=
  .object
    [ ("total_results", .nat metadata.totalResults),
      ("providers_queried", .nat metadata.providersQueried),
      ("providers_succeeded", .nat metadata.providersSucceeded),
      ("providers_failed", .nat metadata.providersFailed),
      ("search_time_ms", .nat metadata.searchTimeMillis),
      ("cache_hit", .bool metadata.cacheHit),
      ("failed_providers", Json.strings metadata.failedProviders) ]

def ofJson? (json : Json) : Option SearchMetadata := do
  match ← Json.entries? fieldNames json with
  | [totalResults, providersQueried, providersSucceeded, providersFailed, searchTimeMillis,
      cacheHit, failedProviders] =>
    return {
      totalResults := ← totalResults.required Json.nat64?
      providersQueried := ← providersQueried.required Json.nat64?
      providersSucceeded := ← providersSucceeded.required Json.nat64?
      providersFailed := ← providersFailed.required Json.nat64?
      searchTimeMillis := ← searchTimeMillis.required Json.nat64?
      cacheHit := ← cacheHit.required Json.bool?
      failedProviders := ← failedProviders.withDefault (Json.list? Json.text?) [] }
  | _ => none

end SearchMetadata

namespace SearchOutcome

/-- An outcome, the scores of its flights as the given values. -/
def toJsonWith (score : Float → Json) (outcome : SearchOutcome) : Json :=
  .object
    [ ("criteria", outcome.criteria.toJson),
      ("metadata", outcome.metadata.toJson),
      ("flights", .array (outcome.flights.map (Flight.toJsonWith score))),
      ("return_flights", .array (outcome.returnFlights.map (Flight.toJsonWith score))) ]

def ofJson? (json : Json) : Option SearchOutcome := do
  match ← Json.entries? ["criteria", "metadata", "flights", "return_flights"] json with
  | [criteria, metadata, flights, returnFlights] =>
    return {
      criteria := ← criteria.required CriteriaEcho.ofJson?
      metadata := ← metadata.required SearchMetadata.ofJson?
      flights := ← flights.required (Json.list? Flight.ofJson?)
      returnFlights := ← returnFlights.withDefault (Json.list? Flight.ofJson?) [] }
  | _ => none

end SearchOutcome

end FareSearch
