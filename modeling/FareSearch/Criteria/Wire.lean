import FareSearch.Criteria.Basic

/-!
# Criteria as JSON

Criteria are written field by field and read back as a draft, which is checked like any other.
-/

namespace FareSearch

/-- Why criteria could not be read: they are no draft, or the draft was refused. -/
inductive CriteriaFailure where
  | malformed
  | refused (error : CriteriaError)
  deriving DecidableEq

namespace CriteriaDraft

def fieldNames : List String :=
  ["origin", "destination", "departure_date", "return_date", "passengers", "cabin_class",
   "filters", "sort"]

def ofJson? (json : Json) : Option CriteriaDraft := do
  match ← Json.entries? fieldNames json with
  | [origin, destination, departureDate, returnDate, passengers, cabinClass, filters, sort] =>
    return {
      origin := ← origin.required Json.text?
      destination := ← destination.required Json.text?
      departureDate := ← departureDate.required Calendar.dateOfJson?
      returnDate := ← returnDate.optionalAnywhere Calendar.dateOfJson?
      passengers := ← passengers.withDefault Json.nat32? 1
      cabinClass := ← cabinClass.optionalAnywhere Json.text?
      filters := ← filters.withDefault FilterSet.ofJson? {}
      sort := ← sort.withDefault SortSpec.ofJson? {} }
  | _ => none

end CriteriaDraft

namespace SearchCriteria

def toJson (criteria : SearchCriteria) : Json :=
  .object
    [ ("origin", .string criteria.origin),
      ("destination", .string criteria.destination),
      ("departure_date", Calendar.dateToJson criteria.departureDate),
      ("return_date", Json.ofOption Calendar.dateToJson criteria.returnDate),
      ("passengers", .nat criteria.passengers),
      ("cabin_class", .string criteria.cabinClass),
      ("filters", criteria.filters.toJson),
      ("sort", criteria.sort.toJson) ]

def ofJson (json : Json) : Except CriteriaFailure SearchCriteria :=
  match CriteriaDraft.ofJson? json with
  | none => .error .malformed
  | some draft =>
    match draft.build with
    | .ok criteria => .ok criteria
    | .error error => .error (.refused error)

end SearchCriteria

namespace SearchRequest

def toJson (request : SearchRequest) : Json :=
  .object
    [ ("origin", .string request.origin),
      ("destination", .string request.destination),
      ("date", Calendar.dateToJson request.date),
      ("passengers", .nat request.passengers),
      ("cabin_class", .string request.cabinClass) ]

def ofJson? (json : Json) : Option SearchRequest := do
  match ← Json.entries? ["origin", "destination", "date", "passengers", "cabin_class"] json with
  | [origin, destination, date, passengers, cabinClass] =>
    return {
      origin := ← origin.required Json.text?
      destination := ← destination.required Json.text?
      date := ← date.required Calendar.dateOfJson?
      passengers := ← passengers.required Json.nat32?
      cabinClass := ← cabinClass.required Json.text? }
  | _ => none

end SearchRequest

end FareSearch
