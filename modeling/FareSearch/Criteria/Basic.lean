import FareSearch.Criteria.Filters
import FareSearch.Criteria.Sort

/-!
# Search criteria

The input of one search. Criteria are built from a draft, which is checked and brought to normal
form: airport codes are three capitals and differ, at least one passenger travels, the return is
not before the departure, the filters do not conflict, and the cabin class is trimmed and in small
letters. Decoding goes through the same checks.
-/

namespace FareSearch

/-- Criteria before they are checked. -/
structure CriteriaDraft where
  origin : String
  destination : String
  departureDate : Date
  returnDate : Option Date := none
  passengers : Nat := 1
  cabinClass : Option String := none
  filters : FilterSet := {}
  sort : SortSpec := {}

/-- Checked criteria. -/
structure SearchCriteria where
  origin : String
  destination : String
  departureDate : Date
  returnDate : Option Date
  passengers : Nat
  cabinClass : String
  filters : FilterSet
  sort : SortSpec
  deriving DecidableEq

/-- What each provider is asked for one leg. -/
structure SearchRequest where
  origin : String
  destination : String
  date : Date
  passengers : Nat
  cabinClass : String
  deriving DecidableEq

/-- The cabin class of criteria that name none. -/
def defaultCabinClass : String :=
  "economy"

/-- Three ASCII letters, as capitals, once white space around them is dropped. -/
def airportCode (code : String) : Except CriteriaError String :=
  let trimmed := Text.trim code
  if trimmed.utf8ByteSize = 3 && trimmed.toList.all Text.isAsciiLetter then
    .ok (Text.asciiUpper trimmed)
  else .error (.invalidAirport code)

/-- A cabin class trimmed and in small letters; a blank one is the default. -/
def cabinClassOf (cabinClass : Option String) : String :=
  match cabinClass with
  | none => defaultCabinClass
  | some name =>
    let normal := Text.lowercase (Text.trim name)
    if normal.isEmpty then defaultCabinClass else normal

namespace CriteriaDraft

/-- Refuses a return before the departure. -/
def checkDates (draft : CriteriaDraft) : Except CriteriaError Unit :=
  match draft.returnDate with
  | some back =>
    if back.before draft.departureDate then
      .error (.returnBeforeDeparture draft.departureDate back)
    else .ok ()
  | none => .ok ()

/-- Checks a draft: origin, destination, their difference, passengers, dates and filters, in this
order. -/
def build (draft : CriteriaDraft) : Except CriteriaError SearchCriteria := do
  let origin ← airportCode draft.origin
  let destination ← airportCode draft.destination
  if origin = destination then throw (.sameAirport origin)
  if draft.passengers = 0 then throw (.invalidPassengers draft.passengers)
  draft.checkDates
  draft.filters.validate
  return {
    origin
    destination
    departureDate := draft.departureDate
    returnDate := draft.returnDate
    passengers := draft.passengers
    cabinClass := cabinClassOf draft.cabinClass
    filters := draft.filters
    sort := draft.sort }

end CriteriaDraft

namespace SearchCriteria

def isRoundTrip (criteria : SearchCriteria) : Bool :=
  criteria.returnDate.isSome

def outboundRequest (criteria : SearchCriteria) : SearchRequest where
  origin := criteria.origin
  destination := criteria.destination
  date := criteria.departureDate
  passengers := criteria.passengers
  cabinClass := criteria.cabinClass

/-- The request of the way back, with origin and destination exchanged. -/
def returnRequest? (criteria : SearchCriteria) : Option SearchRequest :=
  criteria.returnDate.map fun date ↦
    { origin := criteria.destination
      destination := criteria.origin
      date
      passengers := criteria.passengers
      cabinClass := criteria.cabinClass }

/-- Equality in which amounts count by value and times by instant. -/
def sameAs (left right : SearchCriteria) : Bool :=
  { left with filters := {} } == { right with filters := {} } &&
    left.filters.sameBounds right.filters

end SearchCriteria

end FareSearch
