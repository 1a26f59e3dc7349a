import FareSearch.Criteria.Basic
import FareSearch.Flight.Basic

/-!
# Eligible flights of a leg

A flight is on a leg if it leaves and arrives at its airports on its day, in its cabin and with a
schedule that makes sense; it is kept if it also satisfies every bound of the filters.
-/

namespace FareSearch

/-- One direction of a trip. An empty cabin class stands for any. -/
structure Leg where
  origin : String
  destination : String
  date : Date
  cabinClass : String
  deriving DecidableEq

def SearchRequest.leg (request : SearchRequest) : Leg where
  origin := request.origin
  destination := request.destination
  date := request.date
  cabinClass := request.cabinClass

namespace Leg

/-- Whether a flight flies the leg. The day is that of the departure in its own offset. -/
def contains (leg : Leg) (flight : Flight) : Bool :=
  Text.sameIgnoringAsciiCase flight.departure.airport leg.origin &&
    Text.sameIgnoringAsciiCase flight.arrival.airport leg.destination &&
    flight.hasValidSchedule &&
    flight.departsAt.any (fun leaves ↦ leaves.date == leg.date) &&
    (leg.cabinClass.isEmpty || Text.sameIgnoringAsciiCase flight.cabinClass leg.cabinClass)

end Leg

namespace FilterSet

def acceptsPrice (filters : FilterSet) (amount : Amount) : Bool :=
  filters.minPrice.all (fun least ↦ least.le amount) &&
    filters.maxPrice.all (fun most ↦ amount.le most)

def acceptsStops (filters : FilterSet) (stops : Nat) : Bool :=
  filters.stops.all (fun exact ↦ stops == exact) && filters.maxStops.all (fun most ↦ stops ≤ most)

def acceptsDuration (filters : FilterSet) (minutes : Int) : Bool :=
  filters.minDuration.all (fun least ↦ least ≤ minutes) &&
    filters.maxDuration.all (fun most ↦ minutes ≤ most)

/-- The airline is named by its name or its code; no names allow every airline. -/
def acceptsAirline (names : List String) (airline : Airline) : Bool :=
  names.isEmpty || names.contains (Text.lowercase airline.name) ||
    names.contains (Text.lowercase airline.code)

/-- Both times are present and within their windows. -/
def acceptsTimes (filters : FilterSet) (leaves arrives : Option Timestamp) : Bool :=
  match leaves, arrives with
  | some leaves, some arrives =>
    filters.departAfter.all (fun bound ↦ bound.le leaves) &&
      filters.departBefore.all (fun bound ↦ leaves.le bound) &&
      filters.arriveAfter.all (fun bound ↦ bound.le arrives) &&
      filters.arriveBefore.all (fun bound ↦ arrives.le bound)
  | _, _ => false

/-- Whether a flight satisfies every bound. -/
def accepts (filters : FilterSet) (flight : Flight) : Bool :=
  filters.acceptsPrice flight.price.amount && filters.acceptsStops flight.stops &&
    filters.acceptsDuration flight.durationMinutes &&
    acceptsAirline filters.normalizedAirlines flight.airline &&
    filters.acceptsTimes flight.departsAt flight.arrivesAt

end FilterSet

/-- The flights that fly a leg and satisfy the filters. -/
def Leg.eligible (leg : Leg) (filters : FilterSet) (flights : List Flight) : List Flight :=
  flights.filter fun flight ↦ leg.contains flight && filters.accepts flight

end FareSearch
