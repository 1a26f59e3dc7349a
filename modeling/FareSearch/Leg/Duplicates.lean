import FareSearch.Calendar.Writer
import FareSearch.Flight.Basic

/-!
# One record for each flight

Several providers offer the same flight. Records with one key are the same flight; the cheapest
stands for it, and of equally cheap ones that of the provider whose name comes first. The result
keeps the order in which the keys first appear.
-/

namespace FareSearch

/-- A time to the second, empty if it is unknown. -/
def timeKey (time : Option Timestamp) : String :=
  match time with
  | some stamp => Calendar.secondsText stamp
  | none => ""

namespace Flight

/-- Airline code, flight number, airports and times between bars, in small letters. -/
def dedupKey (flight : Flight) : String :=
  Text.lowercase
    ("|".intercalate
      [ flight.airline.code,
        flight.flightNumber,
        flight.departure.airport,
        flight.arrival.airport,
        timeKey flight.departsAt,
        timeKey flight.arrivesAt ])

/-- Whether a record takes the place of another with its key. -/
def isPreferredTo (candidate current : Flight) : Bool :=
  candidate.price.amount.lt current.price.amount ||
    (candidate.price.amount.sameValue current.price.amount && candidate.provider < current.provider)

end Flight

/-- Adds a record: in place of the one with its key if it is preferred, at the end if its key is
new. -/
def placeRecord : List Flight → Flight → List Flight
  | [], flight => [flight]
  | current :: rest, flight =>
    if current.dedupKey = flight.dedupKey then
      (if flight.isPreferredTo current then flight else current) :: rest
    else current :: placeRecord rest flight

/-- One record for each key. -/
def deduplicate (flights : List Flight) : List Flight :=
  flights.foldl placeRecord []

end FareSearch
