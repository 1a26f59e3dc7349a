import FareSearch.Money.Rupiah
import FareSearch.Report.Duration
import FareSearch.Search.OutcomeWire

/-!
# The view of an outcome

An outcome as it is shown to a reader: durations and fares also as text, times both as text and as
seconds since 1970. Return flights are left out where there are none.
-/

namespace FareSearch.Report

/-- A departure or arrival; an unknown time is empty text and second zero. -/
def pointView (point : FlightPoint) : Json :=
  .object
    [ ("airport", .string point.airport),
      ("city", .string point.city),
      ("datetime", .string ((point.time.map Calendar.numericText).getD "")),
      ("timestamp", .whole ((point.time.map Timestamp.unixSeconds).getD 0)) ]

def durationView (minutes : Int) : Json :=
  .object [("total_minutes", .whole minutes), ("formatted", .string (durationText minutes))]

def fareView (fare : Fare) : Json :=
  .object
    [ ("amount", fare.amount.toJson),
      ("currency", .string fare.currency),
      ("formatted", .string (Rupiah.text fare.amount)) ]

def flightView (flight : Flight) : Json :=
  .object
    [ ("id", .string flight.id),
      ("provider", .string flight.provider),
      ("airline", flight.airline.toJson),
      ("flight_number", .string flight.flightNumber),
      ("departure", pointView flight.departure),
      ("arrival", pointView flight.arrival),
      ("duration", durationView flight.durationMinutes),
      ("stops", .nat flight.stops),
      ("price", fareView flight.price),
      ("available_seats", .nat flight.availableSeats),
      ("cabin_class", .string flight.cabinClass),
      ("aircraft", Json.ofOption .string flight.aircraft),
      ("amenities", Json.strings flight.amenities),
      ("baggage", flight.baggage.toJson) ]

/-- The members of the view of an outcome. -/
def outcomeMembers (outcome : SearchOutcome) : List (String × Json) :=
  let returnFlights := outcome.returnFlights.map flightView
  [ ("search_criteria", outcome.criteria.toJson),
    ("metadata", outcome.metadata.toJson),
    ("flights", .array (outcome.flights.map flightView)) ] ++
  if returnFlights.isEmpty then [] else [("return_flights", .array returnFlights)]

def outcomeView (outcome : SearchOutcome) : Json :=
  .object (outcomeMembers outcome)

end FareSearch.Report
