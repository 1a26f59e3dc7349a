import FareSearch.Calendar.Reader
import FareSearch.Calendar.Writer
import FareSearch.Flight.Basic
import FareSearch.Json.Reader
import FareSearch.Money.AmountReader

/-!
# Flights as JSON

Records of flights as providers send them and as results hold them.
-/

namespace FareSearch

namespace Airline

def toJson (airline : Airline) : Json :=
  .object [("name", .string airline.name), ("code", .string airline.code)]

def ofJson? (json : Json) : Option Airline := do
  match ← Json.entries? ["name", "code"] json with
  | [name, code] => return ⟨← name.required Json.text?, ← code.required Json.text?⟩
  | _ => none

end Airline

namespace FlightPoint

def toJson (point : FlightPoint) : Json :=
  .object
    [ ("airport", .string point.airport),
      ("city", .string point.city),
      ("time", Json.ofOption Calendar.timestampToJson point.time) ]

def ofJson? (json : Json) : Option FlightPoint := do
  match ← Json.entries? ["airport", "city", "time"] json with
  | [airport, city, time] =>
    return {
      airport := ← airport.required Json.text?
      city := ← city.withDefault Json.text? ""
      time := ← time.optional Calendar.timestampOfJson? }
  | _ => none

end FlightPoint

namespace Fare

def toJson (fare : Fare) : Json :=
  .object [("amount", fare.amount.toJson), ("currency", .string fare.currency)]

def ofJson? (json : Json) : Option Fare := do
  match ← Json.entries? ["amount", "currency"] json with
  | [amount, currency] =>
    return ⟨← amount.required Amount.ofJson?, ← currency.required Json.text?⟩
  | _ => none

end Fare

namespace Baggage

def toJson (baggage : Baggage) : Json :=
  .object [("carry_on", .string baggage.carryOn), ("checked", .string baggage.checked)]

def ofJson? (json : Json) : Option Baggage := do
  match ← Json.entries? ["carry_on", "checked"] json with
  | [carryOn, checked] =>
    return ⟨← carryOn.required Json.text?, ← checked.required Json.text?⟩
  | _ => none

end Baggage

namespace Flight

def fieldNames : List String :=
  ["id", "provider", "airline", "flight_number", "departure", "arrival", "duration_minutes",
   "stops", "price", "available_seats", "cabin_class", "aircraft", "amenities", "baggage",
   "best_value_score"]

/-- The fields of a flight, its score as the given value. -/
def toJsonWith (score : Float → Json) (flight : Flight) : Json :=
  .object
    [ ("id", .string flight.id),
      ("provider", .string flight.provider),
      ("airline", flight.airline.toJson),
      ("flight_number", .string flight.flightNumber),
      ("departure", flight.departure.toJson),
      ("arrival", flight.arrival.toJson),
      ("duration_minutes", .whole flight.durationMinutes),
      ("stops", .nat flight.stops),
      ("price", flight.price.toJson),
      ("available_seats", .nat flight.availableSeats),
      ("cabin_class", .string flight.cabinClass),
      ("aircraft", Json.ofOption .string flight.aircraft),
      ("amenities", Json.strings flight.amenities),
      ("baggage", flight.baggage.toJson),
      ("best_value_score", score flight.bestValueScore) ]

def ofJson? (json : Json) : Option Flight := do
  match ← Json.entries? fieldNames json with
  | [id, provider, airline, flightNumber, departure, arrival, durationMinutes, stops, price,
      availableSeats, cabinClass, aircraft, amenities, baggage, bestValueScore] =>
    return {
      id := ← id.required Json.text?
      provider := ← provider.required Json.text?
      airline := ← airline.required Airline.ofJson?
      flightNumber := ← flightNumber.required Json.text?
      departure := ← departure.required FlightPoint.ofJson?
      arrival := ← arrival.required FlightPoint.ofJson?
      durationMinutes := ← durationMinutes.required Json.int64?
      stops := ← stops.required Json.nat32?
      price := ← price.required Fare.ofJson?
      availableSeats := ← availableSeats.required Json.nat32?
      cabinClass := ← cabinClass.required Json.text?
      aircraft := ← aircraft.optional Json.text?
      amenities := ← amenities.withDefault (Json.list? Json.text?) []
      baggage := ← baggage.withDefault Baggage.ofJson? {}
      bestValueScore := ← bestValueScore.withDefault Json.double? 0 }
  | _ => none

/-- The records of a provider's file. What a record passes over need not be readable. -/
def listOfText? (text : String) : Option (List Flight) :=
  (Json.readLoose? text).bind (Json.list? ofJson?)

end Flight

end FareSearch
