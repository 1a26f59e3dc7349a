import FareSearch.Calendar.Timestamp
import FareSearch.Money.Amount
import FareSearch.Text.Blank
import FareSearch.Text.Lowercase

/-!
# Flights

One offer of one provider. The duration is the whole minutes between departure and arrival where
the timestamps give at least one, otherwise what the provider declared.
-/

namespace FareSearch

structure Airline where
  name : String
  code : String
  deriving DecidableEq, Inhabited

/-- Departure or arrival; the time is absent where the provider sent none. -/
structure FlightPoint where
  airport : String
  city : String
  time : Option Timestamp
  deriving DecidableEq, Inhabited

structure Fare where
  amount : Amount
  currency : String
  deriving DecidableEq, Inhabited

/-- A fare in Indonesian rupiah. -/
def Fare.rupiah (amount : Amount) : Fare :=
  ⟨amount, "IDR"⟩

def Fare.text (fare : Fare) : String :=
  fare.amount.text ++ " " ++ fare.currency

structure Baggage where
  carryOn : String := ""
  checked : String := ""
  deriving DecidableEq

instance : Inhabited Baggage :=
  ⟨{}⟩

structure Flight where
  id : String
  provider : String
  airline : Airline
  flightNumber : String
  departure : FlightPoint
  arrival : FlightPoint
  durationMinutes : Int
  stops : Nat
  price : Fare
  availableSeats : Nat
  cabinClass : String
  aircraft : Option String
  amenities : List String
  baggage : Baggage
  bestValueScore : Float
  deriving Inhabited

/-- The identifier of a flight among all providers. -/
def qualifiedId (localId provider : String) : String :=
  localId ++ "_" ++ provider

/-- Whole minutes between two points, if both times are present and there is at least one. -/
def scheduledMinutes? (departure arrival : FlightPoint) : Option Int :=
  match departure.time, arrival.time with
  | some leaves, some arrives =>
    let minutes := arrives.minutesSince leaves
    if 0 < minutes then some minutes else none
  | _, _ => none

namespace Flight

def departsAt (flight : Flight) : Option Timestamp :=
  flight.departure.time

def arrivesAt (flight : Flight) : Option Timestamp :=
  flight.arrival.time

/-- Both times are present and the arrival is later. -/
def hasValidSchedule (flight : Flight) : Bool :=
  match flight.departure.time, flight.arrival.time with
  | some leaves, some arrives => leaves.lt arrives
  | _, _ => false

def scheduledDuration? (flight : Flight) : Option Int :=
  scheduledMinutes? flight.departure flight.arrival

/-- The flight with its scheduled duration, where there is one. -/
def normalizeDuration (flight : Flight) : Flight :=
  match flight.scheduledDuration? with
  | some minutes => { flight with durationMinutes := minutes }
  | none => flight

def text (flight : Flight) : String :=
  "Flight(" ++ flight.airline.code ++ " " ++ flight.flightNumber ++ " " ++
    flight.departure.airport ++ "->" ++ flight.arrival.airport ++ " " ++ flight.price.text ++
    " via " ++ flight.provider ++ ")"

end Flight

/-- What is known of a flight before its identifier and duration are settled. -/
structure FlightDraft where
  provider : String
  airline : Airline
  flightNumber : String
  departure : FlightPoint
  arrival : FlightPoint
  price : Fare
  id : Option String := none
  declaredDuration : Int := 0
  stops : Nat := 0
  availableSeats : Nat := 0
  cabinClass : Option String := none
  aircraft : Option String := none
  amenities : List String := []
  baggage : Baggage := {}

/-- A label without white space around it; a blank one is dropped. -/
def label? (text : String) : Option String :=
  let trimmed := Text.trim text
  if trimmed.isEmpty then none else some trimmed

/-- The flight of a draft: economy where no cabin is named, no score yet. -/
def FlightDraft.build (draft : FlightDraft) : Flight where
  id := draft.id.getD (qualifiedId draft.flightNumber draft.provider)
  provider := draft.provider
  airline := draft.airline
  flightNumber := draft.flightNumber
  departure := draft.departure
  arrival := draft.arrival
  durationMinutes :=
    (scheduledMinutes? draft.departure draft.arrival).getD draft.declaredDuration
  stops := draft.stops
  price := draft.price
  availableSeats := draft.availableSeats
  cabinClass := (draft.cabinClass.map Text.lowercase).getD "economy"
  aircraft := draft.aircraft.bind label?
  amenities := draft.amenities
  baggage := draft.baggage
  bestValueScore := 0

end FareSearch
