import FareSearch.Money.Rupiah
import FareSearch.Number.FixedPlaces
import FareSearch.Report.Duration
import FareSearch.Search.Outcome

/-!
# The table of an outcome

A headline, the providers that failed, and a table for each leg with one line for each flight.
Columns are padded by characters and never cut.
-/

namespace FareSearch.Report

/-- Text at the left end of a column. -/
def leftAligned (width : Nat) (text : String) : String :=
  text ++ String.ofList (List.replicate (width - text.length) ' ')

/-- Text at the right end of a column. -/
def rightAligned (width : Nat) (text : String) : String :=
  String.ofList (List.replicate (width - text.length) ' ') ++ text

/-- The cells of one line of a table. -/
structure Row where
  airline : String
  flightNumber : String
  origin : String
  destination : String
  duration : String
  stops : String
  price : String
  score : String

namespace Row

def heading : Row where
  airline := "Airline"
  flightNumber := "Flight"
  origin := "From"
  destination := "To"
  duration := "Duration"
  stops := "Stops"
  price := "Price"
  score := "Score"

/-- The cells of a flight: its fare in whole rupiah, its score with three places. -/
def ofFlight (flight : Flight) : Row where
  airline := flight.airline.name
  flightNumber := flight.flightNumber
  origin := flight.departure.airport
  destination := flight.arrival.airport
  duration := durationText flight.durationMinutes
  stops := toString flight.stops
  price := Rupiah.text flight.price.amount
  score := Number.fixedPlaces 3 flight.bestValueScore

def text (row : Row) : String :=
  " ".intercalate
    [ leftAligned 18 row.airline,
      leftAligned 8 row.flightNumber,
      leftAligned 6 row.origin,
      leftAligned 6 row.destination,
      rightAligned 8 row.duration,
      rightAligned 5 row.stops,
      rightAligned 16 row.price,
      rightAligned 6 row.score ]

end Row

/-- The first line, with the time that the search took as the given text. -/
def headline (timeText : String) (outcome : SearchOutcome) : String :=
  let metadata := outcome.metadata
  outcome.criteria.origin ++ " -> " ++ outcome.criteria.destination ++ " on " ++
    outcome.criteria.departureDate ++ ": " ++ toString metadata.totalResults ++ " results, " ++
    toString metadata.providersSucceeded ++ "/" ++ toString metadata.providersQueried ++
    " providers, " ++ timeText ++ " ms" ++ (if metadata.cacheHit then " (cached)" else "")

/-- The table of one leg under its title, with an empty line above. -/
def legLines (title : String) (flights : List Flight) : List String :=
  ("\n" ++ title) :: Row.heading.text :: flights.map fun flight ↦ (Row.ofFlight flight).text

/-- The lines of an outcome. -/
def tableLines (timeText : String) (outcome : SearchOutcome) : List String :=
  let failed := outcome.metadata.failedProviders
  headline timeText outcome ::
    (if failed.isEmpty then [] else ["failed: " ++ ", ".intercalate failed]) ++
    legLines "Outbound" outcome.flights ++
    if outcome.returnFlights.isEmpty then [] else legLines "Return" outcome.returnFlights

/-- The lines of an outcome with the time that it states. -/
def outcomeLines (outcome : SearchOutcome) : List String :=
  tableLines (toString outcome.metadata.searchTimeMillis) outcome

end FareSearch.Report
