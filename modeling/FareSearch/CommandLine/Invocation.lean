import FareSearch.CommandLine.Arguments

/-!
# Invocations

A complete command line, defaults included, and the criteria that it asks for. A time filter is a
time of day on the departure date, or a full timestamp.
-/

namespace FareSearch.CommandLine

structure Invocation where
  origin : String
  destination : String
  date : Date
  returnDate : Option Date
  passengers : Nat
  cabinClass : String
  minPrice : Option Amount
  maxPrice : Option Amount
  stops : Option Nat
  maxStops : Option Nat
  minDuration : Option Int
  maxDuration : Option Int
  airlines : List String
  departAfter : Option String
  departBefore : Option String
  arriveAfter : Option String
  arriveBefore : Option String
  utcOffset : Int
  sort : String
  order : String
  fixtures : String
  config : Option String
  output : OutputFormat
  jsonLogs : Bool
  repeats : Nat

/-- Seven hours, the offset of western Indonesia. -/
def defaultOffset : Int :=
  25200

/-- Origin, destination and date have to be given; the rest has defaults. -/
def Arguments.complete (arguments : Arguments) : Except UsageError Invocation :=
  match arguments.origin, arguments.destination, arguments.date with
  | some origin, some destination, some date =>
    .ok
      { origin
        destination
        date
        returnDate := arguments.returnDate
        passengers := arguments.passengers.getD 1
        cabinClass := arguments.cabinClass.getD defaultCabinClass
        minPrice := arguments.minPrice
        maxPrice := arguments.maxPrice
        stops := arguments.stops
        maxStops := arguments.maxStops
        minDuration := arguments.minDuration
        maxDuration := arguments.maxDuration
        airlines := arguments.airlines
        departAfter := arguments.departAfter
        departBefore := arguments.departBefore
        arriveAfter := arguments.arriveAfter
        arriveBefore := arguments.arriveBefore
        utcOffset := arguments.utcOffset.getD defaultOffset
        sort := arguments.sort.getD SortField.bestValue.name
        order := arguments.order.getD SortOrder.ascending.name
        fixtures := arguments.fixtures.getD "fixtures"
        config := arguments.config
        output := arguments.output.getD .json
        jsonLogs := arguments.jsonLogs
        repeats := arguments.repeats.getD 1 }
  | _, _, _ => .error .missingRequiredArgument

/-- The invocation of a command line. -/
def Invocation.read (words : List String) : Except UsageError Invocation :=
  match Arguments.read words with
  | .ok arguments => arguments.complete
  | .error error => .error error

/-- Why an invocation gives no criteria. -/
inductive InvocationError where
  | timeFilter (text : String)
  | criteria (error : CriteriaError)
  deriving DecidableEq

def InvocationError.message : InvocationError → String
  | timeFilter text => "invalid time filter " ++ Text.quoted text
  | criteria error => error.message

/-- The instant of a time filter. Five bytes with a colon are a time of day. -/
def timeFilter (date : Date) (offset : Int) (text : String) : Except InvocationError Timestamp :=
  if text.utf8ByteSize = 5 && text.toList.contains ':' then
    (FilterSet.anchorTimeOfDay date text offset).mapError .criteria
  else
    match Calendar.strictTimestamp? text with
    | some stamp => .ok stamp
    | none => .error (.timeFilter text)

namespace Invocation

def timeFilter? (invocation : Invocation) :
    Option String → Except InvocationError (Option Timestamp)
  | none => .ok none
  | some text => (timeFilter invocation.date invocation.utcOffset text).map some

/-- The filters of an invocation; its time filters are read in a fixed order. -/
def filters (invocation : Invocation) : Except InvocationError FilterSet := do
  let departAfter ← invocation.timeFilter? invocation.departAfter
  let departBefore ← invocation.timeFilter? invocation.departBefore
  let arriveAfter ← invocation.timeFilter? invocation.arriveAfter
  let arriveBefore ← invocation.timeFilter? invocation.arriveBefore
  return {
    minPrice := invocation.minPrice
    maxPrice := invocation.maxPrice
    stops := invocation.stops
    maxStops := invocation.maxStops
    minDuration := invocation.minDuration
    maxDuration := invocation.maxDuration
    airlines := invocation.airlines
    departAfter
    departBefore
    arriveAfter
    arriveBefore }

/-- The criteria of an invocation. -/
def criteria (invocation : Invocation) : Except InvocationError SearchCriteria := do
  let filters ← invocation.filters
  let draft : CriteriaDraft :=
    { origin := invocation.origin
      destination := invocation.destination
      departureDate := invocation.date
      returnDate := invocation.returnDate
      passengers := invocation.passengers
      cabinClass := some invocation.cabinClass
      filters
      sort := .ofText invocation.sort invocation.order }
  draft.build.mapError .criteria

end Invocation

end FareSearch.CommandLine
