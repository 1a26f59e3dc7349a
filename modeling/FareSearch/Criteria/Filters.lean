import FareSearch.Calendar.Reader
import FareSearch.Calendar.Writer
import FareSearch.Criteria.Error
import FareSearch.Money.AmountReader
import FareSearch.Text.Lowercase

/-!
# Filters

Optional bounds on the flights of a search. An absent bound does not constrain. Time windows are
instants; a window given as a time of day is anchored on a date, and all windows move to the date
of a return leg with their time of day and offset.
-/

namespace FareSearch

structure FilterSet where
  minPrice : Option Amount := none
  maxPrice : Option Amount := none
  stops : Option Nat := none
  maxStops : Option Nat := none
  minDuration : Option Int := none
  maxDuration : Option Int := none
  airlines : List String := []
  departAfter : Option Timestamp := none
  departBefore : Option Timestamp := none
  arriveAfter : Option Timestamp := none
  arriveBefore : Option Timestamp := none
  deriving DecidableEq

instance : Inhabited FilterSet :=
  ⟨{}⟩

/-- Two bounds that no flight can satisfy together, or a duration below zero. -/
inductive FilterConflict where
  | price (least most : Amount)
  | negativeDuration
  | duration (least most : Int)
  | stops (exact most : Nat)
  deriving DecidableEq

def FilterConflict.message : FilterConflict → String
  | .price least most =>
    "min_price " ++ least.text ++ " is greater than max_price " ++ most.text
  | .negativeDuration => "duration bounds must be positive"
  | .duration least most =>
    "min_duration " ++ toString least ++ " is greater than max_duration " ++ toString most
  | .stops exact most =>
    "stops " ++ toString exact ++ " is greater than max_stops " ++ toString most

namespace FilterSet

/-- Whether two optional bounds are both present and satisfy a test. -/
def clash {α : Type} (test : α → α → Bool) : Option α → Option α → Option (α × α)
  | some left, some right => if test left right then some (left, right) else none
  | _, _ => none

/-- The first conflict, in the order price, sign of durations, durations, stops. -/
def conflict? (filters : FilterSet) : Option FilterConflict :=
  match clash (fun least most ↦ most.lt least) filters.minPrice filters.maxPrice with
  | some (least, most) => some (.price least most)
  | none =>
    if filters.minDuration.any (· < 0) || filters.maxDuration.any (· < 0) then
      some .negativeDuration
    else
      match clash (fun least most ↦ most < least) filters.minDuration filters.maxDuration with
      | some (least, most) => some (.duration least most)
      | none =>
        match clash (fun exact most ↦ most < exact) filters.stops filters.maxStops with
        | some (exact, most) => some (.stops exact most)
        | none => none

/-- Refuses filters with a conflict. -/
def validate (filters : FilterSet) : Except CriteriaError Unit :=
  match filters.conflict? with
  | some conflict => .error (.invalidFilter conflict.message)
  | none => .ok ()

/-- Inserts a name into a strictly rising list. -/
def insertName (name : String) : List String → List String
  | [] => [name]
  | first :: rest =>
    if name < first then name :: first :: rest
    else if name = first then first :: rest
    else first :: insertName name rest

/-- The names in rising order, each once. -/
def nameSet (names : List String) : List String :=
  names.foldr insertName []

def normalizedName (name : String) : String :=
  Text.lowercase (Text.trim name)

/-- The allowed airlines trimmed, in small letters and without blanks, as a set. -/
def normalizedAirlines (filters : FilterSet) : List String :=
  nameSet ((filters.airlines.map normalizedName).filter fun name ↦ !name.isEmpty)

/-- The same filters with every time window moved to a date. -/
def reanchoredOn (filters : FilterSet) (date : Date) : FilterSet :=
  { filters with
    departAfter := filters.departAfter.map (·.movedTo date)
    departBefore := filters.departBefore.map (·.movedTo date)
    arriveAfter := filters.arriveAfter.map (·.movedTo date)
    arriveBefore := filters.arriveBefore.map (·.movedTo date) }

/-- The instant of a time of day on a date, at an offset. -/
def anchorTimeOfDay (date : Date) (text : String) (offset : Int) :
    Except CriteriaError Timestamp :=
  match (Calendar.timeOfDay? (Text.trim text)).bind fun time ↦
      Timestamp.ofLocal? date time offset with
  | some stamp => .ok stamp
  | none => .error (.invalidTimeOfDay text)

def keyPart {α : Type} (text : α → String) : Option α → String
  | some value => text value
  | none => ""

/-- The bounds in a fixed order between commas, amounts without superfluous places, times to the
second, the airlines between bars. -/
def canonicalKey (filters : FilterSet) : String :=
  ",".intercalate
    [ keyPart (fun amount ↦ amount.normalize.text) filters.minPrice,
      keyPart (fun amount ↦ amount.normalize.text) filters.maxPrice,
      keyPart toString filters.stops,
      keyPart toString filters.maxStops,
      keyPart toString filters.minDuration,
      keyPart toString filters.maxDuration,
      keyPart Calendar.secondsText filters.departAfter,
      keyPart Calendar.secondsText filters.departBefore,
      keyPart Calendar.secondsText filters.arriveAfter,
      keyPart Calendar.secondsText filters.arriveBefore,
      "|".intercalate filters.normalizedAirlines ]

/-- Equality in which amounts count by value and times by instant. -/
def sameBounds (left right : FilterSet) : Bool :=
  let same {α : Type} (test : α → α → Bool) : Option α → Option α → Bool
    | some x, some y => test x y
    | none, none => true
    | _, _ => false
  same Amount.sameValue left.minPrice right.minPrice &&
    same Amount.sameValue left.maxPrice right.maxPrice &&
    left.stops == right.stops && left.maxStops == right.maxStops &&
    left.minDuration == right.minDuration && left.maxDuration == right.maxDuration &&
    left.airlines == right.airlines &&
    same Timestamp.sameInstant left.departAfter right.departAfter &&
    same Timestamp.sameInstant left.departBefore right.departBefore &&
    same Timestamp.sameInstant left.arriveAfter right.arriveAfter &&
    same Timestamp.sameInstant left.arriveBefore right.arriveBefore

def fieldNames : List String :=
  ["min_price", "max_price", "stops", "max_stops", "min_duration", "max_duration", "airlines",
   "depart_after", "depart_before", "arrive_after", "arrive_before"]

def toJson (filters : FilterSet) : Json :=
  .object
    [ ("min_price", Json.ofOption Amount.toJson filters.minPrice),
      ("max_price", Json.ofOption Amount.toJson filters.maxPrice),
      ("stops", Json.ofOption Json.nat filters.stops),
      ("max_stops", Json.ofOption Json.nat filters.maxStops),
      ("min_duration", Json.ofOption Json.whole filters.minDuration),
      ("max_duration", Json.ofOption Json.whole filters.maxDuration),
      ("airlines", Json.strings filters.airlines),
      ("depart_after", Json.ofOption Calendar.timestampToJson filters.departAfter),
      ("depart_before", Json.ofOption Calendar.timestampToJson filters.departBefore),
      ("arrive_after", Json.ofOption Calendar.timestampToJson filters.arriveAfter),
      ("arrive_before", Json.ofOption Calendar.timestampToJson filters.arriveBefore) ]

/-- Filters from JSON; every field may be missing. -/
def ofJson? (json : Json) : Option FilterSet := do
  match ← Json.entries? fieldNames json with
  | [minPrice, maxPrice, stops, maxStops, minDuration, maxDuration, airlines, departAfter,
      departBefore, arriveAfter, arriveBefore] =>
    return {
      minPrice := ← minPrice.optionalAnywhere Amount.ofJson?
      maxPrice := ← maxPrice.optionalAnywhere Amount.ofJson?
      stops := ← stops.optionalAnywhere Json.nat32?
      maxStops := ← maxStops.optionalAnywhere Json.nat32?
      minDuration := ← minDuration.optionalAnywhere Json.int64?
      maxDuration := ← maxDuration.optionalAnywhere Json.int64?
      airlines := ← airlines.withDefault (Json.list? Json.text?) []
      departAfter := ← departAfter.optionalAnywhere Calendar.timestampOfJson?
      departBefore := ← departBefore.optionalAnywhere Calendar.timestampOfJson?
      arriveAfter := ← arriveAfter.optionalAnywhere Calendar.timestampOfJson?
      arriveBefore := ← arriveBefore.optionalAnywhere Calendar.timestampOfJson? }
  | _ => none

end FilterSet

end FareSearch
