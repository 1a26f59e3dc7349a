import FareSearch.CommandLine.Word
import FareSearch.Criteria.Basic

/-!
# Arguments

The values of the options as far as they were given. The value of an option is read when the next
option begins or the command line ends, so that a word that fits nowhere is reported first. An
option other than the airlines may be given once.
-/

namespace FareSearch.CommandLine

inductive OutputFormat where
  | json
  | table
  deriving DecidableEq, Inhabited

structure Arguments where
  origin : Option String := none
  destination : Option String := none
  date : Option Date := none
  returnDate : Option Date := none
  passengers : Option Nat := none
  cabinClass : Option String := none
  minPrice : Option Amount := none
  maxPrice : Option Amount := none
  stops : Option Nat := none
  maxStops : Option Nat := none
  minDuration : Option Int := none
  maxDuration : Option Int := none
  airlines : List String := []
  departAfter : Option String := none
  departBefore : Option String := none
  arriveAfter : Option String := none
  arriveBefore : Option String := none
  utcOffset : Option Int := none
  sort : Option String := none
  order : Option String := none
  fixtures : Option String := none
  config : Option String := none
  output : Option OutputFormat := none
  jsonLogs : Bool := false
  repeats : Option Nat := none

/-- Reads the value of an option. -/
abbrev ValueReader (α : Type) := String → Except UsageError α

namespace ValueReader

def text : ValueReader String :=
  .ok

/-- A path; it must not be empty. -/
def path : ValueReader String :=
  fun value ↦ if value.isEmpty then .error .invalidValue else .ok value

/-- A value of a type with a reader of its own. -/
def parsed {α : Type} (reader : String → Option α) : ValueReader α :=
  fun value ↦
    match reader value with
    | some result => .ok result
    | none => .error .valueValidation

def int64 : ValueReader Int :=
  parsed fun value ↦ (Number.signed? value.toList).bind Number.intWithin64

def nat32 : ValueReader Nat :=
  parsed fun value ↦ (Number.signed? value.toList).bind (Number.natWithin Number.limit32)

def outputFormat : ValueReader OutputFormat
  | "json" => .ok .json
  | "table" => .ok .table
  | _ => .error .invalidValue

/-- Refuses a second value for an option. -/
def once {α : Type} (reader : ValueReader α) (current : Option α) (value : String) :
    Except UsageError (Option α) :=
  if current.isSome then .error .argumentConflict else (reader value).map some

end ValueReader

namespace Arguments

open ValueReader

/-- The options that take a value. -/
def valued : List String :=
  ["origin", "destination", "date", "return-date", "passengers", "cabin-class", "min-price",
   "max-price", "stops", "max-stops", "min-duration", "max-duration", "airlines", "depart-after",
   "depart-before", "arrive-after", "arrive-before", "utc-offset", "sort", "order", "fixtures",
   "config", "output", "repeat"]

/-- Gives an option its value. -/
def assign (arguments : Arguments) (name value : String) : Except UsageError Arguments := do
  match name with
  | "origin" => return { arguments with origin := ← once text arguments.origin value }
  | "destination" =>
    return { arguments with destination := ← once text arguments.destination value }
  | "date" => return { arguments with date := ← once (parsed Calendar.date?) arguments.date value }
  | "return-date" =>
    return { arguments with
      returnDate := ← once (parsed Calendar.date?) arguments.returnDate value }
  | "passengers" => return { arguments with passengers := ← once nat32 arguments.passengers value }
  | "cabin-class" => return { arguments with cabinClass := ← once text arguments.cabinClass value }
  | "min-price" =>
    return { arguments with
      minPrice := ← once (parsed Amount.ofTextOrScientific?) arguments.minPrice value }
  | "max-price" =>
    return { arguments with
      maxPrice := ← once (parsed Amount.ofTextOrScientific?) arguments.maxPrice value }
  | "stops" => return { arguments with stops := ← once nat32 arguments.stops value }
  | "max-stops" => return { arguments with maxStops := ← once nat32 arguments.maxStops value }
  | "min-duration" =>
    return { arguments with minDuration := ← once int64 arguments.minDuration value }
  | "max-duration" =>
    return { arguments with maxDuration := ← once int64 arguments.maxDuration value }
  | "airlines" => return { arguments with airlines := arguments.airlines ++ value.splitOn "," }
  | "depart-after" =>
    return { arguments with departAfter := ← once text arguments.departAfter value }
  | "depart-before" =>
    return { arguments with departBefore := ← once text arguments.departBefore value }
  | "arrive-after" =>
    return { arguments with arriveAfter := ← once text arguments.arriveAfter value }
  | "arrive-before" =>
    return { arguments with arriveBefore := ← once text arguments.arriveBefore value }
  | "utc-offset" =>
    return { arguments with
      utcOffset := ← once (parsed Calendar.offset?) arguments.utcOffset value }
  | "sort" => return { arguments with sort := ← once text arguments.sort value }
  | "order" => return { arguments with order := ← once text arguments.order value }
  | "fixtures" => return { arguments with fixtures := ← once path arguments.fixtures value }
  | "config" => return { arguments with config := ← once path arguments.config value }
  | "output" => return { arguments with output := ← once outputFormat arguments.output value }
  | "repeat" => return { arguments with repeats := ← once nat32 arguments.repeats value }
  | _ => throw .unknownArgument

/-- Sets the one option without a value. -/
def setFlag (arguments : Arguments) : Except UsageError Arguments :=
  if arguments.jsonLogs then .error .argumentConflict
  else .ok { arguments with jsonLogs := true }

/-- An option whose value is not read yet, and the value if it came. -/
structure Pending where
  name : String
  value : Option String := none

/-- Reads the value that is pending. -/
def settle (arguments : Arguments) : Option Pending → Except UsageError Arguments
  | none => .ok arguments
  | some { name, value := some value } => arguments.assign name value
  | some { value := none, .. } => .error .invalidValue

/-- Reads words after the options that were read so far. -/
def readFrom (arguments : Arguments) (pending : Option Pending) :
    List String → Except UsageError Arguments
  | [] => arguments.settle pending
  | word :: rest =>
    match Word.of word with
    | .separator => if rest.isEmpty then arguments.settle pending else .error .unknownArgument
    | .plain =>
      match pending with
      | some { name, value := none } => readFrom arguments (some ⟨name, some word⟩) rest
      | _ => .error .unknownArgument
    | .short letter =>
      if letter == 'h' then
        match arguments.settle pending with
        | .ok _ => .error .displayHelp
        | .error error => .error error
      else .error .unknownArgument
    | .long name value =>
      if valued.contains name then
        match arguments.settle pending, value with
        | .error error, _ => .error error
        | .ok arguments, none => readFrom arguments (some { name }) rest
        | .ok arguments, some value =>
          match arguments.assign name value with
          | .error error => .error error
          | .ok arguments => readFrom arguments none rest
      else if name == "help" || name == "json-logs" then
        if value.isSome then .error .tooManyValues
        else
          match arguments.settle pending with
          | .error error => .error error
          | .ok arguments =>
            if name == "help" then .error .displayHelp
            else
              match arguments.setFlag with
              | .error error => .error error
              | .ok arguments => readFrom arguments none rest
      else .error .unknownArgument

/-- The arguments of a command line. -/
def read (words : List String) : Except UsageError Arguments :=
  readFrom {} none words

end Arguments

end FareSearch.CommandLine
