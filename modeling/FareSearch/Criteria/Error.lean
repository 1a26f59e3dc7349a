import FareSearch.Calendar.Writer
import FareSearch.Text.Quoted

/-!
# Why criteria are refused

Each cause of refusal with its wording. All of them are found before any provider is asked.
-/

namespace FareSearch

inductive CriteriaError where
  | invalidAirport (code : String)
  | sameAirport (code : String)
  | invalidPassengers (count : Nat)
  | returnBeforeDeparture (departure back : Date)
  | invalidFilter (reason : String)
  | invalidTimeOfDay (text : String)
  deriving DecidableEq

def CriteriaError.message : CriteriaError → String
  | .invalidAirport code => "invalid airport code: " ++ Text.quoted code
  | .sameAirport code => "origin and destination must differ: " ++ code
  | .invalidPassengers count => "invalid passenger count: " ++ toString count
  | .returnBeforeDeparture departure back =>
    "return date " ++ Calendar.dateText back ++ " is before departure date " ++
      Calendar.dateText departure
  | .invalidFilter reason => "invalid filter: " ++ reason
  | .invalidTimeOfDay text => "invalid time of day: " ++ Text.quoted text

end FareSearch
