import FareSearch.Criteria.Basic
import FareSearch.Flight.Basic
import FareSearch.Timed.Task

/-!
# Providers

A provider answers a request with its records or an error. Only a transient error is worth another
attempt. What a provider remembers between its calls is a state of its own.
-/

namespace FareSearch

inductive ProviderError where
  | transient (reason : String)
  | unavailable (reason : String)
  | timeout (reason : String) (deadlineMillis : Option Nat)
  | cancelled
  | invalidResponse (reason : String)
  | internal (reason : String)
  deriving DecidableEq

namespace ProviderError

def message : ProviderError → String
  | transient reason => "temporary provider error: " ++ reason
  | unavailable reason => "provider unavailable: " ++ reason
  | timeout reason _ => "provider timeout: " ++ reason
  | cancelled => "provider call cancelled"
  | invalidResponse reason => "provider invalid response: " ++ reason
  | internal reason => "provider internal error: " ++ reason

/-- Worth another attempt. -/
def isTransient : ProviderError → Bool
  | transient _ => true
  | _ => false

/-- The call was given up: by its caller or at its deadline. -/
def isCancellation : ProviderError → Bool
  | cancelled => true
  | timeout .. => true
  | _ => false

end ProviderError

/-- Records, or the reason why there are none. -/
abbrev Answer := Except ProviderError (List Flight)

/-- A source of flights with a state of its own. -/
structure Provider (σ : Type) where
  name : String
  search : SearchRequest → StopSignal → Task σ Answer

/-- The provider on one part of a larger state. -/
def Provider.focus {σ τ : Type} (get : τ → σ) (set : σ → τ → τ) (provider : Provider σ) :
    Provider τ where
  name := provider.name
  search request stop := (provider.search request stop).focus get set

end FareSearch
