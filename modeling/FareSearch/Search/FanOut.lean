import FareSearch.Provider.Retry
import FareSearch.Timed.Crowd

/-!
# Asking every provider

One leg is put to all providers at once. Each call is retried under one policy and has one
deadline; a slow, failing or crashing provider costs the others nothing. The results stand in the
order in which the providers were registered.
-/

namespace FareSearch

/-- The final result of one provider for one leg. -/
structure ProviderOutcome where
  provider : String
  result : Answer

def ProviderOutcome.isSuccess (outcome : ProviderOutcome) : Bool :=
  match outcome.result with
  | .ok _ => true
  | .error _ => false

/-- Providers under a retry policy and a deadline for each call, in milliseconds. -/
structure FanOut (σ : Type) where
  providers : List (Provider σ)
  retry : RetryPolicy
  deadlineMillis : Nat

namespace FanOut

variable {σ : Type}

def names (fanOut : FanOut σ) : List String :=
  fanOut.providers.map (·.name)

def deadline (fanOut : FanOut σ) : Duration :=
  Duration.ofMillis fanOut.deadlineMillis

/-- The error of a call that missed its deadline. -/
def timeoutError (fanOut : FanOut σ) : ProviderError :=
  .timeout ("no answer within " ++ toString fanOut.deadlineMillis ++ "ms")
    (some fanOut.deadlineMillis)

/-- The error of a call that crashed. What the runtime tells of the crash follows the message and is
left out here. -/
def crashError : ProviderError :=
  .internal "provider task failed"

/-- The call of one provider, begun at an instant. -/
def call (fanOut : FanOut σ) (request : SearchRequest) (stop : StopSignal) (start : Instant)
    (provider : Provider σ) : Task σ Answer :=
  ((provider.retrying fanOut.retry).search request stop).within (start + fanOut.deadline)
    (.error fanOut.timeoutError)

/-- The calls of all providers, begun at an instant. -/
def calls (fanOut : FanOut σ) (request : SearchRequest) (stop : StopSignal) (start : Instant) :
    List (Task σ Answer) :=
  fanOut.providers.map (fanOut.call request stop start)

/-- What a call has come to; one that is still waiting has missed its deadline. -/
def result (fanOut : FanOut σ) (task : Task σ Answer) : Answer :=
  match task.ending? with
  | some (.answered answer) => answer
  | some .crashed => .error crashError
  | none => .error fanOut.timeoutError

/-- The results under the names of their providers. -/
def outcomes (fanOut : FanOut σ) (tasks : List (Task σ Answer)) : List ProviderOutcome :=
  List.zipWith (fun name task ↦ ⟨name, fanOut.result task⟩) fanOut.names tasks

/-- Asks every provider and waits for all of them. Each instant of the run lies before the common
deadline or is it, so the deadline bounds their number. -/
def searchAll (fanOut : FanOut σ) (request : SearchRequest) (stop : StopSignal) (start : Instant)
    (states : List σ) : Instant × List ProviderOutcome × List σ :=
  let (finish, tasks, states) :=
    Crowd.runEach (fanOut.deadline + 2) start (fanOut.calls request stop start) states
  (finish, fanOut.outcomes tasks, states)

end FanOut

end FareSearch
