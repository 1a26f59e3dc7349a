import FareSearch.Criteria.Key
import FareSearch.Search.Cache
import FareSearch.Search.Outcome

/-!
# The search service

A search looks its criteria up in the cache; if they are not there, it asks every provider for the
outbound leg and then for the way back, assembles the outcome and stores it. It gives way to its
caller's stop signal first and to the deadline of the request next, and then leaves no trace in the
cache. Searches that run side by side share the providers and the cache.
-/

namespace FareSearch

inductive SearchError where
  | criteria (error : CriteriaError)
  | validation (reason : String)
  | cancelled
  | timedOut (deadlineMillis : Nat)
  | internal (reason : String)
  deriving DecidableEq

namespace SearchError

def message : SearchError → String
  | criteria error => "domain error: " ++ error.message
  | validation reason => "validation error: " ++ reason
  | cancelled => "search cancelled"
  | timedOut deadlineMillis => "search timed out after " ++ toString deadlineMillis ++ "ms"
  | internal reason => "internal error: " ++ reason

/-- The input was at fault. -/
def isValidation : SearchError → Bool
  | criteria _ => true
  | validation _ => true
  | _ => false

/-- The search was given up: by its caller or at its deadline. -/
def isCancellation : SearchError → Bool
  | cancelled => true
  | timedOut _ => true
  | _ => false

end SearchError

structure AggregationConfig where
  cacheTtl : Duration := Duration.ofSeconds 60
  providerTimeoutMillis : Nat := 1000
  maxRetries : Nat := 2
  requestTimeoutMillis : Nat := 5000
  deriving DecidableEq

instance : Inhabited AggregationConfig :=
  ⟨{}⟩

/-- Providers in the order of their registration, with the rules of a search. -/
structure SearchService (σ : Type) where
  providers : List (Provider σ)
  weights : BestValue := BestValue.standard
  config : AggregationConfig := {}

/-- What searches share: the states of the providers, the cache and the reading of its clock. Calls
that were withdrawn at the instant of their beginning wait for the clock to go on; only then they
run, and end at once. -/
structure SharedState (σ : Type) where
  states : List σ
  cache : Cache SearchOutcome := {}
  cacheNow : Instant := 0
  withdrawn : List (List (Task σ Answer)) := []

namespace SharedState

/-- Runs the calls that were withdrawn. -/
def settle {σ : Type} (now : Instant) (shared : SharedState σ) : SharedState σ :=
  { shared with
    states :=
      shared.withdrawn.foldl (fun states calls ↦ (Crowd.advanceEach now calls states).2)
        shared.states
    withdrawn := [] }

/-- Lets time pass between searches. -/
def idle {σ : Type} (now : Instant) (pause : Duration) (shared : SharedState σ) :
    Instant × SharedState σ :=
  if pause = 0 then (now, shared) else (now + pause.asPause, shared.settle now)

end SharedState

/-- How far a search has come. -/
inductive Stage (σ : Type) where
  | entering
  | outbound (calls : List (Task σ Answer))
  | inbound (first : LegResult) (request : SearchRequest) (calls : List (Task σ Answer))
  | finished (result : Except SearchError SearchOutcome)

/-- A search on its way. -/
structure SearchRun (σ : Type) where
  criteria : SearchCriteria
  stop : StopSignal
  start : Instant
  stage : Stage σ := .entering

namespace SearchService

variable {σ : Type}

def fanOut (service : SearchService σ) : FanOut σ where
  providers := service.providers
  retry := { maxRetries := service.config.maxRetries }
  deadlineMillis := service.config.providerTimeoutMillis

def names (service : SearchService σ) : List String :=
  service.fanOut.names

/-- The instant at which a search runs out of time. -/
def deadline (service : SearchService σ) (run : SearchRun σ) : Instant :=
  run.start + Duration.ofMillis service.config.requestTimeoutMillis

def elapsedMillis (run : SearchRun σ) (now : Instant) : Nat :=
  Duration.toMillis (now - run.start)

/-- Assembles the outcome and stores it. -/
def complete (service : SearchService σ) (now : Instant) (run : SearchRun σ) (outbound : LegResult)
    (inbound : Option LegResult) (shared : SharedState σ) : Stage σ × SharedState σ :=
  let outcome :=
    SearchOutcome.assemble run.criteria service.names outbound inbound (elapsedMillis run now)
  (.finished (.ok outcome),
    { shared with
      cache :=
        shared.cache.set run.criteria.cacheKey outcome shared.cacheNow service.config.cacheTtl })

/-- The results of calls that have all ended. -/
def outcomes (service : SearchService σ) (calls : List (Task σ Answer)) : List ProviderOutcome :=
  service.fanOut.outcomes calls

/-- Goes on after the outbound leg: to the way back, or to the end. Without providers there is
nothing to wait for on the way back either. -/
def afterOutbound (service : SearchService σ) (now : Instant) (run : SearchRun σ)
    (outbound : LegResult) (shared : SharedState σ) : Stage σ × SharedState σ :=
  match run.criteria.returnRequest? with
  | none => service.complete now run outbound none shared
  | some request =>
    let calls := service.fanOut.calls request run.stop now
    if calls.isEmpty then
      service.complete now run outbound
        (some (run.criteria.returnResult request service.weights [])) shared
    else (.inbound outbound request calls, shared)

/-- Asks the providers for the outbound leg. Without time their calls are withdrawn as they
begin. -/
def ask (service : SearchService σ) (now : Instant) (run : SearchRun σ)
    (shared : SharedState σ) : Stage σ × SharedState σ :=
  let request := run.criteria.outboundRequest
  if service.providers.isEmpty then
    service.afterOutbound now run (run.criteria.outboundResult service.weights []) shared
  else if service.deadline run ≤ now then
    (.finished (.error (.timedOut service.config.requestTimeoutMillis)),
      { shared with
        withdrawn := shared.withdrawn ++ [service.fanOut.calls request (some now) now] })
  else (.outbound (service.fanOut.calls request run.stop now), shared)

/-- Looks the criteria up, and asks the providers if they are not found. -/
def enter (service : SearchService σ) (now : Instant) (run : SearchRun σ)
    (shared : SharedState σ) : Stage σ × SharedState σ :=
  let (found, cache) := shared.cache.get run.criteria.cacheKey shared.cacheNow
  let shared := { shared with cache }
  match found with
  | some outcome => (.finished (.ok (outcome.replayed (elapsedMillis run now))), shared)
  | none => service.ask now run shared

/-- Gives a search up at its stop signal, and otherwise at its deadline. -/
def givenUp? (service : SearchService σ) (now : Instant) (run : SearchRun σ) :
    Option SearchError :=
  if run.stop.given now then some .cancelled
  else if service.deadline run ≤ now then some (.timedOut service.config.requestTimeoutMillis)
  else none

/-- One turn of a search that waits for the calls of a leg: it is given up, or it goes on with their
results once all have ended, or it keeps waiting. -/
def awaitCalls (service : SearchService σ) (now : Instant) (run : SearchRun σ)
    (calls : List (Task σ Answer)) (shared : SharedState σ)
    (waiting : List (Task σ Answer) → Stage σ)
    (ended : List ProviderOutcome → SharedState σ → Stage σ × SharedState σ) :
    Stage σ × SharedState σ × Bool :=
  match service.givenUp? now run with
  | some error => (.finished (.error error), shared, true)
  | none =>
    let (calls, states) := Crowd.advanceEach now calls shared.states
    let shared := { shared with states }
    if Crowd.allEnded calls then
      let (stage, shared) := ended (service.outcomes calls) shared
      (stage, shared, true)
    else (waiting calls, shared, false)

/-- One turn of a search at an instant: its new stage, and whether it went on to another one. -/
def turn (service : SearchService σ) (now : Instant) (run : SearchRun σ)
    (shared : SharedState σ) : Stage σ × SharedState σ × Bool :=
  match run.stage with
  | .finished result => (.finished result, shared, false)
  | .entering =>
    if run.stop.given now then (.finished (.error .cancelled), shared, true)
    else
      let (stage, shared) := service.enter now run shared
      (stage, shared, true)
  | .outbound calls =>
    service.awaitCalls now run calls shared .outbound fun outcomes shared ↦
      service.afterOutbound now run (run.criteria.outboundResult service.weights outcomes) shared
  | .inbound outbound request calls =>
    service.awaitCalls now run calls shared (.inbound outbound request) fun outcomes shared ↦
      service.complete now run outbound
        (some (run.criteria.returnResult request service.weights outcomes)) shared

/-- One turn of every search, in order. -/
def turnAll (service : SearchService σ) (now : Instant) :
    List (SearchRun σ) → SharedState σ → List (SearchRun σ) × SharedState σ × Bool
  | [], shared => ([], shared, false)
  | run :: rest, shared =>
    let (stage, shared, moved) := service.turn now run shared
    let (rest, shared, movedLater) := service.turnAll now rest shared
    ({ run with stage } :: rest, shared, moved || movedLater)

/-- The next instant at which a search may go on. -/
def wake? (service : SearchService σ) (shared : SharedState σ) (run : SearchRun σ) :
    Option Instant :=
  let limit := earlier run.stop (some (service.deadline run))
  match run.stage with
  | .entering => some run.start
  | .outbound calls => earlier limit (Crowd.wakeEach? calls shared.states)
  | .inbound _ _ calls => earlier limit (Crowd.wakeEach? calls shared.states)
  | .finished _ => none

def nextWake? (service : SearchService σ) (shared : SharedState σ) (runs : List (SearchRun σ)) :
    Option Instant :=
  runs.foldl (fun wake run ↦ earlier wake (service.wake? shared run)) none

/-- Lets searches take turns until all are finished. At one instant they take turns as long as one
of them goes on to another stage; then the clock moves on. -/
def runAll (service : SearchService σ) :
    Nat → Instant → List (SearchRun σ) → SharedState σ →
      Instant × List (SearchRun σ) × SharedState σ
  | 0, now, runs, shared => (now, runs, shared)
  | fuel + 1, now, runs, shared =>
    let (runs, shared, moved) := service.turnAll now runs shared
    if moved then service.runAll fuel now runs shared
    else
      match service.nextWake? shared runs with
      | none => (now, runs, shared)
      | some wake => service.runAll fuel wake runs shared

/-- The result of a search; one that was not finished ran out of time. -/
def result (service : SearchService σ) (run : SearchRun σ) : Except SearchError SearchOutcome :=
  match run.stage with
  | .finished result => result
  | _ => .error (.timedOut service.config.requestTimeoutMillis)

/-- Searches begun together at an instant. Every turn is one of at most four stages of a search or
lies on one of the instants up to the common deadline. -/
def searchTogether (service : SearchService σ) (start : Instant)
    (searches : List (SearchCriteria × StopSignal)) (shared : SharedState σ) :
    Instant × List (Except SearchError SearchOutcome) × SharedState σ :=
  let runs := searches.map fun (criteria, stop) ↦ { criteria, stop, start }
  let fuel := Duration.ofMillis service.config.requestTimeoutMillis + 4 * searches.length + 2
  let (finish, runs, shared) := service.runAll fuel start runs shared
  (finish, runs.map service.result, shared)

/-- One search by itself. -/
def search (service : SearchService σ) (start : Instant) (criteria : SearchCriteria)
    (stop : StopSignal) (shared : SharedState σ) :
    Instant × Except SearchError SearchOutcome × SharedState σ :=
  let (finish, results, shared) := service.searchTogether start [(criteria, stop)] shared
  (finish, results.headD (.error .cancelled), shared)

end SearchService

end FareSearch
