import FareSearch.CommandLine.Invocation
import FareSearch.Json.Writer
import FareSearch.Provider.Limiter
import FareSearch.Provider.Simulated
import FareSearch.Report.Table
import FareSearch.Report.View
import FareSearch.Settings.EnvironmentFile

/-!
# The program

One invocation from its words to the outcomes it shows: the arguments are read, then the settings,
the records of the providers and the criteria, and the search is repeated as often as asked. The
first of these that fails decides the failure. Repeated searches follow each other at once, so the
clock of the cache stands still.
-/

namespace FareSearch.CommandLine

/-- A simulated provider: its file of records, name, latencies in milliseconds and failure rate. -/
structure ProviderProfile where
  file : String
  name : String
  minLatency : Nat
  maxLatency : Nat
  failureRate : Float

def profiles : List ProviderProfile :=
  [ ⟨"garuda_indonesia.json", "Garuda Indonesia", 50, 100, 0⟩,
    ⟨"lion_air.json", "Lion Air", 100, 200, 0⟩,
    ⟨"batik_air.json", "Batik Air", 200, 400, 0⟩,
    ⟨"airasia.json", "AirAsia", 50, 150, 0.1⟩ ]

/-- The records of a provider cannot be used. -/
structure LoadError where
  path : String
  cause : ProviderError

def LoadError.message (error : LoadError) : String :=
  "loading " ++ error.path

/-- The provider of a profile, with its records from a directory. -/
def ProviderProfile.load (profile : ProviderProfile) (directory : Directory) (folder : String) :
    Except LoadError SimulatedProvider :=
  let path := joinPath folder profile.file
  match SimulatedProvider.ofFile profile.name (directory.read? path) with
  | .ok provider =>
    .ok
      ((provider.withLatency profile.minLatency profile.maxLatency).withFailureRate
        profile.failureRate)
  | .error cause => .error ⟨path, cause⟩

/-- All providers in the order of their profiles; the first that cannot be loaded decides. -/
def loadProviders (directory : Directory) (folder : String) :
    Except LoadError (List SimulatedProvider) :=
  profiles.mapM fun profile ↦ profile.load directory folder

/-- Why the program ended without showing its outcomes. -/
inductive Failure where
  | usage (error : UsageError)
  | settings (error : SettingsError)
  | providers (error : LoadError)
  | criteria (error : InvocationError)
  | search (error : SearchError)

def Failure.message : Failure → String
  | usage error => error.message
  | settings error => error.message
  | providers error => error.message
  | criteria error => error.message
  | search error => error.message

/-- What the program finds where it is started. -/
structure Surroundings where
  directory : Directory := {}
  environment : Environment := []

namespace Surroundings

/-- The environment, completed from the environment file if there is one. -/
def fullEnvironment (surroundings : Surroundings) : Environment :=
  match surroundings.directory.read? ".env" with
  | some text => EnvironmentFile.applyTo surroundings.environment text
  | none => surroundings.environment

def settings (surroundings : Surroundings) (file : Option String) :
    Except SettingsError AggregatorSettings :=
  AggregatorSettings.load surroundings.directory file surroundings.fullEnvironment

end Surroundings

section Run

variable {ρ : Type}

/-- The service over simulated providers, each behind a limiter of its own. -/
def serviceOf (settings : AggregatorSettings) (source : RandomSource ρ)
    (providers : List SimulatedProvider) : SearchService (Claim × ρ) where
  providers := providers.map fun provider ↦
    (provider.toProvider source).limited settings.rateLimit
  config := settings.toConfig

/-- The same search a number of times, one after the other. -/
def repeatSearch (service : SearchService (Claim × ρ)) (criteria : SearchCriteria) :
    Nat → Instant → SharedState (Claim × ρ) → Except SearchError (List SearchOutcome)
  | 0, _, _ => .ok []
  | more + 1, now, shared =>
    match service.search now criteria none shared with
    | (_, .error error, _) => .error error
    | (finish, .ok outcome, shared) =>
      (repeatSearch service criteria more finish shared).map (outcome :: ·)

/-- Runs the program and gives the outcomes with the form in which they are shown. -/
def run (surroundings : Surroundings) (source : RandomSource ρ) (seeds : List ρ)
    (words : List String) : Except Failure (OutputFormat × List SearchOutcome) := do
  let invocation ← (Invocation.read words).mapError .usage
  let settings ← (surroundings.settings invocation.config).mapError .settings
  let providers ← (loadProviders surroundings.directory invocation.fixtures).mapError .providers
  let criteria ← invocation.criteria.mapError .criteria
  let shared : SharedState (Claim × ρ) := { states := seeds.map fun seed ↦ (none, seed) }
  let outcomes ←
    (repeatSearch (serviceOf settings source providers) criteria (max 1 invocation.repeats) 0
      shared).mapError .search
  return (invocation.output, outcomes)

end Run

/-- The texts that are printed for an outcome. -/
def OutputFormat.texts (format : OutputFormat) (outcome : SearchOutcome) : List String :=
  match format with
  | .json => [Json.indented 0 (Report.outcomeView outcome)]
  | .table => Report.outcomeLines outcome

end FareSearch.CommandLine
