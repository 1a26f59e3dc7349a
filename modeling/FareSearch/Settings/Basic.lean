import FareSearch.Search.Service

/-!
# Settings

The numbers that an operator may set. Both deadlines have to be positive.
-/

namespace FareSearch

structure AggregatorSettings where
  cacheTtlSeconds : Nat := 60
  providerTimeoutMillis : Nat := 1000
  maxProviderRetries : Nat := 2
  rateLimitMillis : Nat := 100
  requestTimeoutMillis : Nat := 5000
  deriving DecidableEq

instance : Inhabited AggregatorSettings :=
  ⟨{}⟩

/-- Why settings were refused: a source cannot be used, or a deadline is zero. -/
inductive SettingsError where
  | unusable
  | notPositive (field : String)
  deriving DecidableEq

def SettingsError.message : SettingsError → String
  | unusable => "a source of the settings cannot be used"
  | notPositive field => "invalid configuration: " ++ field ++ " must be positive"

namespace AggregatorSettings

/-- Refuses deadlines of zero. -/
def validate (settings : AggregatorSettings) : Except SettingsError Unit :=
  if settings.providerTimeoutMillis = 0 then .error (.notPositive "provider_timeout_ms")
  else if settings.requestTimeoutMillis = 0 then .error (.notPositive "request_timeout_ms")
  else .ok ()

/-- The least interval between calls to one provider. -/
def rateLimit (settings : AggregatorSettings) : Duration :=
  Duration.ofMillis settings.rateLimitMillis

/-- The rules of a search. -/
def toConfig (settings : AggregatorSettings) : AggregationConfig where
  cacheTtl := Duration.ofSeconds settings.cacheTtlSeconds
  providerTimeoutMillis := settings.providerTimeoutMillis
  maxRetries := settings.maxProviderRetries
  requestTimeoutMillis := settings.requestTimeoutMillis

def fieldNames : List String :=
  ["cache_ttl_secs", "provider_timeout_ms", "max_provider_retries", "rate_limit_ms",
   "request_timeout_ms"]

def toJson (settings : AggregatorSettings) : Json :=
  .object
    [ ("cache_ttl_secs", .nat settings.cacheTtlSeconds),
      ("provider_timeout_ms", .nat settings.providerTimeoutMillis),
      ("max_provider_retries", .nat settings.maxProviderRetries),
      ("rate_limit_ms", .nat settings.rateLimitMillis),
      ("request_timeout_ms", .nat settings.requestTimeoutMillis) ]

/-- Settings from JSON; every field may be missing. -/
def ofJson? (json : Json) : Option AggregatorSettings := do
  match ← Json.entries? fieldNames json with
  | [cacheTtl, providerTimeout, maxRetries, rateLimit, requestTimeout] =>
    return {
      cacheTtlSeconds := ← cacheTtl.withDefault Json.nat64? 60
      providerTimeoutMillis := ← providerTimeout.withDefault Json.nat64? 1000
      maxProviderRetries := ← maxRetries.withDefault Json.nat32? 2
      rateLimitMillis := ← rateLimit.withDefault Json.nat64? 100
      requestTimeoutMillis := ← requestTimeout.withDefault Json.nat64? 5000 }
  | _ => none

end AggregatorSettings

end FareSearch
