import FareSearch.Provider.Basic

/-!
# Retrying

A transient error is tried again after a pause that doubles from attempt to attempt. Pauses grow
up to the longest duration, and the factor up to the largest 32-bit number. Any other result, and
the result of the last attempt allowed, is final.
-/

namespace FareSearch

structure RetryPolicy where
  maxRetries : Nat := 2
  initialBackoff : Duration := Duration.ofMillis 80
  deriving DecidableEq

namespace RetryPolicy

/-- The pause before a retry, the first one being number 0. -/
def backoffFor (policy : RetryPolicy) (retry : Nat) : Duration :=
  let factor := if retry < 32 then Number.twoPow retry else Number.limit32
  min (policy.initialBackoff * factor) Duration.longest

variable {σ α : Type}

/-- Attempts from number `index` on, with so many retries left. -/
def attempts (policy : RetryPolicy) (stop : StopSignal)
    (operation : Nat → Task σ (Except ProviderError α)) (index : Nat) :
    Nat → Task σ (Except ProviderError α)
  | 0 => operation index
  | retries + 1 =>
    (operation index).bind fun result ↦
      match result with
      | .error (.transient _) =>
        .pause (policy.backoffFor index) stop
          (fun _ ↦ attempts policy stop operation (index + 1) retries)
          (fun _ ↦ .done (.error .cancelled))
      | result => .done result

/-- Runs an operation, which is told the number of its attempt, until its result is final. -/
def execute (policy : RetryPolicy) (stop : StopSignal)
    (operation : Nat → Task σ (Except ProviderError α)) : Task σ (Except ProviderError α) :=
  policy.attempts stop operation 0 policy.maxRetries

end RetryPolicy

/-- The provider under a retry policy. -/
def Provider.retrying {σ : Type} (policy : RetryPolicy) (provider : Provider σ) : Provider σ where
  name := provider.name
  search request stop := policy.execute stop fun _ ↦ provider.search request stop

end FareSearch
