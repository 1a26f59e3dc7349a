import FareSearch.Flight.Wire
import FareSearch.Provider.Basic
import FareSearch.Provider.Random

/-!
# Simulated providers

A provider that serves fixed records after a drawn latency and fails with a given probability. The
latency is drawn first; the chance of failure is drawn only where there is one.
-/

namespace FareSearch

structure SimulatedProvider where
  name : String
  records : List Flight
  minLatency : Nat := 0
  maxLatency : Nat := 0
  failureRate : Float := 0

namespace SimulatedProvider

/-- The latency in milliseconds, drawn between two bounds given in either order. -/
def withLatency (provider : SimulatedProvider) (one other : Nat) : SimulatedProvider :=
  { provider with minLatency := min one other, maxLatency := max one other }

/-- The probability of a failure, brought into the range from zero to one. -/
def withFailureRate (provider : SimulatedProvider) (rate : Float) : SimulatedProvider :=
  { provider with failureRate := if rate < 0 then 0 else if 1 < rate then 1 else rate }

def failure (provider : SimulatedProvider) : ProviderError :=
  .transient (provider.name ++ " is temporarily unavailable")

variable {ρ : Type}

/-- The result once the latency is over. -/
def serve (provider : SimulatedProvider) (source : RandomSource ρ) : Task ρ Answer :=
  if 0 < provider.failureRate then
    .act (fun _ state ↦ (source.unit state).2) fun _ state ↦
      if (source.unit state).1 < provider.failureRate then .done (.error provider.failure)
      else .done (.ok provider.records)
  else .done (.ok provider.records)

def toProvider (provider : SimulatedProvider) (source : RandomSource ρ) : Provider ρ where
  name := provider.name
  search _ stop :=
    let spread := provider.maxLatency - provider.minLatency
    .act (fun _ state ↦ (source.upTo spread state).2) fun _ state ↦
      let latency := provider.minLatency + (source.upTo spread state).1
      .pause (Duration.ofMillis latency) stop (fun _ ↦ provider.serve source)
        (fun _ ↦ .done (.error .cancelled))

/-- The provider of a file of records, given the text of the file where it can be read. -/
def ofFile (name : String) (contents : Option String) : Except ProviderError SimulatedProvider :=
  match contents with
  | none => .error (.internal "the file cannot be read")
  | some text =>
    match Flight.listOfText? text with
    | none => .error (.invalidResponse "the file holds no list of records")
    | some records => .ok { name, records }

end SimulatedProvider

end FareSearch
