import FareSearch.Provider.Basic

/-!
# Rate limiting

A limiter keeps a least interval between the calls that pass it. It remembers the last claim; the
next slot is free one interval later. A caller claims a free slot at once, even if it was told to
stop; otherwise it waits for the slot, claims it if nobody else did, and claims none if it is told
to stop before the slot is free. An interval of zero limits nothing.
-/

namespace FareSearch

/-- When the last slot was claimed. -/
abbrev Claim := Option Instant

namespace Limiter

/-- The instant from which a slot is free. -/
def freeFrom (interval : Duration) (claim : Claim) : Instant :=
  match claim with
  | none => 0
  | some last => last + interval

def isFree (interval : Duration) (claim : Claim) (now : Instant) : Bool :=
  freeFrom interval claim ≤ now

theorem ne_zero_and_isFree {interval : Duration} (h : 0 < interval) (claim : Claim)
    (now : Instant) :
    (interval ≠ 0 && isFree interval claim now) = isFree interval claim now := by
  simp [Nat.ne_of_gt h]

theorem eq_zero_or_isFree {interval : Duration} (h : 0 < interval) (claim : Claim)
    (now : Instant) :
    (interval = 0 || isFree interval claim now) = isFree interval claim now := by
  simp [Nat.ne_of_gt h]

/-- Waits for a slot that is not free yet. -/
def waitForSlot {α : Type} (interval : Duration) (stop : StopSignal)
    (granted stopped : Instant → Task Claim α) : Task Claim α :=
  .await (fun claim ↦ earlier stop (some (freeFrom interval claim)))
    (fun now claim ↦ if isFree interval claim now then some now else claim)
    (fun now claim ↦ if isFree interval claim now then granted now else stopped now)

/-- Claims the next slot and goes on, unless the stop signal is given before the slot is free. -/
def enter {α : Type} (interval : Duration) (stop : StopSignal)
    (granted stopped : Instant → Task Claim α) : Task Claim α :=
  .act
    (fun now claim ↦
      if interval ≠ 0 && isFree interval claim now then some now else claim)
    (fun now claim ↦
      if interval = 0 || isFree interval claim now then granted now
      else waitForSlot interval stop granted stopped)

/-- Waits for a slot, as a task that tells when it was granted. -/
def slot (interval : Duration) (stop : StopSignal) : Task Claim (Except ProviderError Instant) :=
  enter interval stop (fun now ↦ .done (.ok now)) (fun _ ↦ .done (.error .cancelled))

end Limiter

/-- The provider behind a limiter of its own. -/
def Provider.limited {σ : Type} (interval : Duration) (provider : Provider σ) :
    Provider (Claim × σ) where
  name := provider.name
  search request stop :=
    ((Limiter.slot interval stop).focus Prod.fst fun claim state ↦ (claim, state.2)).bind fun
      | .ok _ => (provider.search request stop).focus Prod.snd fun inner state ↦ (state.1, inner)
      | .error error => .done (.error error)

end FareSearch
