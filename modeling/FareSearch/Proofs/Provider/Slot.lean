import FareSearch.Proofs.Timed.Sequence
import FareSearch.Provider.Limiter

/-!
# One caller at a limiter

A caller by itself is let through as soon as the slot is free, unless it is told to stop before;
then it has claimed nothing. So the provider behind the limiter is called at that instant or not at
all, and until then it is left alone.
-/

namespace FareSearch

namespace Limiter

/-- The instant from which a caller is let through. -/
def opensAt (interval : Duration) (claim : Claim) : Instant :=
  if interval = 0 then 0 else freeFrom interval claim

/-- The claim of a caller that was let through. -/
def claimAfter (interval : Duration) (claim : Claim) (granted : Instant) : Claim :=
  if interval = 0 then claim else some granted

variable {interval now : ℕ} {stop : StopSignal} {claim : Claim}

theorem max_opensAt_claimAfter {granted later : ℕ} (h : granted ≤ later) :
    max later (opensAt interval (claimAfter interval claim granted)) =
      max later (granted + interval) := by
  by_cases hzero : interval = 0
  · subst hzero
    simp [opensAt, h]
  · simp [opensAt, claimAfter, hzero, freeFrom]

/-- A wait by itself ends when the slot is free or when it is cut by the stop signal. -/
theorem run_waitForSlot {α : Type} (stop : StopSignal) (granted stopped : Instant → Task Claim α)
    (htaken : isFree interval claim now = false) :
    (waitForSlot interval stop granted stopped).run? now claim =
        (granted (freeFrom interval claim)).run? (freeFrom interval claim)
          (some (freeFrom interval claim)) ∨
      ∃ given, stop = some given ∧
        (waitForSlot interval stop granted stopped).run? now claim =
          (stopped (max now given)).run? (max now given) claim := by
  have hlater : now < freeFrom interval claim := by simpa [isFree] using htaken
  have hfree : isFree interval claim (freeFrom interval claim) = true := by simp [isFree]
  cases stop with
  | none =>
    left
    rw [waitForSlot, Task.run?, earlier]
    simp [Nat.max_eq_right (Nat.le_of_lt hlater), hfree]
  | some given =>
    -- At the instant at which the slot is free it is claimed, even if the signal is given then.
    rcases Nat.lt_or_ge given (freeFrom interval claim) with hbefore | hafter
    · right
      have hstill : isFree interval claim (max now given) = false :=
        decide_eq_false (Nat.not_le.mpr (Nat.max_lt.mpr ⟨hlater, hbefore⟩))
      refine ⟨given, rfl, ?_⟩
      rw [waitForSlot, Task.run?, earlier, Nat.min_eq_left (Nat.le_of_lt hbefore)]
      simp [hstill]
    · left
      rw [waitForSlot, Task.run?, earlier, Nat.min_eq_right hafter]
      simp [Nat.max_eq_right (Nat.le_of_lt hlater), hfree]

theorem run_slot (interval now : ℕ) (stop : StopSignal) (claim : Claim) :
    (slot interval stop).run? now claim =
        some (max now (opensAt interval claim), .answered (.ok (max now (opensAt interval claim))),
          claimAfter interval claim (max now (opensAt interval claim))) ∨
      ∃ given, stop = some given ∧
        (slot interval stop).run? now claim =
          some (max now given, .answered (.error .cancelled), claim) := by
  rw [slot, enter, Task.run_act]
  by_cases hzero : interval = 0
  · left
    simp [hzero, opensAt, claimAfter, Task.run?]
  · cases hfree : isFree interval claim now with
    | true =>
      left
      have hle : freeFrom interval claim ≤ now := of_decide_eq_true hfree
      simp [hzero, opensAt, claimAfter, Task.run?, Nat.max_eq_left hle]
    | false =>
      have hlater : now ≤ freeFrom interval claim :=
        Nat.le_of_lt (by simpa [isFree] using hfree)
      simpa [hzero, opensAt, claimAfter, Nat.max_eq_right hlater, hfree, Task.run?] using
        run_waitForSlot stop (fun now ↦ .done (Except.ok now))
          (fun _ ↦ .done (.error ProviderError.cancelled)) hfree

end Limiter

namespace Provider

open Limiter

variable {σ : Type} {provider : Provider σ} {interval now : ℕ} {request : SearchRequest}
  {stop : StopSignal} {claim : Claim} {state : σ}

/-- A call by itself is made when the slot opens, or it is cancelled and leaves everything as it
was. -/
theorem limited_run (provider : Provider σ) (interval : Duration) (request : SearchRequest)
    (stop : StopSignal) (now : ℕ) (claim : Claim) (state : σ) :
    ((provider.limited interval).search request stop).run? now (claim, state) =
        ((provider.search request stop).run? (max now (opensAt interval claim)) state).map
          (fun course ↦ (course.1, course.2.1,
            claimAfter interval claim (max now (opensAt interval claim)), course.2.2)) ∨
      ∃ given, stop = some given ∧
        ((provider.limited interval).search request stop).run? now (claim, state) =
          some (max now given, .answered (.error .cancelled), claim, state) := by
  rcases run_slot interval now stop claim with hgranted | ⟨given, hstop, hcancelled⟩
  · left
    rw [limited, Task.run_bind, Task.run_focus Task.isPart_fst, hgranted]
    exact Task.run_focus Task.isPart_snd _ _ _
  · right
    refine ⟨given, hstop, ?_⟩
    rw [limited, Task.run_bind, Task.run_focus Task.isPart_fst, hcancelled]
    rfl

/-- During a call the provider's state passes what it passes in a call that begins when the slot
opens. -/
theorem limited_passes {final : Claim × σ}
    (h : ((provider.limited interval).search request stop).Passes now (claim, state) final) :
    (provider.search request stop).Passes (max now (opensAt interval claim)) state final.2 := by
  rcases h.of_bind with hwait | ⟨finish, result, middle, hslot, hcall⟩
  · obtain ⟨_, -, rfl⟩ := hwait.of_focus Task.isPart_fst
    exact .begins _ _ _
  · rw [Task.run_focus Task.isPart_fst] at hslot
    rcases run_slot interval now stop claim with hgranted | ⟨given, -, hcancelled⟩
    · rw [hgranted] at hslot
      cases hslot
      obtain ⟨inner, hinner, rfl⟩ := Task.Passes.of_focus Task.isPart_snd hcall
      exact hinner
    · rw [hcancelled] at hslot
      cases hslot
      rw [hcall.of_done]
      exact .begins _ _ _

end Provider

end FareSearch
