import FareSearch.Proofs.Provider.Slot
import FareSearch.Proofs.Timed.Diary
import FareSearch.Provider.Retry

/-!
# Retries through a limiter

Under a retry policy the calls of a limited provider are kept apart by two waits: the pause of the
policy counts from the end of a call, the interval of the limiter from its beginning. The waits run
at the same time, so the next call begins when the longer one is over.
-/

namespace FareSearch

open Limiter

variable {σ : Type}

/-- The provider with a diary of its calls. -/
def Provider.recorded (provider : Provider σ) : Provider (Diary SearchRequest × σ) where
  name := provider.name
  search request stop := (provider.search request stop).recorded request

/-- Each call begins when the pause after the one before it and the interval since its beginning are
both over. -/
def Spaced (policy : RetryPolicy) (interval : Duration) (diary : Diary SearchRequest) : Prop :=
  ∀ call earlier later, diary[call]? = some earlier → diary[call + 1]? = some later →
    ∃ finish, earlier.finish = some finish ∧
      later.start = max (finish + (policy.backoffFor call).asPause) (earlier.start + interval)

namespace Spaced

variable {policy : RetryPolicy} {interval : Duration} {diary : Diary SearchRequest}

theorem singleton (entry : Span SearchRequest) : Spaced policy interval [entry] := by
  intro call earlier later _ hlater
  simp at hlater

theorem of_append {rest : Diary SearchRequest} (h : Spaced policy interval (diary ++ rest)) :
    Spaced policy interval diary := by
  intro call earlier later hearlier hlater
  have hlength : call + 1 < diary.length := (List.getElem?_eq_some_iff.mp hlater).1
  refine h call earlier later ?_ ?_
  · rw [List.getElem?_append_left (by omega), hearlier]
  · rw [List.getElem?_append_left hlength, hlater]

theorem concat {last entry : Span SearchRequest} {finish : ℕ}
    (h : Spaced policy interval (diary ++ [last])) (hfinish : last.finish = some finish)
    (hstart : entry.start =
      max (finish + (policy.backoffFor diary.length).asPause) (last.start + interval)) :
    Spaced policy interval (diary ++ [last] ++ [entry]) := by
  intro call earlier later hearlier hlater
  have hlength : call + 1 < (diary ++ [last] ++ [entry]).length :=
    (List.getElem?_eq_some_iff.mp hlater).1
  rw [List.length_append, List.length_singleton] at hlength
  rw [List.getElem?_append_left (by omega)] at hearlier
  rcases Nat.lt_succ_iff_lt_or_eq.mp hlength with hbefore | hlast
  · rw [List.getElem?_append_left hbefore] at hlater
    exact h call earlier later hearlier hlater
  · rw [hlast, List.getElem?_concat_length] at hlater
    rw [List.length_append, List.length_singleton, Nat.add_right_cancel_iff] at hlast
    rw [hlast, List.getElem?_concat_length] at hearlier
    cases hearlier
    cases hlater
    exact ⟨finish, hfinish, hlast ▸ hstart⟩

end Spaced

section Calls

variable {provider : Provider σ} {policy : RetryPolicy} {interval now : ℕ} {request : SearchRequest}
  {stop : StopSignal} {claim : Claim} {diary : Diary SearchRequest} {state : σ}

/-- The next call is spaced whenever it begins at the next slot. -/
def NextSpaced (policy : RetryPolicy) (interval : Duration) (now : Instant) (claim : Claim)
    (diary : Diary SearchRequest) : Prop :=
  ∀ entry, entry.start = max now (opensAt interval claim) →
    Spaced policy interval (diary ++ [entry])

theorem NextSpaced.passes (h : NextSpaced policy interval now claim diary)
    {final : Claim × Diary SearchRequest × σ}
    (hpasses : ((provider.recorded.limited interval).search request stop).Passes now
      (claim, diary, state) final) : Spaced policy interval final.2.1 := by
  rcases Task.Passes.of_recorded (Provider.limited_passes hpasses) with
    hbefore | hopen | ⟨_, _, _, -, hclosed⟩
  · rw [hbefore]
    exact (h ⟨request, _, none⟩ rfl).of_append
  · rw [hopen]
    exact h _ rfl
  · rw [hclosed]
    exact h _ rfl

/-- A call that comes to a transient error is entered in the diary, and the call after it is spaced
once the pause of the policy is over. -/
theorem NextSpaced.next (h : NextSpaced policy interval now claim diary) {reason : String}
    {finish : ℕ} {after : Claim × Diary SearchRequest × σ}
    (hrun : ((provider.recorded.limited interval).search request stop).run? now
      (claim, diary, state) = some (finish, .answered (.error (.transient reason)), after)) :
    after.2.1.length = diary.length + 1 ∧
      NextSpaced policy interval (finish + (policy.backoffFor diary.length).asPause) after.1
        after.2.1 := by
  rcases Provider.limited_run provider.recorded interval request stop now claim (diary, state) with
    hmade | ⟨given, -, hcancelled⟩
  · rw [hmade] at hrun
    obtain ⟨⟨ended, _, _⟩, hcall, hcourse⟩ := Option.map_eq_some_iff.mp hrun
    cases hcourse
    obtain ⟨inner, hinner, rfl⟩ := Task.exists_run_of_recorded hcall
    have hstart := Task.le_of_run hinner
    refine ⟨List.length_append, fun entry hentry ↦ (h ⟨request, _, some ended⟩ rfl).concat rfl ?_⟩
    rw [hentry, max_opensAt_claimAfter (Nat.le_trans hstart (Nat.le_add_right _ _))]
  · rw [hcancelled] at hrun
    cases hrun

theorem spaced_of_attempts {final : Claim × Diary SearchRequest × σ} (retries : ℕ)
    (h : NextSpaced policy interval now claim diary)
    (hpasses : (policy.attempts stop
      (fun _ ↦ (provider.recorded.limited interval).search request stop) diary.length
        retries).Passes now (claim, diary, state) final) :
    Spaced policy interval final.2.1 := by
  -- What a pause leads to is again a series of attempts, before which the next call is spaced.
  induction retries generalizing now claim diary state with
  | zero => exact h.passes hpasses
  | succ retries ih =>
    rw [RetryPolicy.attempts] at hpasses
    rcases hpasses.of_bind with hcall | ⟨finish, result, middle, hrun, hrest⟩
    · exact h.passes hcall
    · have hmiddle : Spaced policy interval middle.2.1 := h.passes (Task.passes_of_run hrun)
      split at hrest
      next reason =>
        obtain ⟨hlength, hnext⟩ := h.next hrun
        rcases hrest.of_pause with rfl | hretry | ⟨later, hstopped⟩
        · exact hmiddle
        · rw [← hlength] at hretry
          exact ih hnext hretry
        · rw [hstopped.of_done]
          exact hmiddle
      next =>
        rw [hrest.of_done]
        exact hmiddle

end Calls

/-- The calls of a limited provider under a retry policy: each begins when the pause since the end
of the one before it and the interval since the beginning of that one are both over. The pause is
the backoff itself where its timer is exact. -/
theorem retriedCalls_spaced (provider : Provider σ) (policy : RetryPolicy) (interval : Duration)
    (request : SearchRequest) (stop : StopSignal) (start : Instant) (claim : Claim) (state : σ)
    {final : Claim × Diary SearchRequest × σ}
    (h : (((provider.recorded.limited interval).retrying policy).search request stop).Passes start
      (claim, [], state) final) {call : ℕ} {earlier later : Span SearchRequest}
    (hearlier : final.2.1[call]? = some earlier) (hlater : final.2.1[call + 1]? = some later) :
    ∃ finish, earlier.finish = some finish ∧
      later.start = max (finish + (policy.backoffFor call).asPause) (earlier.start + interval) ∧
      ((policy.backoffFor call).asPause = policy.backoffFor call →
        later.start = max (finish + policy.backoffFor call) (earlier.start + interval)) := by
  have hfirst : NextSpaced policy interval start claim [] := fun entry _ ↦ .singleton entry
  have hspaced : Spaced policy interval final.2.1 := spaced_of_attempts policy.maxRetries hfirst h
  obtain ⟨finish, hfinish, hstart⟩ := hspaced call earlier later hearlier hlater
  exact ⟨finish, hfinish, hstart, fun hexact ↦ hexact ▸ hstart⟩

/-- A provider that is busy at its first calls and has no flights after that. -/
def flakyProvider (busy : ℕ) : Provider ℕ where
  name := "Flaky"
  search _ _ :=
    .act (fun _ calls ↦ calls + 1) fun _ calls ↦
      .done (if calls < busy then .error (.transient "busy") else .ok [])

def baliInDecember : SearchRequest where
  origin := "CGK"
  destination := "DPS"
  date := ⟨2025, 12, 16, by decide⟩
  passengers := 1
  cabinClass := "economy"

/-- The first retry waits for the limiter, the second one for its backoff. -/
def flakyDiary : Diary SearchRequest :=
  [0, Duration.ofMillis 100, Duration.ofMillis 260].map fun instant ↦
    ⟨baliInDecember, instant, some instant⟩

theorem retriedCalls_spaced_flaky :
    (((((flakyProvider 2).recorded.limited (Duration.ofMillis 100)).retrying {}).search
        baliInDecember none).Passes 0 (none, [], 0)
          (some (Duration.ofMillis 260), flakyDiary, 3)) ∧
      ∃ finish, some (Duration.ofMillis 100) = some finish ∧
        Duration.ofMillis 260 =
          max (finish + ({} : RetryPolicy).backoffFor 1)
            (Duration.ofMillis 100 + Duration.ofMillis 100) := by
  have hrun :
      ((((flakyProvider 2).recorded.limited (Duration.ofMillis 100)).retrying {}).search
        baliInDecember none).run? 0 (none, [], 0) =
          some (Duration.ofMillis 260, .answered (.ok []),
            (some (Duration.ofMillis 260), flakyDiary, 3)) := rfl
  have hpasses := Task.passes_of_run hrun
  obtain ⟨finish, hfinish, -, hstart⟩ :=
    @retriedCalls_spaced ℕ (flakyProvider 2) {} (Duration.ofMillis 100) baliInDecember none 0 none 0
      _ hpasses 1 _ _ rfl rfl
  exact ⟨hpasses, finish, hfinish, hstart rfl⟩

end FareSearch
