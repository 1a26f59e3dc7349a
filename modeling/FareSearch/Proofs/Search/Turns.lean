import FareSearch.Proofs.Timed.Crowd
import FareSearch.Search.Service

/-!
# The turns of one search

A search by itself goes on to its next stage, or it waits for the calls of a leg until the next of
them wakes or its limit has come: the earlier of its stop signal and its deadline. Waiting either
comes to the end of the leg before the limit, or to the limit, where the search is given up.
-/

namespace FareSearch

namespace SearchService

variable {σ : Type} (service : SearchService σ)

/-- The instant at which a search is given up at the latest. -/
def limit (run : SearchRun σ) : ℕ :=
  match run.stop with
  | none => service.deadline run
  | some given => min given (service.deadline run)

/-- Why a search is given up at its limit. -/
def limitError (run : SearchRun σ) : SearchError :=
  if run.stop.given (service.limit run) then .cancelled
  else .timedOut service.config.requestTimeoutMillis

theorem earlier_eq_limit (run : SearchRun σ) :
    earlier run.stop (some (service.deadline run)) = some (service.limit run) := by
  unfold limit
  cases run.stop <;> rfl

theorem limit_le_deadline (run : SearchRun σ) :
    service.limit run ≤ service.deadline run := by
  unfold limit
  cases run.stop with
  | none => exact Nat.le_refl _
  | some given => exact Nat.min_le_right _ _

theorem lt_limit_iff {now : ℕ} {run : SearchRun σ} :
    now < service.limit run ↔ run.stop.given now = false ∧ now < service.deadline run := by
  unfold limit
  cases run.stop with
  | none => simp [StopSignal.given]
  | some given =>
    have hopen : StopSignal.given (some given) now = false ↔ now < given := by
      simp [StopSignal.given]
    exact Nat.lt_min.trans (and_congr_left' hopen.symm)

/-- Before its limit a search is not given up. -/
theorem givenUp_of_lt {now : ℕ} {run : SearchRun σ} (h : now < service.limit run) :
    service.givenUp? now run = none := by
  obtain ⟨hstop, hdeadline⟩ := service.lt_limit_iff.mp h
  simp [givenUp?, hstop, Nat.not_le_of_lt hdeadline]

/-- A search that was not stopped by its limit has come to its deadline. -/
theorem limit_eq_deadline {run : SearchRun σ} (h : run.stop.given (service.limit run) = false) :
    service.limit run = service.deadline run := by
  apply Nat.le_antisymm (service.limit_le_deadline run)
  apply Nat.le_of_not_lt
  intro hbefore
  exact Nat.lt_irrefl _ (service.lt_limit_iff.mpr ⟨h, hbefore⟩)

theorem givenUp_limit (run : SearchRun σ) :
    service.givenUp? (service.limit run) run = some (service.limitError run) := by
  unfold givenUp? limitError
  cases hstop : run.stop.given (service.limit run) with
  | true => rw [if_pos rfl, if_pos rfl]
  | false =>
    have hdeadline : service.deadline run ≤ service.limit run :=
      Nat.le_of_eq (service.limit_eq_deadline hstop).symm
    rw [if_neg Bool.false_ne_true, if_neg Bool.false_ne_true, if_pos hdeadline]

/-- The run of a search by itself, gone on with at its next stage. -/
def goOn (fuel : ℕ) (now : Instant) (run : SearchRun σ) (next : Stage σ × SharedState σ) :
    Instant × List (SearchRun σ) × SharedState σ :=
  service.runAll fuel now [{ run with stage := next.1 }] next.2

section Turns

variable {service} {now wake : ℕ} {run : SearchRun σ} {shared after : SharedState σ}
  {stage : Stage σ}

theorem runAll_of_moved (fuel : ℕ) (h : service.turn now run shared = (stage, after, true)) :
    service.runAll (fuel + 1) now [run] shared = service.goOn fuel now run (stage, after) := by
  simp [runAll, turnAll, h, goOn]

theorem runAll_of_waits (fuel : ℕ) (h : service.turn now run shared = (stage, after, false))
    (hwake : service.wake? after { run with stage } = some wake) :
    service.runAll (fuel + 1) now [run] shared =
      service.runAll fuel wake [{ run with stage }] after := by
  have hnext : service.nextWake? after [{ run with stage }] = some wake := by
    rw [nextWake?, List.foldl_cons, List.foldl_nil, hwake]
    rfl
  simp [runAll, turnAll, h, hnext]

/-- A finished search takes no further turn. -/
theorem goOn_finished (fuel now : ℕ) (run : SearchRun σ)
    (result : Except SearchError SearchOutcome) (shared : SharedState σ) :
    service.goOn fuel now run (.finished result, shared) =
      (now, [{ run with stage := .finished result }], shared) := by
  cases fuel with
  | zero => rfl
  | succ fuel => simp [goOn, runAll, turnAll, turn, nextWake?, wake?, earlier]

end Turns

/-- A stage in which a search waits for calls, and what it goes on with once all have ended. -/
structure Waiting (run : SearchRun σ) where
  stage : List (Task σ Answer) → Stage σ
  next : Instant → List ProviderOutcome → SharedState σ → Stage σ × SharedState σ
  turn_eq : ∀ now calls shared, service.turn now { run with stage := stage calls } shared =
    service.awaitCalls now run calls shared stage (next now)
  wake_eq : ∀ calls shared, service.wake? shared { run with stage := stage calls } =
    earlier (some (service.limit run)) (Crowd.wakeEach? calls shared.states)

namespace Waiting

variable {service} {run : SearchRun σ} (waiting : service.Waiting run) {now finish : ℕ}
  {calls ended : List (Task σ Answer)} {states final : List σ} {shared : SharedState σ}

/-- At its limit a waiting search is given up. -/
theorem runAll_limit (fuel : ℕ) :
    service.runAll (fuel + 1) (service.limit run) [{ run with stage := waiting.stage calls }]
        shared =
      (service.limit run, [{ run with stage := .finished (.error (service.limitError run)) }],
        shared) := by
  have hturn := waiting.turn_eq (service.limit run) calls shared
  rw [awaitCalls, service.givenUp_limit run] at hturn
  rw [runAll_of_moved fuel hturn]
  exact goOn_finished fuel _ _ _ _

theorem turn_of_ended (hnow : now < service.limit run)
    (h : Crowd.allEnded (Crowd.advanceEach now calls shared.states).1 = true) :
    service.turn now { run with stage := waiting.stage calls } shared =
      let (calls, states) := Crowd.advanceEach now calls shared.states
      let (stage, after) := waiting.next now (service.outcomes calls) { shared with states }
      (stage, after, true) := by
  rw [waiting.turn_eq, awaitCalls, service.givenUp_of_lt hnow]
  simp [h]

theorem turn_of_waits (hnow : now < service.limit run)
    (h : Crowd.allEnded (Crowd.advanceEach now calls shared.states).1 = false) :
    service.turn now { run with stage := waiting.stage calls } shared =
      let (calls, states) := Crowd.advanceEach now calls shared.states
      (waiting.stage calls, { shared with states }, false) := by
  rw [waiting.turn_eq, awaitCalls, service.givenUp_of_lt hnow]
  simp [h]

/-- A leg that is over before the limit lets the search go on when it is over. Each turn of waiting
costs one unit of fuel and at least one instant, so as much is left over as there was. -/
theorem runAll_of_inTime (spare : ℕ) {fuel : ℕ} (h : Crowd.Runs now calls states finish ended final)
    (hstates : shared.states = states) (hjoined : Crowd.allEnded ended = true)
    (hfinish : finish < service.limit run) (hfuel : service.limit run + spare + 1 ≤ now + fuel) :
    ∃ left, service.limit run + spare ≤ finish + left ∧
      service.runAll fuel now [{ run with stage := waiting.stage calls }] shared =
        service.goOn left finish run
          (waiting.next finish (service.outcomes ended) { shared with states := final }) := by
  induction h generalizing shared fuel with
  | @settled now calls states still =>
    subst hstates
    obtain ⟨left, rfl⟩ := Nat.exists_eq_add_one_of_ne_zero (show fuel ≠ 0 by omega)
    refine ⟨left, by omega, ?_⟩
    exact runAll_of_moved left (waiting.turn_of_ended hfinish hjoined)
  | @goesOn now wake finish calls ended states final next rest ih =>
    subst hstates
    have hlater : now < wake := Crowd.lt_of_wakeEach_advanceEach next
    have hwake : wake < service.limit run := Nat.lt_of_le_of_lt rest.le hfinish
    obtain ⟨fuel, rfl⟩ := Nat.exists_eq_add_one_of_ne_zero (show fuel ≠ 0 by omega)
    have hturn := waiting.turn_of_waits (Nat.lt_trans hlater hwake)
      (Crowd.not_allEnded_of_wakeEach next)
    have hnext : service.wake?
        { shared with states := (Crowd.advanceEach now calls shared.states).2 }
        { run with stage := waiting.stage (Crowd.advanceEach now calls shared.states).1 } =
          some wake := by
      rw [waiting.wake_eq, next, earlier, Nat.min_eq_right (Nat.le_of_lt hwake)]
    obtain ⟨left, hleft, hrun⟩ := @ih
      { shared with states := (Crowd.advanceEach now calls shared.states).2 } fuel rfl hjoined
      hfinish (by omega)
    refine ⟨left, hleft, ?_⟩
    rw [← hrun]
    exact runAll_of_waits fuel hturn hnext

/-- A leg that is not over before the limit ends with the search given up there. -/
theorem runAll_of_late {fuel : ℕ} (h : Crowd.Runs now calls states finish ended final)
    (hstates : shared.states = states)
    (hlate : Crowd.allEnded ended = false ∨ service.limit run ≤ finish)
    (hnow : now ≤ service.limit run) (hfuel : service.limit run < now + fuel) :
    ∃ states, service.runAll fuel now [{ run with stage := waiting.stage calls }] shared =
      (service.limit run, [{ run with stage := .finished (.error (service.limitError run)) }],
        { shared with states }) := by
  obtain ⟨fuel, rfl⟩ := Nat.exists_eq_add_one_of_ne_zero (show fuel ≠ 0 by omega)
  rcases Nat.eq_or_lt_of_le hnow with rfl | hbefore
  · exact ⟨shared.states, waiting.runAll_limit fuel⟩
  induction h generalizing shared fuel with
  | @settled now calls states still =>
    subst hstates
    have hopen : Crowd.allEnded (Crowd.advanceEach now calls shared.states).1 = false :=
      hlate.resolve_right (Nat.not_le_of_lt hbefore)
    have hturn := waiting.turn_of_waits hbefore hopen
    have hnext : service.wake?
        { shared with states := (Crowd.advanceEach now calls shared.states).2 }
        { run with stage := waiting.stage (Crowd.advanceEach now calls shared.states).1 } =
          some (service.limit run) := by
      rw [waiting.wake_eq, still, earlier]
    obtain ⟨fuel, rfl⟩ := Nat.exists_eq_add_one_of_ne_zero (show fuel ≠ 0 by omega)
    refine ⟨(Crowd.advanceEach now calls shared.states).2, ?_⟩
    rw [runAll_of_waits _ hturn hnext]
    exact waiting.runAll_limit fuel
  | @goesOn now wake finish calls ended states final next rest ih =>
    subst hstates
    have hlater : now < wake := Crowd.lt_of_wakeEach_advanceEach next
    have hturn := waiting.turn_of_waits hbefore (Crowd.not_allEnded_of_wakeEach next)
    have hnext : service.wake?
        { shared with states := (Crowd.advanceEach now calls shared.states).2 }
        { run with stage := waiting.stage (Crowd.advanceEach now calls shared.states).1 } =
          some (min (service.limit run) wake) := by
      rw [waiting.wake_eq, next, earlier]
    obtain ⟨fuel, rfl⟩ := Nat.exists_eq_add_one_of_ne_zero (show fuel ≠ 0 by omega)
    rw [runAll_of_waits _ hturn hnext]
    rcases Nat.lt_or_ge wake (service.limit run) with hwake | hwake
    · rw [Nat.min_eq_right (Nat.le_of_lt hwake)]
      exact @ih { shared with states := (Crowd.advanceEach now calls shared.states).2 } rfl hlate
        (Nat.le_of_lt hwake) fuel (by omega) hwake
    · rw [Nat.min_eq_left hwake]
      exact ⟨(Crowd.advanceEach now calls shared.states).2, waiting.runAll_limit fuel⟩

end Waiting

/-- Waiting for the outbound leg. -/
def awaitOutbound (run : SearchRun σ) : service.Waiting run where
  stage := .outbound
  next now outcomes shared :=
    service.afterOutbound now run (run.criteria.outboundResult service.weights outcomes) shared
  turn_eq _ _ _ := rfl
  wake_eq calls shared := by rw [← service.earlier_eq_limit run]; rfl

/-- Waiting for the way back. -/
def awaitInbound (run : SearchRun σ) (outbound : LegResult) (request : SearchRequest) :
    service.Waiting run where
  stage := .inbound outbound request
  next now outcomes shared :=
    service.complete now run outbound
      (some (run.criteria.returnResult request service.weights outcomes)) shared
  turn_eq _ _ _ := rfl
  wake_eq calls shared := by rw [← service.earlier_eq_limit run]; rfl

end SearchService

end FareSearch
