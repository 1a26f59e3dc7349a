import FareSearch.Proofs.Search.Isolation
import FareSearch.Search.Service
import Mathlib.Data.List.Forall2

/-!
# The passage of a search among others

A search that runs beside others takes one turn after another. Between its turns time passes and the
others change what they share with it, so nothing is assumed of the instants of its turns and of
what it finds there. Whatever that is, the outcome of a search that asked its providers is assembled
from their final results on its legs.
-/

namespace FareSearch

/-- The final results of the legs that a search has behind it, in the order of the providers. -/
structure FinalResults where
  outbound : List Answer := []
  inbound : List Answer := []

namespace SearchService

variable {σ : Type} (service : SearchService σ)

/-- The results of a leg whose calls all end with a turn of a search. -/
def endedLeg? (now : Instant) (run : SearchRun σ) (calls : List (Task σ Answer))
    (shared : SharedState σ) : Option (List Answer) :=
  let ended := (Crowd.advanceEach now calls shared.states).1
  if (service.givenUp? now run).isNone && Crowd.allEnded ended then
    some (ended.map service.fanOut.result)
  else none

/-- The final results after a turn of a search. -/
def resultsAfter (now : Instant) (run : SearchRun σ) (shared : SharedState σ)
    (results : FinalResults) : FinalResults :=
  match run.stage with
  | .outbound calls =>
    { results with outbound := (service.endedLeg? now run calls shared).getD results.outbound }
  | .inbound _ _ calls =>
    { results with inbound := (service.endedLeg? now run calls shared).getD results.inbound }
  | _ => results

/-- The stages of a search, turn by turn, with the final results it has behind it. Each turn may
come at any instant and find anything shared. -/
inductive Passage (criteria : SearchCriteria) (stop : StopSignal) (start : Instant) :
    Stage σ → FinalResults → Prop
  | begins : Passage criteria stop start .entering {}
  | turns {stage : Stage σ} {results : FinalResults}
      (passage : Passage criteria stop start stage results) (now : Instant)
      (shared : SharedState σ) :
      Passage criteria stop start (service.turn now { criteria, stop, start, stage } shared).1
        (service.resultsAfter now { criteria, stop, start, stage } shared results)

/-- Final results under the names of the providers. -/
def named (results : List Answer) : List ProviderOutcome :=
  List.zipWith ProviderOutcome.mk service.names results

/-- The outcome that final results come to. -/
def outcomeFrom (criteria : SearchCriteria) (results : FinalResults) (elapsedMillis : ℕ) :
    SearchOutcome :=
  SearchOutcome.assemble criteria service.names
    (criteria.outboundResult service.weights (service.named results.outbound))
    (criteria.returnRequest?.map fun request ↦
      criteria.returnResult request service.weights (service.named results.inbound))
    elapsedMillis

/-- What a search has at a stage. -/
def Holds (criteria : SearchCriteria) (results : FinalResults) : Stage σ → Prop
  | .entering => results = {}
  | .outbound _ => results = {}
  | .inbound outbound request _ =>
    outbound = criteria.outboundResult service.weights (service.named results.outbound) ∧
      criteria.returnRequest? = some request
  | .finished (.ok outcome) =>
    outcome.metadata.cacheHit = true ∨
      ∃ elapsedMillis, outcome = service.outcomeFrom criteria results elapsedMillis
  | .finished (.error _) => True

variable {service} {criteria : SearchCriteria} {stop : StopSignal} {start now : Instant}
  {results : FinalResults} {shared : SharedState σ}

theorem named_nil : service.named [] = [] :=
  List.zipWith_nil_right

theorem outcomes_eq_named (calls : List (Task σ Answer)) :
    service.outcomes calls = service.named (calls.map service.fanOut.result) :=
  service.fanOut.outcomes_eq calls

theorem holds_complete {run : SearchRun σ} (outbound : LegResult) (inbound : Option LegResult)
    (houtbound : outbound =
      run.criteria.outboundResult service.weights (service.named results.outbound))
    (hinbound : inbound = run.criteria.returnRequest?.map fun request ↦
      run.criteria.returnResult request service.weights (service.named results.inbound)) :
    service.Holds run.criteria results
      (service.complete now run outbound inbound shared).1 := by
  refine .inr ⟨elapsedMillis run now, ?_⟩
  rw [houtbound, hinbound]
  rfl

/-- After the outbound leg a search waits for the way back, or it is complete: there is no way back,
or nobody to ask for it. -/
theorem holds_afterOutbound {run : SearchRun σ} (outbound : LegResult)
    (houtbound : outbound =
      run.criteria.outboundResult service.weights (service.named results.outbound))
    (hnone : results.inbound = []) :
    service.Holds run.criteria results (service.afterOutbound now run outbound shared).1 := by
  unfold afterOutbound
  cases hrequest : run.criteria.returnRequest? with
  | none =>
    apply holds_complete outbound none houtbound
    rw [hrequest, Option.map_none]
  | some request =>
    dsimp only
    split
    · apply holds_complete outbound _ houtbound
      rw [hrequest, Option.map_some, hnone, named_nil]
    · exact ⟨houtbound, hrequest⟩

theorem holds_enter {run : SearchRun σ} (hnone : results = {}) :
    service.Holds run.criteria results (service.enter now run shared).1 := by
  unfold enter
  rcases hfound : shared.cache.get run.criteria.cacheKey shared.cacheNow with ⟨found, cache⟩
  cases found with
  | some outcome => exact .inl rfl
  | none =>
    dsimp only
    unfold ask
    dsimp only
    split
    · apply holds_afterOutbound
      · rw [hnone, named_nil]
      · rw [hnone]
    · split
      · trivial
      · exact hnone

/-- A turn of waiting gives the search up, ends the leg or lets it wait on. -/
theorem awaitCalls_elim {motive : Option (List Answer) → Stage σ → Prop} {run : SearchRun σ}
    {calls : List (Task σ Answer)} {waiting : List (Task σ Answer) → Stage σ}
    {ended : List ProviderOutcome → SharedState σ → Stage σ × SharedState σ}
    (hgivenUp : ∀ error, motive none (.finished (.error error)))
    (hended : service.givenUp? now run = none →
      Crowd.allEnded (Crowd.advanceEach now calls shared.states).1 = true →
      ∀ answers after,
        (Crowd.advanceEach now calls shared.states).1.map service.fanOut.result = answers →
        motive (some answers) (ended (service.named answers) after).1)
    (hwaiting : service.givenUp? now run = none →
      Crowd.allEnded (Crowd.advanceEach now calls shared.states).1 = false →
      motive none (waiting (Crowd.advanceEach now calls shared.states).1)) :
    motive (service.endedLeg? now run calls shared)
      (service.awaitCalls now run calls shared waiting ended).1 := by
  unfold awaitCalls endedLeg?
  cases hgiven : service.givenUp? now run with
  | some error => exact hgivenUp error
  | none =>
    cases hjoined : Crowd.allEnded (Crowd.advanceEach now calls shared.states).1 with
    | true =>
      simp only [hjoined, Option.isNone_none, Bool.true_and, if_true, outcomes_eq_named]
      exact hended hgiven hjoined _ _ rfl
    | false =>
      simp only [hjoined, Option.isNone_none, Bool.true_and]
      exact hwaiting hgiven hjoined

theorem Passage.holds {stage : Stage σ}
    (passage : service.Passage criteria stop start stage results) :
    service.Holds criteria results stage := by
  induction passage with
  | begins => exact rfl
  | @turns stage results passage now shared ih =>
    cases stage with
    | finished result => exact ih
    | entering =>
      unfold turn
      dsimp only
      split
      · trivial
      · exact holds_enter ih
    | outbound calls =>
      have hnone : results.inbound = [] := by rw [show results = {} from ih]
      exact awaitCalls_elim (motive := fun leg stage ↦ service.Holds criteria
          { results with outbound := leg.getD results.outbound } stage)
        (fun _ ↦ trivial) (fun _ _ _ _ _ ↦ holds_afterOutbound _ rfl hnone) (fun _ _ ↦ ih)
    | inbound outbound request calls =>
      obtain ⟨houtbound, hrequest⟩ := ih
      exact awaitCalls_elim (motive := fun leg stage ↦ service.Holds criteria
          { results with inbound := leg.getD results.inbound } stage)
        (fun _ ↦ trivial)
        (fun _ _ _ _ _ ↦ holds_complete _ _ houtbound (by rw [hrequest]; rfl))
        (fun _ _ ↦ ⟨houtbound, hrequest⟩)

/-- A search that asked its providers has the outcome that their final results come to. -/
theorem Passage.exists_eq_outcomeFrom {outcome : SearchOutcome}
    (passage : service.Passage criteria stop start (.finished (.ok outcome)) results)
    (hasked : outcome.metadata.cacheHit = false) :
    ∃ elapsedMillis, outcome = service.outcomeFrom criteria results elapsedMillis := by
  refine passage.holds.resolve_left ?_
  rw [hasked]
  exact Bool.false_ne_true

section Together

/-- A run is the passage of a search that began at an instant. -/
def Follows (service : SearchService σ) (start : Instant) (search : SearchCriteria × StopSignal)
    (run : SearchRun σ) : Prop :=
  ∃ stage results, run = { criteria := search.1, stop := search.2, start, stage } ∧
    service.Passage search.1 search.2 start stage results

variable {searches : List (SearchCriteria × StopSignal)} {runs : List (SearchRun σ)}

variable (service) in
theorem follows_entering (start : Instant) (searches : List (SearchCriteria × StopSignal)) :
    List.Forall₂ (service.Follows start) searches
      (searches.map fun (criteria, stop) ↦ { criteria, stop, start }) :=
  List.forall₂_map_right_iff.mpr
    (List.forall₂_same.mpr fun _ _ ↦ ⟨.entering, {}, rfl, .begins⟩)

theorem follows_turnAll (h : List.Forall₂ (service.Follows start) searches runs) :
    List.Forall₂ (service.Follows start) searches (service.turnAll now runs shared).1 := by
  induction h generalizing shared with
  | nil => exact .nil
  | @cons search run searches runs hrun hruns ih =>
    obtain ⟨stage, results, rfl, passage⟩ := hrun
    exact .cons ⟨_, _, rfl, passage.turns now shared⟩ ih

theorem follows_runAll (fuel : ℕ) (h : List.Forall₂ (service.Follows start) searches runs) :
    List.Forall₂ (service.Follows start) searches (service.runAll fuel now runs shared).2.1 := by
  induction fuel generalizing now runs shared with
  | zero => exact h
  | succ fuel ih =>
    have hturned : List.Forall₂ (service.Follows start) searches
        (service.turnAll now runs shared).1 := follows_turnAll h
    rw [runAll]
    dsimp only
    split
    · exact ih hturned
    · split
      · exact hturned
      · exact ih hturned

theorem Follows.of_getElem {fuel index : ℕ} {run : SearchRun σ}
    (h : List.Forall₂ (service.Follows start) searches runs)
    (hrun : (service.runAll fuel now runs shared).2.1[index]? = some run) :
    ∃ search, searches[index]? = some search ∧ service.Follows start search run := by
  have hfollows : List.Forall₂ (service.Follows start) searches
      (service.runAll fuel now runs shared).2.1 := follows_runAll fuel h
  obtain ⟨hindex, hget⟩ := List.getElem?_eq_some_iff.mp hrun
  have hsearch : index < searches.length := by rw [hfollows.length_eq]; exact hindex
  rw [← hget]
  exact ⟨searches[index], List.getElem?_eq_getElem hsearch, hfollows.get hsearch hindex⟩

/-- Whatever the searches are that begin together, an outcome of one of them ends its passage. -/
theorem passage_of_searchTogether {index : ℕ} {outcome : SearchOutcome}
    (h : (service.searchTogether start searches shared).2.1[index]? = some (.ok outcome)) :
    ∃ search results, searches[index]? = some search ∧
      service.Passage search.1 search.2 start (.finished (.ok outcome)) results := by
  unfold searchTogether at h
  dsimp only at h
  rw [List.getElem?_map, Option.map_eq_some_iff] at h
  obtain ⟨run, hrun, hresult⟩ := h
  obtain ⟨search, hsearch, stage, results, hstage, passage⟩ :=
    Follows.of_getElem (service.follows_entering start searches) hrun
  have hfinished : stage = .finished (.ok outcome) := by
    rw [hstage] at hresult
    cases stage with
    | finished result => exact congrArg _ hresult
    | _ => cases hresult
  subst hfinished
  exact ⟨search, results, hsearch, passage⟩

end Together

end SearchService

end FareSearch
