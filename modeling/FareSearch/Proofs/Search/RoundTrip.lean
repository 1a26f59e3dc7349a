import FareSearch.Proofs.Criteria.WayBack
import FareSearch.Proofs.Search.Offers
import FareSearch.Proofs.Search.Passage

/-!
# A round trip is two one-way searches

The legs of a round trip are asked for one after the other, the second with a request and with time
windows of its own. Each of them is the course of a search without a way back: a passage of the
round trip splits into the passages of two such searches. What it finds on a leg is what any search
for that leg alone finds if the providers come to the same final results, and a provider fails in it
if it fails in both.
-/

namespace FareSearch.SearchService

variable {σ : Type} {service : SearchService σ} {criteria : SearchCriteria} {stop : StopSignal}
  {start now : Instant} {results : FinalResults} {shared : SharedState σ}

variable (service) in
/-- A search that asked its providers has come to an outcome. -/
structure Completed (criteria : SearchCriteria) (stop : StopSignal) (start : Instant)
    (results : FinalResults) (outcome : SearchOutcome) : Prop where
  passage : service.Passage criteria stop start (.finished (.ok outcome)) results
  asked : outcome.metadata.cacheHit = false

variable (service) in
/-- Whether a search that began at an instant is not given up at another. -/
def InTime (stop : StopSignal) (start now : Instant) : Prop :=
  stop.given now = false ∧ now < start + Duration.ofMillis service.config.requestTimeoutMillis

theorem inTime_of_givenUp {run : SearchRun σ} (h : service.givenUp? now run = none) :
    service.InTime run.stop run.start now := by
  unfold givenUp? at h
  cases hstop : run.stop.given now with
  | true => simp [hstop] at h
  | false =>
    refine ⟨hstop, Nat.lt_of_not_le fun hlate ↦ ?_⟩
    simp [hstop, deadline, hlate] at h

theorem givenUp_of_inTime {run : SearchRun σ} (h : service.InTime run.stop run.start now) :
    service.givenUp? now run = none := by
  have hdeadline : ¬service.deadline run ≤ now := Nat.not_le_of_lt h.2
  simp [givenUp?, h.1, hdeadline]

section OneWay

/-- A search that finds nothing stored begins by asking its providers. -/
theorem turn_entering (hnow : stop.given now = false) :
    (service.turn now { criteria, stop, start } { states := [] }).1 =
      (service.ask now { criteria, stop, start } { states := [] }).1 := by
  simp [turn, hnow, enter, Cache.get, Cache.peek?, Cache.lookup?, Cache.evict]

theorem Passage.asks (hnow : service.InTime stop start now) (hproviders : service.providers ≠ []) :
    service.Passage criteria stop start
      (.outbound (service.fanOut.calls criteria.outboundRequest stop now)) {} := by
  have passage : service.Passage criteria stop start
      (service.turn now { criteria, stop, start } { states := [] }).1 {} :=
    Passage.begins.turns now { states := [] }
  rwa [turn_entering hnow.1, ask_of_ne_nil hproviders hnow.2] at passage

theorem completed_of_no_providers (hreturn : criteria.returnDate = none)
    (hnow : stop.given now = false) (hproviders : service.providers = []) :
    ∃ outcome, service.Completed criteria stop start {} outcome := by
  have passage : service.Passage criteria stop start
      (service.turn now { criteria, stop, start } { states := [] }).1 {} :=
    Passage.begins.turns now { states := [] }
  have hrequest : criteria.returnRequest? = none := by
    rw [SearchCriteria.returnRequest?, hreturn, Option.map_none]
  rw [turn_entering hnow, ask_of_isEmpty hproviders, afterOutbound, hrequest] at passage
  exact ⟨_, passage, rfl⟩

variable {calls : List (Task σ Answer)}

theorem Passage.waits (passage : service.Passage criteria stop start (.outbound calls) {})
    (hnow : service.InTime stop start now)
    (hjoined : Crowd.allEnded (Crowd.advanceEach now calls shared.states).1 = false) :
    service.Passage criteria stop start
      (.outbound (Crowd.advanceEach now calls shared.states).1) {} := by
  have hgiven : service.givenUp? now { criteria, stop, start, stage := .outbound calls } = none :=
    givenUp_of_inTime hnow
  have hturned := passage.turns now shared
  simpa [turn, awaitCalls, resultsAfter, endedLeg?, hgiven, hjoined] using hturned

theorem Passage.completes (passage : service.Passage criteria stop start (.outbound calls) {})
    (hreturn : criteria.returnDate = none) (hnow : service.InTime stop start now)
    (hjoined : Crowd.allEnded (Crowd.advanceEach now calls shared.states).1 = true) :
    ∃ outcome, service.Completed criteria stop start
      { outbound := (Crowd.advanceEach now calls shared.states).1.map service.fanOut.result }
      outcome := by
  have hgiven : service.givenUp? now { criteria, stop, start, stage := .outbound calls } = none :=
    givenUp_of_inTime hnow
  have hrequest : criteria.returnRequest? = none := by
    rw [SearchCriteria.returnRequest?, hreturn, Option.map_none]
  have hturned := passage.turns now shared
  simp only [turn, awaitCalls, resultsAfter, endedLeg?, hgiven, hjoined, afterOutbound, hrequest,
    complete, Option.isNone_none, Bool.true_and, if_true, Option.getD_some] at hturned
  exact ⟨_, hturned, rfl⟩

end OneWay

section Legs

variable (service) in
/-- What the passage of a round trip contains: as far as its legs have come, each of them is the
passage of a search for that leg alone. -/
def Splits (criteria : SearchCriteria) (date : Date) (stop : StopSignal) (start : Instant)
    (results : FinalResults) : Stage σ → Prop
  | .entering => results = {}
  | .outbound calls =>
    results = {} ∧ service.Passage criteria.oneWay stop start (.outbound calls) {}
  | .inbound _ _ calls =>
    (∃ outcome, service.Completed criteria.oneWay stop start
      { outbound := results.outbound } outcome) ∧
      service.Passage (criteria.wayBack date) stop start (.outbound calls) {}
  | .finished (.ok outcome) =>
    outcome.metadata.cacheHit = true ∨
      (∃ out, service.Completed criteria.oneWay stop start { outbound := results.outbound } out) ∧
        ∃ back, service.Completed (criteria.wayBack date) stop start
          { outbound := results.inbound } back
  | .finished (.error _) => True

variable {date : Date} (hdate : criteria.returnDate = some date)

include hdate in
/-- With the outbound leg completed alone, the way back begins as a search alone begins. -/
theorem splits_afterOutbound (stage : Stage σ) (outbound : LegResult)
    (hcompleted : ∃ outcome, service.Completed criteria.oneWay stop start
      { outbound := results.outbound } outcome)
    (hinbound : results.inbound = []) (hstop : stop.given now = false)
    (hnow : service.providers ≠ [] → service.InTime stop start now) :
    service.Splits criteria date stop start results
      (service.afterOutbound now { criteria, stop, start, stage } outbound shared).1 := by
  have hrequest : criteria.returnRequest? = some (criteria.wayBack date).outboundRequest :=
    SearchCriteria.returnRequest?_eq hdate
  by_cases hproviders : service.providers = []
  · rw [afterOutbound_of_isEmpty hproviders hrequest]
    refine .inr ⟨hcompleted, ?_⟩
    rw [hinbound]
    exact completed_of_no_providers rfl hstop hproviders
  · rw [afterOutbound_of_ne_nil hproviders hrequest]
    exact ⟨hcompleted, Passage.asks (hnow hproviders) hproviders⟩

include hdate in
theorem splits_ask (hstop : stop.given now = false) :
    service.Splits criteria date stop start {}
      (service.ask now { criteria, stop, start } shared).1 := by
  by_cases hproviders : service.providers = []
  · rw [ask_of_isEmpty hproviders]
    exact splits_afterOutbound hdate .entering _
      (completed_of_no_providers rfl hstop hproviders) rfl hstop (absurd hproviders)
  · by_cases hdeadline : service.deadline { criteria, stop, start } ≤ now
    · rw [ask_of_deadline hproviders hdeadline]
      trivial
    · have hnow : service.InTime stop start now := ⟨hstop, Nat.lt_of_not_le hdeadline⟩
      rw [ask_of_ne_nil hproviders hnow.2]
      exact ⟨rfl, Passage.asks hnow hproviders⟩

include hdate in
theorem splits_entering :
    service.Splits criteria date stop start {}
      (service.turn now { criteria, stop, start } shared).1 := by
  cases hstop : stop.given now with
  | true => simp [turn, hstop, Splits]
  | false =>
    rcases hfound : shared.cache.get criteria.cacheKey shared.cacheNow with ⟨found, cache⟩
    cases found with
    | some outcome => simp [turn, hstop, enter, hfound, Splits, SearchOutcome.replayed]
    | none =>
      simp only [turn, hstop, enter, hfound]
      exact splits_ask hdate hstop

include hdate in
theorem Passage.splits {stage : Stage σ}
    (passage : service.Passage criteria stop start stage results) :
    service.Splits criteria date stop start results stage := by
  induction passage with
  | begins => exact rfl
  | @turns stage results passage now shared ih =>
    cases stage with
    | finished result => exact ih
    | entering =>
      obtain rfl : results = {} := ih
      exact splits_entering hdate
    | outbound calls =>
      obtain ⟨rfl, ih⟩ := ih
      apply awaitCalls_elim (motive := fun leg stage ↦
        service.Splits criteria date stop start { outbound := leg.getD [] } stage)
      · exact fun _ ↦ trivial
      · intro hgiven hjoined answers after hanswers
        have hnow : service.InTime stop start now := inTime_of_givenUp hgiven
        have hcompleted := ih.completes rfl hnow hjoined
        rw [hanswers] at hcompleted
        exact splits_afterOutbound hdate _ _ hcompleted rfl hnow.1 fun _ ↦ hnow
      · exact fun hgiven hjoined ↦ ⟨rfl, ih.waits (inTime_of_givenUp hgiven) hjoined⟩
    | inbound outbound request calls =>
      obtain ⟨hcompleted, ih⟩ := ih
      apply awaitCalls_elim (motive := fun leg stage ↦ service.Splits criteria date stop start
        { results with inbound := leg.getD results.inbound } stage)
      · exact fun _ ↦ trivial
      · intro hgiven hjoined answers after hanswers
        have hback := ih.completes rfl (inTime_of_givenUp hgiven) hjoined
        rw [hanswers] at hback
        exact .inr ⟨hcompleted, hback⟩
      · exact fun hgiven hjoined ↦ ⟨hcompleted, ih.waits (inTime_of_givenUp hgiven) hjoined⟩

include hdate in
/-- The outcome of a round trip and the outcomes of its legs alone. -/
theorem Completed.splits {outcome : SearchOutcome}
    (trip : service.Completed criteria stop start results outcome) :
    (∃ out, service.Completed criteria.oneWay stop start { outbound := results.outbound } out) ∧
      ∃ back, service.Completed (criteria.wayBack date) stop start
        { outbound := results.inbound } back := by
  refine (trip.passage.splits hdate).resolve_left ?_
  rw [trip.asked]
  exact Bool.false_ne_true

end Legs

/-! ## Providers that answer by the request -/

/-- A search in which every provider came to the final result that belongs to the request. -/
def Yields (service : SearchService σ) (final : SearchRequest → List Answer)
    (criteria : SearchCriteria) (stop : StopSignal) (start : Instant) (outcome : SearchOutcome) :
    Prop :=
  ∃ results, service.Completed criteria stop start results outcome ∧
    results.outbound = final criteria.outboundRequest ∧
    ∀ request, criteria.returnRequest? = some request → results.inbound = final request

variable {final : SearchRequest → List Answer} {date : Date} {outcome : SearchOutcome}

theorem Yields.exists_eq_assemble (h : service.Yields final criteria stop start outcome) :
    ∃ elapsedMillis, outcome =
      SearchOutcome.assemble criteria service.names
        (criteria.outboundResult service.weights
          (service.named (final criteria.outboundRequest)))
        (criteria.returnRequest?.map fun request ↦
          criteria.returnResult request service.weights (service.named (final request)))
        elapsedMillis := by
  obtain ⟨results, ⟨passage, hasked⟩, houtbound, hinbound⟩ := h
  obtain ⟨elapsed, houtcome⟩ := passage.exists_eq_outcomeFrom hasked
  refine ⟨elapsed, houtcome.trans ?_⟩
  unfold outcomeFrom
  rw [houtbound]
  cases hrequest : criteria.returnRequest? with
  | none => rfl
  | some request => rw [Option.map_some, Option.map_some, hinbound request hrequest]

/-- Who fails on both legs is who fails on each leg alone. -/
theorem mem_failedProviders_both {names : List String} {outbound inbound : LegResult}
    {name : String} :
    name ∈ SearchOutcome.failedProviders names outbound (some inbound) ↔
      name ∈ SearchOutcome.failedProviders names outbound none ∧
        name ∈ SearchOutcome.failedProviders names inbound none := by
  simp only [SearchOutcome.failedProviders, List.mem_filter, Option.any_some, Option.any_none,
    Bool.or_false, Bool.not_or, Bool.and_eq_true]
  tauto

theorem roundTrip_eq_oneWays {trip : SearchOutcome} (hchecked : criteria.Checked)
    (hdate : criteria.returnDate = some date)
    (htrip : service.Yields final criteria stop start trip) :
    (criteria.wayBack date).draft.build = .ok (criteria.wayBack date) ∧
      (∃ out, service.Yields final criteria.oneWay stop start out) ∧
      (∃ back, service.Yields final (criteria.wayBack date) stop start back) ∧
      ∀ outStop outStart out backStop backStart back,
        service.Yields final criteria.oneWay outStop outStart out →
        service.Yields final (criteria.wayBack date) backStop backStart back →
        trip.flights = out.flights ∧ trip.returnFlights = back.flights ∧
          trip.metadata.totalResults = out.metadata.totalResults + back.metadata.totalResults ∧
          ∀ name, name ∈ trip.metadata.failedProviders ↔
            name ∈ out.metadata.failedProviders ∧ name ∈ back.metadata.failedProviders := by
  have hrequest : criteria.returnRequest? = some (criteria.wayBack date).outboundRequest :=
    SearchCriteria.returnRequest?_eq hdate
  refine ⟨(hchecked.normal.wayBack date).build_draft, ?_, ?_, ?_⟩
  · obtain ⟨results, hcompleted, houtbound, -⟩ := htrip
    obtain ⟨⟨out, hout⟩, -⟩ := hcompleted.splits hdate
    exact ⟨out, _, hout, houtbound, fun request hnone ↦ by cases hnone⟩
  · obtain ⟨results, hcompleted, -, hinbound⟩ := htrip
    obtain ⟨-, back, hback⟩ := hcompleted.splits hdate
    exact ⟨back, _, hback, hinbound _ hrequest, fun request hnone ↦ by cases hnone⟩
  · intro outStop outStart out backStop backStart back hout hback
    obtain ⟨elapsed, rfl⟩ := htrip.exists_eq_assemble
    obtain ⟨outElapsed, rfl⟩ := hout.exists_eq_assemble
    obtain ⟨backElapsed, rfl⟩ := hback.exists_eq_assemble
    rw [hrequest]
    exact ⟨rfl, rfl, rfl, fun name ↦ mem_failedProviders_both⟩

theorem checked_tripCriteria : tripCriteria.Checked :=
  ⟨tripCriteria.draft, by decide +kernel⟩

/-- What the providers of the prompt service answer to every request. -/
def promptAnswers (_ : SearchRequest) : List Answer :=
  [.ok [morningFlight "Garuda" highPrice], .ok [morningFlight "Lion" lowPrice]]

theorem roundTrip_eq_oneWays_prompt :
    ∃ trip out back,
      promptService.Yields promptAnswers tripCriteria none 0 trip ∧
      promptService.Yields promptAnswers tripCriteria.oneWay none 0 out ∧
      promptService.Yields promptAnswers
        (tripCriteria.wayBack ⟨2025, 12, 20, by decide⟩) none 0 back ∧
      trip.flights = out.flights ∧ trip.returnFlights = back.flights := by
  let legs : FinalResults :=
    ⟨promptAnswers tripCriteria.outboundRequest, promptAnswers tripCriteria.outboundRequest⟩
  have hcompleted : promptService.Completed tripCriteria none 0 legs
      (promptService.outcomeFrom tripCriteria legs 0) :=
    { passage := ((Passage.begins.turns 0 { states := [(), ()] }).turns 0
        { states := [(), ()] }).turns 0 { states := [(), ()] }
      asked := rfl }
  have htrip : promptService.Yields promptAnswers tripCriteria none 0
      (promptService.outcomeFrom tripCriteria legs 0) :=
    ⟨legs, hcompleted, rfl, fun _ _ ↦ rfl⟩
  obtain ⟨-, ⟨out, hout⟩, ⟨back, hback⟩, hagree⟩ :=
    roundTrip_eq_oneWays checked_tripCriteria rfl htrip
  obtain ⟨hflights, hreturn, -⟩ := hagree none 0 out none 0 back hout hback
  exact ⟨_, out, back, htrip, hout, hback, hflights, hreturn⟩

end FareSearch.SearchService
