import FareSearch.CommandLine.Program
import FareSearch.Proofs.Search.Offers
import FareSearch.Proofs.Search.Passage
import Mathlib.Data.List.Nodup

/-!
# The counts of an outcome

The outcome of a search that looked its criteria up in vain counts each registered provider once. A
provider succeeded if its final result on one of the legs that were run is an answer, and it is
listed as failed otherwise. The names under which the legs keep their results tell the providers
apart, since no two providers share a name.
-/

namespace FareSearch

/-- The final results of the legs that were run. -/
def FinalResults.legs (results : FinalResults) (criteria : SearchCriteria) : List (List Answer) :=
  match criteria.returnRequest? with
  | none => [results.outbound]
  | some _ => [results.outbound, results.inbound]

/-- Whether the provider at a place of the registration answered on a leg that was run. -/
def FinalResults.answered (results : FinalResults) (criteria : SearchCriteria) (place : ℕ) : Bool :=
  (results.legs criteria).any fun leg ↦ leg[place]?.any Except.isOk

namespace SearchService

variable {σ : Type} (service : SearchService σ)

/-- The passage of a search that looked its criteria up in vain, and so asked its providers. -/
inductive MissedPassage (criteria : SearchCriteria) (stop : StopSignal) (start : Instant) :
    Stage σ → FinalResults → Prop
  | misses (now : Instant) (shared : SharedState σ) (notGiven : stop.given now = false)
      (miss : shared.cache.peek? criteria.cacheKey shared.cacheNow = none) :
      MissedPassage criteria stop start (service.turn now { criteria, stop, start } shared).1 {}
  | turns {stage : Stage σ} {results : FinalResults}
      (passage : MissedPassage criteria stop start stage results) (now : Instant)
      (shared : SharedState σ) :
      MissedPassage criteria stop start (service.turn now { criteria, stop, start, stage } shared).1
        (service.resultsAfter now { criteria, stop, start, stage } shared results)

/-- What the metadata of an outcome say about the providers and the offers. -/
structure Accounts (criteria : SearchCriteria) (results : FinalResults) (outcome : SearchOutcome) :
    Prop where
  /-- Every provider came to one final result on each leg that was run. -/
  complete : ∀ leg ∈ results.legs criteria, leg.length = service.providers.length
  queried : outcome.metadata.providersQueried = service.providers.length
  succeeded : outcome.metadata.providersSucceeded =
    (List.range service.providers.length).countP (results.answered criteria)
  /-- The names of all others, in the order of the registration. -/
  failedProviders : outcome.metadata.failedProviders =
    (service.names.zipIdx.filter fun (_, place) ↦ !results.answered criteria place).map Prod.fst
  failedProviders_nodup : outcome.metadata.failedProviders.Nodup
  failed : outcome.metadata.providersFailed = outcome.metadata.failedProviders.length
  balanced : outcome.metadata.providersSucceeded + outcome.metadata.providersFailed =
    outcome.metadata.providersQueried
  totalResults : outcome.metadata.totalResults =
    outcome.flights.length + outcome.returnFlights.length
  asked : outcome.metadata.cacheHit = false

/-- What a search that missed has at a stage: a final result of every provider on each leg that is
over, and a call of every provider on the leg that is not. -/
def Sized (criteria : SearchCriteria) (results : FinalResults) : Stage σ → Prop
  | .entering => False
  | .outbound calls => results.inbound = [] ∧ calls.length = service.providers.length
  | .inbound _ request calls =>
    criteria.returnRequest? = some request ∧
      results.outbound.length = service.providers.length ∧
      calls.length = service.providers.length
  | .finished (.ok outcome) =>
    outcome.metadata.cacheHit = false ∧
      ∀ leg ∈ results.legs criteria, leg.length = service.providers.length
  | .finished (.error _) => True

variable {service} {criteria : SearchCriteria} {stop : StopSignal} {start now : Instant}
  {results : FinalResults} {shared : SharedState σ} {outcome : SearchOutcome}

section Passages

theorem MissedPassage.passage {stage : Stage σ}
    (missed : service.MissedPassage criteria stop start stage results) :
    service.Passage criteria stop start stage results := by
  induction missed with
  | misses now shared notGiven miss => exact Passage.begins.turns now shared
  | turns missed now shared ih => exact ih.turns now shared

/-- A search that has begun missed, or it ended at once: it was given up, or it is a hit. -/
theorem Passage.missed {stage : Stage σ}
    (passage : service.Passage criteria stop start stage results) :
    stage = .entering ∨ (∃ error, stage = .finished (.error error)) ∨
      (∃ outcome, stage = .finished (.ok outcome) ∧ outcome.metadata.cacheHit = true) ∨
      service.MissedPassage criteria stop start stage results := by
  induction passage with
  | begins => exact .inl rfl
  | @turns stage results passage now shared ih =>
    right
    rcases ih with rfl | ⟨error, rfl⟩ | ⟨outcome, rfl, hhit⟩ | missed
    · obtain rfl : results = {} := passage.holds
      cases hstop : stop.given now with
      | true => exact .inl ⟨.cancelled, by simp [turn, hstop]⟩
      | false =>
        cases hfound : shared.cache.peek? criteria.cacheKey shared.cacheNow with
        | some outcome =>
          refine .inr (.inl ⟨outcome.replayed (Duration.toMillis (now - start)), ?_, rfl⟩)
          simp [turn, hstop, enter, Cache.get, hfound, elapsedMillis]
        | none => exact .inr (.inr (.misses now shared hstop hfound))
    · exact .inl ⟨error, rfl⟩
    · exact .inr (.inl ⟨outcome, rfl, hhit⟩)
    · exact .inr (.inr (missed.turns now shared))

theorem length_calls (request : SearchRequest) :
    (service.fanOut.calls request stop now).length = service.providers.length :=
  List.length_map _

theorem sized_afterOutbound {run : SearchRun σ} (outbound : LegResult)
    (houtbound : results.outbound.length = service.providers.length)
    (hinbound : results.inbound = []) :
    service.Sized run.criteria results (service.afterOutbound now run outbound shared).1 := by
  cases hrequest : run.criteria.returnRequest? with
  | none =>
    rw [afterOutbound, hrequest]
    refine ⟨rfl, ?_⟩
    simpa [FinalResults.legs, hrequest] using houtbound
  | some request =>
    by_cases hproviders : service.providers = []
    · rw [afterOutbound_of_isEmpty hproviders hrequest]
      refine ⟨rfl, ?_⟩
      simpa [FinalResults.legs, hrequest, hinbound, hproviders] using houtbound
    · rw [afterOutbound_of_ne_nil hproviders hrequest]
      exact ⟨hrequest, houtbound, length_calls request⟩

/-- A search that looked its criteria up in vain has asked every provider, or there is none. -/
theorem sized_ask {run : SearchRun σ} :
    service.Sized run.criteria {} (service.ask now run shared).1 := by
  by_cases hproviders : service.providers = []
  · rw [ask_of_isEmpty hproviders]
    exact sized_afterOutbound _ (by rw [hproviders]; rfl) rfl
  · by_cases hdeadline : service.deadline run ≤ now
    · rw [ask_of_deadline hproviders hdeadline]
      trivial
    · rw [ask_of_ne_nil hproviders (Nat.lt_of_not_le hdeadline)]
      exact ⟨rfl, length_calls _⟩

theorem MissedPassage.sized {stage : Stage σ}
    (missed : service.MissedPassage criteria stop start stage results) :
    service.Sized criteria results stage := by
  induction missed with
  | misses now shared notGiven miss =>
    have hturn : (service.turn now { criteria, stop, start } shared).1 =
        (service.ask now { criteria, stop, start }
          { shared with cache := shared.cache.evict criteria.cacheKey shared.cacheNow }).1 := by
      simp [turn, notGiven, enter, Cache.get, miss]
    rw [hturn]
    exact sized_ask
  | @turns stage results missed now shared ih =>
    cases stage with
    | entering => exact ih.elim
    | finished result => exact ih
    | outbound calls =>
      obtain ⟨hinbound, hcalls⟩ := ih
      have hadvanced := (Crowd.length_advanceEach now calls shared.states).1.trans hcalls
      apply awaitCalls_elim (motive := fun leg stage ↦ service.Sized criteria
        { results with outbound := leg.getD results.outbound } stage)
      · exact fun _ ↦ trivial
      · intro _ _ answers after hanswers
        have houtbound : answers.length = service.providers.length := by
          rw [← hanswers, List.length_map]
          exact hadvanced
        refine sized_afterOutbound _ ?_ ?_
        · exact houtbound
        · exact hinbound
      · exact fun _ _ ↦ ⟨hinbound, hadvanced⟩
    | inbound outbound request calls =>
      obtain ⟨hrequest, houtbound, hcalls⟩ := ih
      have hadvanced := (Crowd.length_advanceEach now calls shared.states).1.trans hcalls
      apply awaitCalls_elim (motive := fun leg stage ↦ service.Sized criteria
        { results with inbound := leg.getD results.inbound } stage)
      · exact fun _ ↦ trivial
      · intro _ _ answers after hanswers
        refine ⟨rfl, ?_⟩
        have hinbound : answers.length = service.providers.length := by
          rw [← hanswers, List.length_map]
          exact hadvanced
        simp [FinalResults.legs, hrequest, houtbound, hinbound]
      · exact fun _ _ ↦ ⟨hrequest, houtbound, hadvanced⟩

end Passages

section Counting

/-- The names of the providers that answered on a leg. -/
def succeededOf (names : List String) (answers : List Answer) : List String :=
  ((List.zipWith ProviderOutcome.mk names answers).filter ProviderOutcome.isSuccess).map
    (·.provider)

theorem isSuccess_mk (name : String) (answer : Answer) :
    (ProviderOutcome.mk name answer).isSuccess = answer.isOk := by
  cases answer <;> rfl

/-- With distinct names, a provider is among those that answered on a leg if its own result is an
answer. -/
theorem contains_succeededOf {names : List String} {answers : List Answer} {name : String}
    {place : ℕ} (hnames : names.Nodup) (hplace : names[place]? = some name) :
    (succeededOf names answers).contains name = answers[place]?.any Except.isOk := by
  rw [Bool.eq_iff_iff, List.contains_iff_mem, succeededOf, List.mem_map, Option.any_eq_true]
  constructor
  · rintro ⟨outcome, houtcome, hname⟩
    obtain ⟨hmem, hsuccess⟩ := List.mem_filter.mp houtcome
    obtain ⟨other, hother⟩ := List.mem_iff_getElem?.mp hmem
    obtain ⟨otherName, answer, hotherName, hanswer, rfl⟩ :=
      List.getElem?_zipWith_eq_some.mp hother
    obtain rfl : otherName = name := hname
    have hsame : place = other := by
      have hbound : place < names.length := (List.getElem?_eq_some_iff.mp hplace).1
      exact (List.getElem?_inj hbound hnames).mp (hplace.trans hotherName.symm)
    rw [isSuccess_mk] at hsuccess
    exact ⟨answer, by rw [hsame, hanswer], hsuccess⟩
  · rintro ⟨answer, hanswer, hok⟩
    refine ⟨⟨name, answer⟩, ?_, rfl⟩
    rw [List.mem_filter, isSuccess_mk]
    refine ⟨?_, hok⟩
    exact List.mem_of_getElem? (List.getElem?_zipWith_eq_some.mpr ⟨_, _, hplace, hanswer, rfl⟩)

/-- The names that occur in no leg are those of the places without an answer. -/
theorem failedProviders_eq (hnames : service.names.Nodup) {outbound : LegResult}
    {back : SearchRequest → LegResult}
    (houtbound : outbound.succeeded = succeededOf service.names results.outbound)
    (hback : ∀ request, (back request).succeeded = succeededOf service.names results.inbound) :
    SearchOutcome.failedProviders service.names outbound (criteria.returnRequest?.map back) =
      (service.names.zipIdx.filter fun (_, place) ↦ !results.answered criteria place).map
        Prod.fst := by
  unfold SearchOutcome.failedProviders
  rw [← List.zipIdx_map_fst 0 service.names, List.filter_map, List.zipIdx_map_fst]
  congr 1
  apply List.filter_congr
  rintro ⟨name, place⟩ hmem
  have hplace : service.names[place]? = some name := List.mem_zipIdx_iff_getElem?.mp hmem
  have hanswered (answers : List Answer) :
      (succeededOf service.names answers).contains name = answers[place]?.any Except.isOk :=
    contains_succeededOf hnames hplace
  simp only [Function.comp_apply, houtbound, hanswered, FinalResults.answered, FinalResults.legs]
  cases criteria.returnRequest? with
  | none => simp
  | some request =>
    simp only [Option.map_some, Option.any_some, hback, hanswered]
    simp

/-- Of all places, those without an answer are counted as failed and the others as succeeded. -/
theorem countP_answered_add (names : List String) (answered : ℕ → Bool) :
    (List.range names.length).countP answered +
        (names.zipIdx.filter fun (_, place) ↦ !answered place).length = names.length := by
  have hplaces : List.range names.length = names.zipIdx.map Prod.snd := by
    rw [List.zipIdx_map_snd, List.range_eq_range']
  rw [hplaces, List.countP_map, ← List.countP_eq_length_filter]
  calc
    _ = names.zipIdx.length := by
      rw [List.length_eq_countP_add_countP (answered ∘ Prod.snd)]
      congr 2
      funext entry
      simp
    _ = names.length := List.length_zipIdx

end Counting

/-- The counts of a search that looked its criteria up in vain. -/
theorem MissedPassage.accounts (hnames : service.names.Nodup)
    (missed : service.MissedPassage criteria stop start (.finished (.ok outcome)) results) :
    service.Accounts criteria results outcome := by
  obtain ⟨hasked, hcomplete⟩ := missed.sized
  obtain ⟨elapsed, houtcome⟩ := missed.passage.exists_eq_outcomeFrom hasked
  have hlength : service.names.length = service.providers.length := List.length_map _
  have hfailed : outcome.metadata.failedProviders =
      (service.names.zipIdx.filter fun (_, place) ↦ !results.answered criteria place).map
        Prod.fst := by
    rw [houtcome]
    exact failedProviders_eq hnames rfl fun _ ↦ rfl
  have hcount := countP_answered_add service.names (results.answered criteria)
  have hqueried : outcome.metadata.providersQueried = service.names.length := by
    rw [houtcome]
    rfl
  have hlisted : outcome.metadata.providersFailed = outcome.metadata.failedProviders.length := by
    rw [houtcome]
    rfl
  have hsucceeded : outcome.metadata.providersSucceeded =
      (List.range service.providers.length).countP (results.answered criteria) := by
    have hrest : outcome.metadata.providersSucceeded =
        service.names.length - outcome.metadata.failedProviders.length := by
      rw [houtcome]
      rfl
    rw [hrest, hfailed, List.length_map, ← hlength]
    omega
  refine ⟨hcomplete, hqueried.trans hlength, hsucceeded, hfailed, ?_, hlisted, ?_, ?_, hasked⟩
  · have hsublist : outcome.metadata.failedProviders.Sublist service.names := by
      rw [houtcome]
      exact List.filter_sublist
    exact hsublist.nodup hnames
  · rw [hsucceeded, hlisted, hfailed, List.length_map, hqueried, ← hlength]
    exact hcount
  · rw [houtcome]
    rfl

section Program

open CommandLine

theorem name_of_ofFile {name : String} {contents : Option String} {provider : SimulatedProvider}
    (h : SimulatedProvider.ofFile name contents = .ok provider) : provider.name = name := by
  unfold SimulatedProvider.ofFile at h
  split at h
  · cases h
  · split at h
    · cases h
    · cases h
      rfl

theorem name_of_load {profile : ProviderProfile} {directory : Directory} {folder : String}
    {provider : SimulatedProvider} (h : profile.load directory folder = .ok provider) :
    provider.name = profile.name := by
  unfold ProviderProfile.load at h
  dsimp only at h
  split at h
  next loaded hloaded =>
    have hname : loaded.name = profile.name := name_of_ofFile hloaded
    cases h
    exact hname
  next => cases h

theorem names_of_load {directory : Directory} {folder : String} (profiles : List ProviderProfile)
    {providers : List SimulatedProvider}
    (h : profiles.mapM (fun profile ↦ profile.load directory folder) = .ok providers) :
    providers.map (·.name) = profiles.map (·.name) := by
  induction profiles generalizing providers with
  | nil =>
    cases h
    rfl
  | cons profile rest ih =>
    rw [List.mapM_cons] at h
    cases hfirst : profile.load directory folder with
    | error error => simp [hfirst, bind, Except.bind] at h
    | ok first =>
      cases hrest : rest.mapM fun profile ↦ profile.load directory folder with
      | error error => simp [hfirst, hrest, bind, Except.bind] at h
      | ok others =>
        simp only [hfirst, hrest, bind, Except.bind, pure, Except.pure, Except.ok.injEq] at h
        rw [← h, List.map_cons, List.map_cons, name_of_load hfirst, ih hrest]

/-- The program registers its providers under distinct names. -/
theorem names_nodup_of_loadProviders {ρ : Type} {directory : Directory} {folder : String}
    {providers : List SimulatedProvider} (h : loadProviders directory folder = .ok providers)
    (settings : AggregatorSettings) (source : RandomSource ρ) :
    ((serviceOf settings source providers).providers.map (·.name)).Nodup := by
  have hnames : (serviceOf settings source providers).providers.map (·.name) =
      profiles.map (·.name) := by
    rw [← names_of_load profiles h, serviceOf, List.map_map]
    rfl
  rw [hnames]
  decide

end Program

/-- The metadata of a search that missed account for its providers and offers. Whatever the searches
are that begin together, an outcome of one of them is that of a search that missed, unless it is a
hit. And the program has providers with distinct names. -/
theorem missed_accounts (hnames : (service.providers.map (·.name)).Nodup) :
    (∀ criteria stop start outcome results,
      service.MissedPassage criteria stop start (.finished (.ok outcome)) results →
      service.Accounts criteria results outcome) ∧
    (∀ start searches shared (index : ℕ) outcome,
      (service.searchTogether start searches shared).2.1[index]? = some (.ok outcome) →
      outcome.metadata.cacheHit = true ∨
        ∃ search results, searches[index]? = some search ∧
          service.MissedPassage search.1 search.2 start (.finished (.ok outcome)) results) ∧
    ∀ (directory : Directory) folder settings (source : RandomSource σ) providers,
      CommandLine.loadProviders directory folder = .ok providers →
      ((CommandLine.serviceOf settings source providers).providers.map (·.name)).Nodup := by
  refine ⟨?_, ?_, ?_⟩
  · intro criteria stop start outcome results missed
    exact missed.accounts hnames
  · intro start searches shared index outcome houtcome
    obtain ⟨search, results, hsearch, passage⟩ := passage_of_searchTogether houtcome
    rcases passage.missed with hentering | ⟨error, herror⟩ | ⟨found, hfound, hhit⟩ | missed
    · cases hentering
    · cases herror
    · cases hfound
      exact .inl hhit
    · exact .inr ⟨search, results, hsearch, missed⟩
  · intro directory folder settings source providers hload
    exact names_nodup_of_loadProviders hload settings source

/-- Two providers that answer on one leg each, and two that answer on none. -/
def fickleService : SearchService Unit where
  providers :=
    [ { name := "Garuda", search := fun request _ ↦
          .done (if request.origin = "CGK" then .ok [] else .error (.transient "overloaded")) },
      { name := "Lion", search := fun _ _ ↦ .done (.error (.unavailable "maintenance")) },
      { name := "Batik", search := fun request _ ↦
          .done (if request.origin = "CGK" then .error .cancelled else .ok []) },
      { name := "AirAsia", search := fun _ _ ↦ .crashed } ]
  config := { maxRetries := 0 }

theorem missed_accounts_fickle :
    ∃ outcome results,
      fickleService.MissedPassage tripCriteria none 0 (.finished (.ok outcome)) results ∧
      outcome.metadata.failedProviders = ["Lion", "AirAsia"] ∧
      outcome.metadata.providersSucceeded = 2 ∧ outcome.metadata.providersFailed = 2 := by
  have missed : fickleService.MissedPassage tripCriteria none 0 (.finished (.ok _)) _ :=
    ((MissedPassage.misses 0 { states := [(), (), (), ()] } rfl rfl).turns 0
      { states := [(), (), (), ()] }).turns 0 { states := [(), (), (), ()] }
  have hnames : (fickleService.providers.map (·.name)).Nodup := by decide
  obtain ⟨haccounts, -⟩ := missed_accounts hnames
  have hlisted := (haccounts _ _ _ _ _ missed).failedProviders
  have hsucceeded := (haccounts _ _ _ _ _ missed).succeeded
  have hfailed := (haccounts _ _ _ _ _ missed).failed
  exact ⟨_, _, missed, hlisted, hsucceeded, hfailed⟩

end SearchService

end FareSearch
