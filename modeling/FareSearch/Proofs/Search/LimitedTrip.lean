import FareSearch.Proofs.Provider.Attempts
import FareSearch.Proofs.Provider.Slot
import FareSearch.Proofs.Search.Isolation
import FareSearch.Proofs.Search.Offers
import FareSearch.Settings.Basic

/-!
# Round trips through limiters

Providers that answer at once, each behind a limiter of its own, answer the outbound leg at once. On
the way back every one of them has to wait for its next slot, and the wait counts towards its
deadline. So the way back is answered in full if the interval of the limiter is no longer than the
deadline of a provider; otherwise nobody answers it. Settings are accepted in either case.
-/

namespace FareSearch

open Limiter

variable {σ : Type}

/-- A provider that answers every call at once, with records that depend on the request alone. -/
structure PromptSource (σ : Type) where
  provider : Provider σ
  records : SearchRequest → List Flight
  prompt : ∀ request stop (now : ℕ) state, ∃ after,
    (provider.search request stop).run? now state =
      some (now, .answered (.ok (records request)), after)

theorem zipWith_of_left {α β γ : Type} (f : α → γ) {left : List α} {right : List β}
    (h : right.length = left.length) :
    List.zipWith (fun first _ ↦ f first) left right = left.map f := by
  calc
    _ = (left.zip right).map fun pair ↦ f pair.1 := List.map_zip_eq_zipWith.symm
    _ = ((left.zip right).map Prod.fst).map f := List.map_map.symm
    _ = left.map f := by rw [List.map_fst_zip (Nat.le_of_eq h.symm)]

theorem foldr_max_const {α : Type} (duration : ℕ) (list : List α) :
    (list.map fun _ ↦ duration).foldr max 0 = if list.isEmpty then 0 else duration := by
  induction list with
  | nil => rfl
  | cons first rest ih =>
    rw [List.map_cons, List.foldr_cons, ih]
    cases rest <;> simp

namespace FanOut

section Leg

variable {fanOut : FanOut (Claim × σ)} {interval : ℕ} {sources : List (PromptSource σ)}
  (hproviders : fanOut.providers = sources.map fun source ↦ source.provider.limited interval)
  (request : SearchRequest) (start : ℕ) (claim : Claim)

/-- The instant at which a leg through limiters with one claim is answered. -/
def answerTime (interval : Duration) (start : Instant) (claim : Claim) : Instant :=
  max start (opensAt interval claim)

theorem alone_limited (fanOut : FanOut (Claim × σ)) (source : PromptSource σ) (interval : ℕ)
    (inner : σ) :
    ∃ after, fanOut.alone request none start (source.provider.limited interval) (claim, inner) =
      some (answerTime interval start claim, .answered (.ok (source.records request)),
        claimAfter interval claim (answerTime interval start claim), after) := by
  obtain ⟨after, hprompt⟩ :=
    source.prompt request none (answerTime interval start claim) inner
  refine ⟨after, Provider.retrying_run _ ?_ rfl⟩
  rcases Provider.limited_run source.provider interval request none start claim inner with
    hmade | ⟨given, hgiven, -⟩
  · rw [hmade, ← answerTime, hprompt]
    rfl
  · cases hgiven

theorem finalResult_limited (fanOut : FanOut (Claim × σ)) (source : PromptSource σ) (interval : ℕ)
    (inner : σ) :
    fanOut.finalResult request none start (source.provider.limited interval) (claim, inner) =
      if answerTime interval start claim ≤ start + fanOut.deadline then
        .ok (source.records request)
      else .error fanOut.timeoutError := by
  obtain ⟨after, halone⟩ := alone_limited request start claim fanOut source interval inner
  rw [finalResult, halone]

theorem span_limited (fanOut : FanOut (Claim × σ)) (source : PromptSource σ) (interval : ℕ)
    (inner : σ) :
    fanOut.span request none start (source.provider.limited interval) (claim, inner) =
      min fanOut.deadline (answerTime interval start claim - start) := by
  obtain ⟨after, halone⟩ := alone_limited request start claim fanOut source interval inner
  rw [span, halone]

theorem call_run_limited (fanOut : FanOut (Claim × σ)) (source : PromptSource σ) (interval : ℕ)
    (inner : σ) (hinTime : answerTime interval start claim ≤ start + fanOut.deadline) :
    ∃ after, (fanOut.call request none start (source.provider.limited interval)).run? start
        (claim, inner) =
      some (answerTime interval start claim, .answered (.ok (source.records request)),
        claimAfter interval claim (answerTime interval start claim), after) := by
  obtain ⟨after, halone⟩ := alone_limited request start claim fanOut source interval inner
  exact ⟨after, Task.within_run_of_inTime _ halone hinTime⟩

/-- Calls that are answered in time leave all limiters with one claim again. -/
theorem exists_courses_limited (fanOut : FanOut (Claim × σ)) (interval : ℕ)
    (hinTime : answerTime interval start claim ≤ start + fanOut.deadline)
    {sources : List (PromptSource σ)} {inner : List σ} (hinner : inner.length = sources.length) :
    ∃ (courses : List (ℕ × Ending Answer × Claim × σ)) (final : List σ),
      final.length = sources.length ∧
      Crowd.alone start
          (sources.map fun source ↦
            fanOut.call request none start (source.provider.limited interval))
          (inner.map (claim, ·)) = courses.map some ∧
      courses.map (fun course ↦ course.2.2) =
        final.map (claimAfter interval claim (answerTime interval start claim), ·) := by
  induction sources generalizing inner with
  | nil => exact ⟨[], [], rfl, rfl, rfl⟩
  | cons source sources ih =>
    cases inner with
    | nil => simp at hinner
    | cons first inner =>
      obtain ⟨courses, final, hlength, hcourses, hfinal⟩ := ih (Nat.succ.inj hinner)
      obtain ⟨after, hrun⟩ :=
        call_run_limited request start claim fanOut source interval first hinTime
      refine ⟨(answerTime interval start claim, .answered (.ok (source.records request)),
          claimAfter interval claim (answerTime interval start claim), after) :: courses,
        after :: final, congrArg Nat.succ hlength, ?_, ?_⟩
      · simp only [Crowd.alone, List.map_cons, List.zipWith_cons_cons, hrun]
        exact congrArg _ hcourses
      · rw [List.map_cons, List.map_cons, hfinal]

include hproviders

/-- Either all answer in time, or nobody does. -/
theorem course_results_limited {inner : List σ} (hinner : inner.length = sources.length) :
    (fanOut.course request none start (inner.map (claim, ·))).calls.map fanOut.result =
      sources.map fun source ↦
        if answerTime interval start claim ≤ start + fanOut.deadline then
          .ok (source.records request)
        else .error fanOut.timeoutError := by
  rw [course_results, hproviders, List.zipWith_map]
  · simp only [finalResult_limited]
    exact zipWith_of_left _ hinner
  · rw [hproviders, List.length_map, List.length_map, hinner]

theorem course_finish_limited {inner : List σ} (hinner : inner.length = sources.length) :
    (fanOut.course request none start (inner.map (claim, ·))).finish =
      start + if sources.isEmpty then 0
        else min fanOut.deadline (answerTime interval start claim - start) := by
  rw [course_finish, hproviders, List.zipWith_map]
  simp only [span_limited]
  rw [zipWith_of_left _ hinner, foldr_max_const]

theorem course_states_limited {inner : List σ} (hinner : inner.length = sources.length)
    (hinTime : answerTime interval start claim ≤ start + fanOut.deadline) :
    ∃ final : List σ, final.length = sources.length ∧
      (fanOut.course request none start (inner.map (claim, ·))).states =
        final.map (claimAfter interval claim (answerTime interval start claim), ·) := by
  obtain ⟨courses, final, hlength, hcourses, hfinal⟩ :=
    exists_courses_limited request start claim fanOut interval hinTime hinner
  have hruns := fanOut.course_runs request none start (inner.map (claim, ·))
  rw [calls, hproviders, List.map_map] at hruns
  exact ⟨final, hlength, (hruns.final_eq (by simp [hinner]) hcourses).trans hfinal⟩

/-- The results of a leg that is put to all sources when their limiters have one claim. -/
theorem searchAll_results_limited {inner : List σ} (hinner : inner.length = sources.length) :
    (fanOut.searchAll request none start (inner.map (claim, ·))).2.1.map (·.result) =
      sources.map fun source ↦
        if answerTime interval start claim ≤ start + fanOut.deadline then
          .ok (source.records request)
        else .error fanOut.timeoutError := by
  have hresults := course_results_limited hproviders request start claim hinner
  have hlength := congrArg List.length hresults
  rw [List.length_map, List.length_map] at hlength
  rw [searchAll_eq_course, map_result_outcomes _ (by rw [hlength, hproviders, List.length_map])]
  exact hresults

end Leg

end FanOut

/-- The search over sources that are each behind a limiter of their own, under settings. -/
def AggregatorSettings.limitedService (settings : AggregatorSettings) (weights : BestValue)
    (sources : List (PromptSource σ)) : SearchService (Claim × σ) where
  providers := sources.map fun source ↦ source.provider.limited settings.rateLimit
  weights
  config := settings.toConfig

/-- What is shared at the beginning of a lone search: no limiter was ever called. -/
def freshState (inner : List σ) (cache : Cache SearchOutcome) (cacheNow : Instant) :
    SharedState (Claim × σ) where
  states := inner.map (none, ·)
  cache
  cacheNow

theorem returned_iff {outcomes : List ProviderOutcome} {sources : List (PromptSource σ)}
    {request : SearchRequest}
    (h : outcomes.map (·.result) = sources.map fun source ↦ .ok (source.records request))
    (record : Flight) :
    Returned outcomes record ↔ ∃ source ∈ sources, record ∈ source.records request := by
  constructor
  · rintro ⟨outcome, houtcome, records, hresult, hrecord⟩
    have hmem : Except.ok records ∈ outcomes.map (·.result) :=
      List.mem_map.mpr ⟨outcome, houtcome, hresult⟩
    rw [h] at hmem
    obtain ⟨source, hsource, hrecords⟩ := List.mem_map.mp hmem
    cases hrecords
    exact ⟨source, hsource, hrecord⟩
  · rintro ⟨source, hsource, hrecord⟩
    have hmem : Except.ok (source.records request) ∈
        sources.map fun source ↦ (.ok (source.records request) : Answer) :=
      List.mem_map_of_mem hsource
    rw [← h] at hmem
    obtain ⟨outcome, houtcome, hresult⟩ := List.mem_map.mp hmem
    exact ⟨outcome, houtcome, _, hresult, hrecord⟩

theorem not_returned {outcomes : List ProviderOutcome} {sources : List (PromptSource σ)}
    {error : ProviderError} (h : outcomes.map (·.result) = sources.map fun _ ↦ .error error)
    (record : Flight) : ¬ Returned outcomes record := by
  rintro ⟨outcome, houtcome, records, hresult, -⟩
  have hmem : outcome.result ∈ outcomes.map (·.result) := List.mem_map_of_mem houtcome
  rw [h, hresult] at hmem
  obtain ⟨_, -, hfailed⟩ := List.mem_map.mp hmem
  cases hfailed

theorem answerTime_none (interval start : ℕ) : FanOut.answerTime interval start none = start := by
  simp [FanOut.answerTime, opensAt, freeFrom]

/-- A limiter that was passed at an instant is passed again one interval later. -/
theorem answerTime_claimAfter (interval start : ℕ) :
    FanOut.answerTime interval start (claimAfter interval none start) = start + interval := by
  rw [FanOut.answerTime, max_opensAt_claimAfter (Nat.le_refl start)]
  exact Nat.max_eq_right (Nat.le_add_right start interval)

section Trip

variable (settings : AggregatorSettings) (weights : BestValue) (sources : List (PromptSource σ))
  (criteria : SearchCriteria) (request : SearchRequest) (start : ℕ) {inner : List σ}

/-- The outbound leg is over when it begins, and every limiter has been passed then. -/
theorem outbound_limited (hinner : inner.length = sources.length) :
    let leg := (settings.limitedService weights sources).fanOut.searchAll criteria.outboundRequest
      none start (inner.map (none, ·))
    leg.1 = start ∧
      leg.2.1.map (·.result) =
        sources.map (fun source ↦ .ok (source.records criteria.outboundRequest)) ∧
      ∃ final : List σ, final.length = sources.length ∧
        leg.2.2 = final.map (claimAfter settings.rateLimit none start, ·) := by
  have hatOnce := answerTime_none settings.rateLimit start
  have hinTime : FanOut.answerTime settings.rateLimit start none ≤
      start + (settings.limitedService weights sources).fanOut.deadline :=
    Nat.le_trans (Nat.le_of_eq hatOnce) (Nat.le_add_right _ _)
  have hproviders : (settings.limitedService weights sources).fanOut.providers =
      sources.map fun source ↦ source.provider.limited settings.rateLimit := rfl
  refine ⟨?_, ?_, ?_⟩
  · rw [FanOut.searchAll_eq_course]
    dsimp only
    rw [FanOut.course_finish_limited hproviders _ _ _ hinner, hatOnce]
    simp
  · rw [FanOut.searchAll_results_limited hproviders _ _ _ hinner]
    simp only [hinTime, if_true]
  · obtain ⟨final, hlength, hfinal⟩ :=
      FanOut.course_states_limited hproviders criteria.outboundRequest start none hinner hinTime
    rw [hatOnce] at hfinal
    exact ⟨final, hlength, by rw [FanOut.searchAll_eq_course]; exact hfinal⟩

/-- On the way back each source is called one interval after the outbound leg, if that is not past
its deadline. -/
theorem inbound_limited {passed : List σ} (hpassed : passed.length = sources.length) :
    let leg := (settings.limitedService weights sources).fanOut.searchAll request none start
      (passed.map (claimAfter settings.rateLimit none start, ·))
    (leg.1 = start + if sources.isEmpty then 0 else
      Duration.ofMillis (min settings.rateLimitMillis settings.providerTimeoutMillis)) ∧
    leg.2.1.map (·.result) = sources.map fun source ↦
      if settings.rateLimitMillis ≤ settings.providerTimeoutMillis then
        .ok (source.records request)
      else .error (settings.limitedService weights sources).fanOut.timeoutError := by
  have hproviders : (settings.limitedService weights sources).fanOut.providers =
      sources.map fun source ↦ source.provider.limited settings.rateLimit := rfl
  have hdeadline : (settings.limitedService weights sources).fanOut.deadline =
      Duration.ofMillis settings.providerTimeoutMillis := rfl
  constructor
  · rw [FanOut.searchAll_eq_course]
    dsimp only
    rw [FanOut.course_finish_limited hproviders _ _ _ hpassed, answerTime_claimAfter,
      Nat.add_sub_cancel_left, hdeadline, Nat.min_comm, AggregatorSettings.rateLimit]
    simp only [Duration.ofMillis, Nat.mul_min_mul_left]
  · have hinTime : start + settings.rateLimit ≤
        start + (settings.limitedService weights sources).fanOut.deadline ↔
          settings.rateLimitMillis ≤ settings.providerTimeoutMillis := by
      rw [Nat.add_le_add_iff_left]
      exact Nat.mul_le_mul_left_iff (by decide)
    rw [FanOut.searchAll_results_limited hproviders _ _ _ hpassed, answerTime_claimAfter]
    simp only [hinTime]

end Trip

namespace SearchService

variable {service : SearchService σ} {criteria : SearchCriteria} {request : SearchRequest}
  {start : ℕ} {shared : SharedState σ}

/-- A search that nobody cancels has an outcome exactly if its legs are over before its deadline or
there is nobody to ask. -/
theorem search_isOk_iff (hmiss : shared.cache.peek? criteria.cacheKey shared.cacheNow = none)
    (hstates : service.providers.length ≤ shared.states.length) :
    (∃ outcome, (service.search start criteria none shared).2.1 = .ok outcome) ↔
      service.providers = [] ∨ (service.course criteria none start shared.states).finish <
        start + Duration.ofMillis service.config.requestTimeoutMillis := by
  have hjoined := service.course_joined criteria none start shared.states hstates
  constructor
  · rintro ⟨outcome, hok⟩
    by_contra hlate
    obtain ⟨hproviders, hfinish⟩ := not_or.mp hlate
    obtain ⟨states, withdrawn, hsearch⟩ :=
      search_of_late rfl hmiss hproviders (.inr (Nat.le_of_not_lt hfinish))
    rw [hsearch] at hok
    cases hok
  · intro hinTime
    exact ⟨_, by rw [search_of_inTime rfl hmiss hjoined hinTime.symm]⟩

theorem returnFlights_offersOf (hrequest : criteria.returnRequest? = some request)
    (hmiss : shared.cache.peek? criteria.cacheKey shared.cacheNow = none)
    {outcome : SearchOutcome}
    (hok : (service.search start criteria none shared).2.1 = .ok outcome) :
    let outbound := service.fanOut.searchAll criteria.outboundRequest none start shared.states
    request.leg.OffersOf (criteria.filters.reanchoredOn request.date)
      (Returned (service.fanOut.searchAll request none outbound.1 outbound.2.2).2.1)
      outcome.returnFlights := by
  rcases hsearch : service.search start criteria none shared with ⟨finish, result, after⟩
  rw [hsearch] at hok
  subst hok
  rw [FanOut.searchAll_eq_course]
  dsimp only
  rw [FanOut.searchAll_eq_course, eq_outcomeOf_of_search hmiss hsearch]
  simp only [outcomeOf, course, inboundCourse?, hrequest, SearchOutcome.assemble, Option.map_some,
    Option.getD_some]
  exact LegResult.of_offersOf request _ service.weights criteria.sort _

theorem course_finish_of_return (hrequest : criteria.returnRequest? = some request) :
    (service.course criteria none start shared.states).finish =
      let outbound := service.fanOut.searchAll criteria.outboundRequest none start shared.states
      (service.fanOut.searchAll request none outbound.1 outbound.2.2).1 := by
  rw [FanOut.searchAll_eq_course]
  dsimp only
  rw [FanOut.searchAll_eq_course]
  simp only [course, inboundCourse?, hrequest, SearchCourse.finish, SearchCourse.last,
    Option.map_some]

end SearchService

section Limited

variable (settings : AggregatorSettings) (weights : BestValue) (sources : List (PromptSource σ))
  (criteria : SearchCriteria) {request : SearchRequest} (start : ℕ) {inner : List σ}
  (cache : Cache SearchOutcome) (cacheNow : Instant)

/-- A lone round trip through limiters that were never called. It has an outcome exactly if the way
back, which takes the interval of the limiters or the deadline of a provider, is over before the
deadline of the request. The outbound leg is answered by all. So is the way back if the interval is
no longer than the deadline, and then its flights are the offers of all sources; otherwise nobody
answers it, and it has no flights. -/
theorem limitedTrip_answered (hrequest : criteria.returnRequest? = some request)
    (hinner : inner.length = sources.length)
    (hmiss : cache.peek? criteria.cacheKey cacheNow = none) :
    let service := settings.limitedService weights sources
    let outbound := service.fanOut.searchAll criteria.outboundRequest none start
      (freshState inner cache cacheNow).states
    let inbound := service.fanOut.searchAll request none outbound.1 outbound.2.2
    let result := (service.search start criteria none (freshState inner cache cacheNow)).2.1
    ((∃ outcome, result = .ok outcome) ↔ sources = [] ∨
      min settings.rateLimitMillis settings.providerTimeoutMillis <
        settings.requestTimeoutMillis) ∧
    outbound.2.1.map (·.result) =
      sources.map (fun source ↦ .ok (source.records criteria.outboundRequest)) ∧
    (settings.rateLimitMillis ≤ settings.providerTimeoutMillis →
      inbound.2.1.map (·.result) = sources.map (fun source ↦ .ok (source.records request)) ∧
      ∀ outcome, result = .ok outcome →
        request.leg.OffersOf (criteria.filters.reanchoredOn request.date)
          (fun record ↦ ∃ source ∈ sources, record ∈ source.records request)
          outcome.returnFlights) ∧
    (settings.providerTimeoutMillis < settings.rateLimitMillis →
      inbound.2.1.map (·.result) = sources.map (fun _ ↦ .error service.fanOut.timeoutError) ∧
      ∀ outcome, result = .ok outcome → outcome.returnFlights = []) := by
  intro service outbound inbound result
  have hmissed : (freshState inner cache cacheNow).cache.peek? criteria.cacheKey
      (freshState inner cache cacheNow).cacheNow = none := hmiss
  obtain ⟨hfinish, hanswered, passed, hpassed, hstates⟩ :=
    outbound_limited settings weights sources criteria start hinner
  have hback : inbound = service.fanOut.searchAll request none start
      (passed.map (claimAfter settings.rateLimit none start, ·)) :=
    congrArg₂ (service.fanOut.searchAll request none) hfinish hstates
  obtain ⟨hover, hresults⟩ := inbound_limited settings weights sources request start hpassed
  rw [← hback] at hover hresults
  -- All of it follows from when the way back is over and what it came to.
  refine ⟨?_, hanswered, fun hle ↦ ?_, fun hlt ↦ ?_⟩
  · have hlength : service.providers.length ≤ (freshState inner cache cacheNow).states.length := by
      simp [service, AggregatorSettings.limitedService, freshState, hinner]
    have hempty : service.providers = [] ↔ sources = [] := List.map_eq_nil_iff
    have hcourse : (service.course criteria none start
        (freshState inner cache cacheNow).states).finish = inbound.1 :=
      SearchService.course_finish_of_return hrequest
    rw [SearchService.search_isOk_iff hmissed hlength, hempty, hcourse, hover]
    refine or_congr_right' fun hsources ↦ ?_
    have hsome : sources.isEmpty = false := by simpa using hsources
    rw [hsome, if_neg Bool.false_ne_true, Nat.add_lt_add_iff_left]
    exact Nat.mul_lt_mul_left (by decide)
  · simp only [hle, if_true] at hresults
    refine ⟨hresults, fun outcome hok ↦ ?_⟩
    have hreturned : Returned inbound.2.1 =
        fun record ↦ ∃ source ∈ sources, record ∈ source.records request :=
      funext fun record ↦ propext (returned_iff hresults record)
    exact hreturned ▸ SearchService.returnFlights_offersOf hrequest hmissed hok
  · simp only [Nat.not_le_of_lt hlt, if_false] at hresults
    refine ⟨hresults, fun outcome hok ↦ List.eq_nil_iff_forall_not_mem.mpr fun offer hoffer ↦ ?_⟩
    obtain ⟨record, hreturned, -⟩ :=
      (SearchService.returnFlights_offersOf hrequest hmissed hok).kept offer hoffer
    exact not_returned hresults record hreturned

end Limited

def garudaSource : PromptSource Unit where
  provider := SearchService.promptProvider "Garuda" [morningFlight "Garuda" lowPrice]
  records _ := [morningFlight "Garuda" lowPrice]
  prompt _ _ _ state := ⟨state, rfl⟩

/-- A trip whose way back is on the day of the morning flight. -/
def homeCriteria : SearchCriteria :=
  { SearchService.tripCriteria with
    origin := "DPS"
    destination := "CGK"
    departureDate := ⟨2025, 12, 10, by decide⟩
    returnDate := some travelDay }

def homeRequest : SearchRequest where
  origin := "CGK"
  destination := "DPS"
  date := travelDay
  passengers := 1
  cabinClass := "economy"

theorem homeRequest_admits :
    homeRequest.leg.Admits (homeCriteria.filters.reanchoredOn homeRequest.date)
      (morningFlight "Garuda" lowPrice) := by
  constructor <;> decide +kernel

theorem limitedTrip_answered_garuda :
    ∃ outcome,
      ((({} : AggregatorSettings).limitedService BestValue.standard [garudaSource]).search 0
        homeCriteria none (freshState [()] {} 0)).2.1 = .ok outcome ∧
      (outcome.returnFlights.map Flight.dedupKey).count
        (morningFlight "Garuda" lowPrice).dedupKey = 1 := by
  have hrequest : homeCriteria.returnRequest? = some homeRequest := rfl
  have hinner : [()].length = [garudaSource].length := rfl
  obtain ⟨hok, -, hanswered, -⟩ := limitedTrip_answered {} BestValue.standard [garudaSource]
    homeCriteria 0 {} 0 hrequest hinner rfl
  obtain ⟨outcome, houtcome⟩ := hok.mpr (.inr (by decide))
  obtain ⟨-, hoffers⟩ := hanswered (by decide)
  exact ⟨outcome, houtcome, (hoffers outcome houtcome).once _
    ⟨morningFlight "Garuda" lowPrice, ⟨garudaSource, .head _, .head _⟩, homeRequest_admits, rfl⟩⟩

/-- Accepted settings whose limiters let nobody through within the deadline of a provider. -/
def starvingSettings : AggregatorSettings :=
  { rateLimitMillis := 2000 }

theorem limitedTrip_starved :
    starvingSettings.validate = .ok () ∧
    homeCriteria.returnRequest? = some homeRequest ∧
    morningFlight "Garuda" lowPrice ∈ garudaSource.records homeRequest ∧
    homeRequest.leg.Admits (homeCriteria.filters.reanchoredOn homeRequest.date)
      (morningFlight "Garuda" lowPrice) ∧
    ∃ outcome,
      ((starvingSettings.limitedService BestValue.standard [garudaSource]).search 0
        homeCriteria none (freshState [()] {} 0)).2.1 = .ok outcome ∧
      outcome.returnFlights = [] := by
  refine ⟨rfl, rfl, .head _, homeRequest_admits, ?_⟩
  have hstarved : ((starvingSettings.limitedService BestValue.standard [garudaSource]).search 0
      homeCriteria none (freshState [()] {} 0)).2.1.toOption.any
        (fun outcome ↦ outcome.returnFlights.isEmpty) = true := by
    decide +kernel
  cases hresult : ((starvingSettings.limitedService BestValue.standard [garudaSource]).search 0
      homeCriteria none (freshState [()] {} 0)).2.1 with
  | error error => simp [hresult, Except.toOption] at hstarved
  | ok outcome =>
    rw [hresult] at hstarved
    exact ⟨outcome, rfl, by simpa [Except.toOption] using hstarved⟩

end FareSearch
