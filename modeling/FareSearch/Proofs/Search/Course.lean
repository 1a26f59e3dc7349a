import FareSearch.Proofs.Search.FanOut
import FareSearch.Proofs.Search.Turns

/-!
# The course of one search

A search by itself that does not find its criteria in the cache runs one leg after the other. If
both are over before its stop signal and its deadline, it ends with their outcome and stores it;
otherwise it is given up at the earlier of the two.
-/

namespace FareSearch

/-- The courses of the legs of a search, the one back with its request. -/
structure SearchCourse (σ : Type) where
  outbound : LegCourse σ
  inbound : Option (SearchRequest × LegCourse σ)

namespace SearchCourse

variable {σ : Type} (course : SearchCourse σ)

/-- The leg that is over last. -/
def last : LegCourse σ :=
  match course.inbound with
  | none => course.outbound
  | some (_, leg) => leg

def finish : Instant :=
  course.last.finish

/-- Every call of every leg has ended. -/
def joined : Bool :=
  course.outbound.joined && course.inbound.all fun (_, leg) ↦ leg.joined

end SearchCourse

namespace SearchService

variable {σ : Type} (service : SearchService σ)

section Courses

variable (criteria : SearchCriteria) (stop : StopSignal) (start : Instant) (states : List σ)

/-- The way back, begun when the outbound leg is over. -/
def inboundCourse? (outbound : LegCourse σ) : Option (SearchRequest × LegCourse σ) :=
  criteria.returnRequest?.map fun request ↦
    (request, service.fanOut.course request stop outbound.finish outbound.states)

/-- The legs of a search. -/
def course : SearchCourse σ :=
  let outbound := service.fanOut.course criteria.outboundRequest stop start states
  { outbound, inbound := service.inboundCourse? criteria stop outbound }

/-- The outcome that the legs of a search come to. -/
def outcomeOf (criteria : SearchCriteria) (start : Instant) (course : SearchCourse σ) :
    SearchOutcome :=
  SearchOutcome.assemble criteria service.names
    (criteria.outboundResult service.weights (service.outcomes course.outbound.calls))
    (course.inbound.map fun (request, leg) ↦
      criteria.returnResult request service.weights (service.outcomes leg.calls))
    (Duration.toMillis (course.finish - start))

theorem outbound_finish_le (outbound : LegCourse σ) :
    outbound.finish ≤
      SearchCourse.finish ⟨outbound, service.inboundCourse? criteria stop outbound⟩ := by
  unfold SearchCourse.finish SearchCourse.last inboundCourse?
  cases criteria.returnRequest? with
  | none => exact Nat.le_refl _
  | some request => exact service.fanOut.le_course_finish request stop _ _

theorem le_course_finish : start ≤ (service.course criteria stop start states).finish :=
  Nat.le_trans (service.fanOut.le_course_finish criteria.outboundRequest stop start states)
    (service.outbound_finish_le criteria stop _)

/-- Providers with a state each all end on every leg. -/
theorem course_joined (h : service.providers.length ≤ states.length) :
    (service.course criteria stop start states).joined = true := by
  obtain ⟨houtbound, hlength⟩ :=
    service.fanOut.course_joined criteria.outboundRequest stop start states h
  unfold course SearchCourse.joined inboundCourse?
  rw [houtbound, Bool.true_and]
  cases criteria.returnRequest? with
  | none => rfl
  | some request =>
    have hback := Nat.le_trans h (Nat.le_of_eq hlength.symm)
    exact (service.fanOut.course_joined request stop _ _ hback).1

/-- Without providers a search is over at once. -/
theorem course_of_isEmpty (h : service.providers = []) :
    (service.course criteria stop start states).joined = true ∧
      (service.course criteria stop start states).finish = start := by
  rw [course, service.fanOut.course_of_isEmpty _ _ _ _ h]
  unfold SearchCourse.joined SearchCourse.finish SearchCourse.last inboundCourse?
  cases criteria.returnRequest? with
  | none => exact ⟨rfl, rfl⟩
  | some request =>
    simp only [Option.map_some, Option.all_some]
    rw [service.fanOut.course_of_isEmpty _ _ _ _ h]
    exact ⟨rfl, rfl⟩

end Courses

section Search

variable {service} {criteria : SearchCriteria} {stop : StopSignal} {start finish : ℕ}
  {shared after : SharedState σ} {result : Except SearchError SearchOutcome}

variable (service criteria stop start shared) in
/-- A search ends as its run does, and its fuel reaches past its limit. -/
theorem exists_fuel :
    ∃ fuel, service.limit { criteria, stop, start } + 5 ≤ start + fuel ∧
      ∀ {finish result after}, service.runAll (fuel + 1) start [{ criteria, stop, start }] shared =
          (finish, [{ criteria, stop, start, stage := .finished result }], after) →
        service.search start criteria stop shared = (finish, result, after) := by
  obtain ⟨time, htime⟩ : ∃ time : ℕ, time = Duration.ofMillis service.config.requestTimeoutMillis :=
    ⟨_, rfl⟩
  have hlimit : service.limit { criteria, stop, start } ≤ start + time := by
    rw [htime]
    exact service.limit_le_deadline _
  refine ⟨time + 4 * 1 + 1, by omega, ?_⟩
  intro finish result after hrun
  unfold search searchTogether
  simp only [List.map_cons, List.map_nil, List.length_cons, List.length_nil, Nat.zero_add]
  rw [← htime, hrun]
  rfl

/-- A search that is stopped before it begins does nothing. -/
theorem search_of_given (hstop : stop.given start = true) :
    service.search start criteria stop shared = (start, .error .cancelled, shared) := by
  obtain ⟨fuel, -, hends⟩ := service.exists_fuel criteria stop start shared
  apply hends
  have hturn : service.turn start { criteria, stop, start } shared =
      (.finished (.error .cancelled), shared, true) := by simp [turn, hstop]
  rw [runAll_of_moved fuel hturn]
  exact goOn_finished fuel _ _ _ _

/-- What a search finds when it looks its criteria up in vain. -/
def missed (criteria : SearchCriteria) (shared : SharedState σ) : SharedState σ :=
  { shared with cache := shared.cache.evict criteria.cacheKey shared.cacheNow }

/-- What a search leaves when it ends with an outcome. -/
def stored (service : SearchService σ) (criteria : SearchCriteria) (outcome : SearchOutcome)
    (states : List σ) (shared : SharedState σ) : SharedState σ :=
  { shared with
    states
    cache := shared.cache.set criteria.cacheKey outcome shared.cacheNow service.config.cacheTtl }

variable (service) in
theorem runAll_of_miss (fuel : ℕ) (hstop : stop.given start = false)
    (hmiss : shared.cache.peek? criteria.cacheKey shared.cacheNow = none) :
    service.runAll (fuel + 1) start [{ criteria, stop, start }] shared =
      service.goOn fuel start { criteria, stop, start }
        (service.ask start { criteria, stop, start } (missed criteria shared)) := by
  have hturn : service.turn start { criteria, stop, start } shared =
      ((service.ask start { criteria, stop, start } (missed criteria shared)).1,
        (service.ask start { criteria, stop, start } (missed criteria shared)).2, true) := by
    simp [turn, hstop, enter, Cache.get, hmiss, missed]
  exact runAll_of_moved fuel hturn

/-- With an outcome of both legs at hand, a search ends with it and stores it. -/
theorem goOn_complete (fuel now : ℕ) (run : SearchRun σ) (outbound : LegResult)
    (inbound : Option LegResult) (shared : SharedState σ) :
    service.goOn fuel now run (service.complete now run outbound inbound shared) =
      let outcome := SearchOutcome.assemble run.criteria service.names outbound inbound
        (Duration.toMillis (now - run.start))
      (now, [{ run with stage := .finished (.ok outcome) }],
        service.stored run.criteria outcome shared.states shared) :=
  goOn_finished fuel now run _ _

section AfterOutbound

variable {run : SearchRun σ} {outbound : LegCourse σ} {left : ℕ}

theorem outcomes_nil (service : SearchService σ) : service.outcomes [] = [] := by
  simp [outcomes, FanOut.outcomes]

/-- Without providers the way back is over at once. -/
theorem afterOutbound_of_isEmpty {request : SearchRequest} {result : LegResult} {now : ℕ}
    (hproviders : service.providers = [])
    (hrequest : run.criteria.returnRequest? = some request) :
    service.afterOutbound now run result shared =
      service.complete now run result
        (some (run.criteria.returnResult request service.weights [])) shared := by
  have hcalls : service.fanOut.calls request run.stop now = [] := by
    rw [FanOut.calls, fanOut, hproviders, List.map_nil]
  simp [afterOutbound, hrequest, hcalls]

theorem afterOutbound_of_ne_nil {request : SearchRequest} {result : LegResult} {now : ℕ}
    (hproviders : service.providers ≠ [])
    (hrequest : run.criteria.returnRequest? = some request) :
    service.afterOutbound now run result shared =
      (.inbound result request (service.fanOut.calls request run.stop now), shared) := by
  have hcalls : service.fanOut.calls request run.stop now ≠ [] := by
    rw [FanOut.calls, fanOut]
    simpa using hproviders
  simp [afterOutbound, hrequest, hcalls]

variable (run) (outbound) in
theorem runAll_afterOutbound_of_inTime (hstates : shared.states = outbound.states)
    (hjoined : (service.inboundCourse? run.criteria run.stop outbound).all
      (fun (_, leg) ↦ leg.joined) = true)
    (hfinish : SearchCourse.finish
        ⟨outbound, service.inboundCourse? run.criteria run.stop outbound⟩ < service.limit run ∨
      service.providers = [])
    (hfuel : service.limit run + 1 ≤ outbound.finish + left) :
    service.goOn left outbound.finish run (service.afterOutbound outbound.finish run
        (run.criteria.outboundResult service.weights (service.outcomes outbound.calls)) shared) =
      let course : SearchCourse σ :=
        ⟨outbound, service.inboundCourse? run.criteria run.stop outbound⟩
      (course.finish,
        [{ run with stage := .finished (.ok (service.outcomeOf run.criteria run.start course)) }],
        service.stored run.criteria (service.outcomeOf run.criteria run.start course)
          course.last.states shared) := by
  cases hrequest : run.criteria.returnRequest? with
  | none =>
    simp only [inboundCourse?, hrequest, Option.map_none]
    rw [afterOutbound, hrequest, goOn_complete, hstates]
    rfl
  | some request =>
    simp only [inboundCourse?, hrequest, Option.map_some, Option.all_some] at hjoined hfinish ⊢
    by_cases hproviders : service.providers = []
    · rw [afterOutbound_of_isEmpty hproviders hrequest, goOn_complete,
        service.fanOut.course_of_isEmpty request run.stop _ _ hproviders, hstates]
      simp only [outcomeOf, SearchCourse.finish, SearchCourse.last, Option.map_some, outcomes_nil]
    · have hruns := service.fanOut.course_runs request run.stop outbound.finish outbound.states
      obtain ⟨rest, -, hrun⟩ := (service.awaitInbound run _ request).runAll_of_inTime 0 hruns
        hstates hjoined (hfinish.resolve_right hproviders) hfuel
      rw [afterOutbound_of_ne_nil hproviders hrequest]
      exact hrun.trans (goOn_complete rest _ run _ _ _)

variable (run) (outbound) in
theorem runAll_afterOutbound_of_late (hproviders : service.providers ≠ [])
    (hstates : shared.states = outbound.states)
    (houtbound : outbound.finish < service.limit run)
    (hlate : (service.inboundCourse? run.criteria run.stop outbound).all
        (fun (_, leg) ↦ leg.joined) = false ∨
      service.limit run ≤ SearchCourse.finish
        ⟨outbound, service.inboundCourse? run.criteria run.stop outbound⟩)
    (hfuel : service.limit run < outbound.finish + left) :
    ∃ states, service.goOn left outbound.finish run (service.afterOutbound outbound.finish run
        (run.criteria.outboundResult service.weights (service.outcomes outbound.calls)) shared) =
      (service.limit run, [{ run with stage := .finished (.error (service.limitError run)) }],
        { shared with states }) := by
  cases hrequest : run.criteria.returnRequest? with
  | none =>
    simp only [inboundCourse?, hrequest, Option.map_none, Option.all_none] at hlate
    have hover : service.limit run ≤ outbound.finish := hlate.resolve_left (by simp)
    exact absurd hover (Nat.not_le_of_lt houtbound)
  | some request =>
    simp only [inboundCourse?, hrequest, Option.map_some, Option.all_some] at hlate
    have hruns := service.fanOut.course_runs request run.stop outbound.finish outbound.states
    rw [afterOutbound_of_ne_nil hproviders hrequest]
    exact (service.awaitInbound run _ request).runAll_of_late hruns hstates hlate
      (Nat.le_of_lt houtbound) hfuel

end AfterOutbound

section Missed

variable (hstop : stop.given start = false)
  (hmiss : shared.cache.peek? criteria.cacheKey shared.cacheNow = none)

include hstop in
theorem le_limit : start ≤ service.limit { criteria, stop, start } := by
  have hdeadline : start ≤ service.deadline { criteria, stop, start } := Nat.le_add_right _ _
  unfold limit
  cases stop with
  | none => exact hdeadline
  | some given =>
    have hgiven : start < given := by simpa [StopSignal.given] using hstop
    exact Nat.le_min.mpr ⟨Nat.le_of_lt hgiven, hdeadline⟩

theorem ask_of_isEmpty {run : SearchRun σ} (hproviders : service.providers = []) :
    service.ask start run shared =
      service.afterOutbound start run (run.criteria.outboundResult service.weights []) shared := by
  simp [ask, hproviders]

theorem ask_of_ne_nil {run : SearchRun σ} (hproviders : service.providers ≠ [])
    (hdeadline : start < service.deadline run) :
    service.ask start run shared =
      (.outbound (service.fanOut.calls run.criteria.outboundRequest run.stop start), shared) := by
  simp [ask, hproviders, Nat.not_le_of_lt hdeadline]

/-- Without time the calls of a search are withdrawn as they begin. -/
theorem ask_of_deadline {run : SearchRun σ} (hproviders : service.providers ≠ [])
    (hdeadline : service.deadline run ≤ start) :
    service.ask start run shared =
      (.finished (.error (.timedOut service.config.requestTimeoutMillis)),
        { shared with
          withdrawn := shared.withdrawn ++
            [service.fanOut.calls run.criteria.outboundRequest (some start) start] }) := by
  simp [ask, hproviders, hdeadline]

include hstop hmiss in
/-- A search whose outbound leg is over before its limit goes on after that leg. -/
theorem runAll_of_outbound {fuel : ℕ} (hproviders : service.providers ≠ [])
    (hjoined :
      (service.fanOut.course criteria.outboundRequest stop start shared.states).joined = true)
    (hfinish : (service.fanOut.course criteria.outboundRequest stop start shared.states).finish <
      service.limit { criteria, stop, start })
    (hfuel : service.limit { criteria, stop, start } + 2 ≤ start + fuel) :
    let run : SearchRun σ := { criteria, stop, start }
    let outbound := service.fanOut.course criteria.outboundRequest stop start shared.states
    ∃ left, service.limit run + 1 ≤ outbound.finish + left ∧
      service.runAll (fuel + 1) start [run] shared =
        service.goOn left outbound.finish run (service.afterOutbound outbound.finish run
          (criteria.outboundResult service.weights (service.outcomes outbound.calls))
          { missed criteria shared with states := outbound.states }) := by
  have hruns := service.fanOut.course_runs criteria.outboundRequest stop start shared.states
  have hbegin : (missed criteria shared).states = shared.states := rfl
  have hdeadline : start < service.deadline { criteria, stop, start } :=
    calc
      start ≤ (service.fanOut.course criteria.outboundRequest stop start shared.states).finish :=
        service.fanOut.le_course_finish criteria.outboundRequest stop start shared.states
      _ < service.limit { criteria, stop, start } := hfinish
      _ ≤ service.deadline { criteria, stop, start } := service.limit_le_deadline _
  obtain ⟨left, hleft, hrun⟩ := (service.awaitOutbound { criteria, stop, start }).runAll_of_inTime
    1 hruns hbegin hjoined hfinish hfuel
  refine ⟨left, hleft, ?_⟩
  rw [service.runAll_of_miss fuel hstop hmiss, ask_of_ne_nil hproviders hdeadline]
  exact hrun

include hstop hmiss in
/-- A search whose legs are over before its limit ends with their outcome. -/
theorem search_of_inTime
    (hjoined : (service.course criteria stop start shared.states).joined = true)
    (hfinish : (service.course criteria stop start shared.states).finish <
      service.limit { criteria, stop, start } ∨ service.providers = []) :
    service.search start criteria stop shared =
      let course := service.course criteria stop start shared.states
      (course.finish, .ok (service.outcomeOf criteria start course),
        service.stored criteria (service.outcomeOf criteria start course) course.last.states
          (missed criteria shared)) := by
  rw [SearchCourse.joined, Bool.and_eq_true] at hjoined
  obtain ⟨fuel, hfuel, hends⟩ := service.exists_fuel criteria stop start shared
  apply hends
  by_cases hproviders : service.providers = []
  · have hcourse : service.course criteria stop start shared.states =
        ⟨⟨start, [], shared.states⟩,
          service.inboundCourse? criteria stop ⟨start, [], shared.states⟩⟩ := by
      rw [course, service.fanOut.course_of_isEmpty _ _ _ _ hproviders]
    have hnil : service.outcomes ([] : List (Task σ Answer)) = [] := outcomes_nil service
    have hspare : service.limit { criteria, stop, start } + 1 ≤ start + fuel := by omega
    rw [service.runAll_of_miss fuel hstop hmiss, ask_of_isEmpty hproviders, ← hnil]
    rw [hcourse] at hjoined hfinish ⊢
    exact runAll_afterOutbound_of_inTime { criteria, stop, start } ⟨start, [], shared.states⟩ rfl
      hjoined.2 hfinish hspare
  · have houtbound := Nat.lt_of_le_of_lt (service.outbound_finish_le criteria stop _)
      (hfinish.resolve_right hproviders)
    obtain ⟨left, hleft, hrun⟩ :=
      runAll_of_outbound hstop hmiss hproviders hjoined.1 houtbound (show _ ≤ start + fuel by omega)
    refine Eq.trans hrun ?_
    exact runAll_afterOutbound_of_inTime { criteria, stop, start } _ rfl hjoined.2 hfinish hleft

include hstop hmiss in
/-- A search without time is given up as it begins. -/
theorem search_of_noTime (hproviders : service.providers ≠ [])
    (hdeadline : service.deadline { criteria, stop, start } ≤ start) :
    ∃ withdrawn, service.search start criteria stop shared =
      (service.limit { criteria, stop, start },
        .error (service.limitError { criteria, stop, start }),
        { missed criteria shared with withdrawn }) := by
  have hlimit : service.limit { criteria, stop, start } = start := by
    apply Nat.le_antisymm
    · exact Nat.le_trans (service.limit_le_deadline _) hdeadline
    · exact le_limit hstop
  have herror : service.limitError { criteria, stop, start } =
      .timedOut service.config.requestTimeoutMillis := by
    rw [limitError, hlimit, hstop]
    rfl
  obtain ⟨fuel, -, hends⟩ := service.exists_fuel criteria stop start shared
  have hrun := service.runAll_of_miss fuel hstop hmiss
  rw [ask_of_deadline hproviders hdeadline] at hrun
  rw [hlimit, herror]
  exact ⟨_, hends (hrun.trans (goOn_finished _ _ _ _ _))⟩

include hstop hmiss in
/-- A search whose outbound leg is not over before its limit is given up there. -/
theorem search_of_lateOutbound (hproviders : service.providers ≠ [])
    (hdeadline : start < service.deadline { criteria, stop, start })
    (hlate :
      (service.fanOut.course criteria.outboundRequest stop start shared.states).joined = false ∨
        service.limit { criteria, stop, start } ≤
          (service.fanOut.course criteria.outboundRequest stop start shared.states).finish) :
    ∃ states, service.search start criteria stop shared =
      (service.limit { criteria, stop, start },
        .error (service.limitError { criteria, stop, start }),
        { missed criteria shared with states }) := by
  have hruns := service.fanOut.course_runs criteria.outboundRequest stop start shared.states
  have hbegin : (missed criteria shared).states = shared.states := rfl
  obtain ⟨fuel, hfuel, hends⟩ := service.exists_fuel criteria stop start shared
  obtain ⟨states, hrun⟩ := (service.awaitOutbound { criteria, stop, start }).runAll_of_late
    hruns hbegin hlate (le_limit hstop) (show _ < start + fuel by omega)
  have hmissed := service.runAll_of_miss fuel hstop hmiss
  rw [ask_of_ne_nil hproviders hdeadline] at hmissed
  exact ⟨states, hends (Eq.trans hmissed hrun)⟩

include hstop hmiss in
/-- A search whose way back is not over before its limit is given up there. -/
theorem search_of_lateInbound (hproviders : service.providers ≠ [])
    (hjoined :
      (service.fanOut.course criteria.outboundRequest stop start shared.states).joined = true)
    (hfinish : (service.fanOut.course criteria.outboundRequest stop start shared.states).finish <
      service.limit { criteria, stop, start })
    (hlate : (service.course criteria stop start shared.states).joined = false ∨
      service.limit { criteria, stop, start } ≤
        (service.course criteria stop start shared.states).finish) :
    ∃ states, service.search start criteria stop shared =
      (service.limit { criteria, stop, start },
        .error (service.limitError { criteria, stop, start }),
        { missed criteria shared with states }) := by
  have hback : (service.inboundCourse? criteria stop
        (service.fanOut.course criteria.outboundRequest stop start shared.states)).all
          (fun (_, leg) ↦ leg.joined) = false ∨
      service.limit { criteria, stop, start } ≤
        (service.course criteria stop start shared.states).finish := by
    apply hlate.imp_left
    intro hopen
    rwa [SearchCourse.joined, course, hjoined, Bool.true_and] at hopen
  obtain ⟨fuel, hfuel, hends⟩ := service.exists_fuel criteria stop start shared
  obtain ⟨left, hleft, hrun⟩ :=
    runAll_of_outbound hstop hmiss hproviders hjoined hfinish (show _ ≤ start + fuel by omega)
  have hstates : { missed criteria shared with
        states := (service.fanOut.course criteria.outboundRequest stop start
          shared.states).states }.states =
      (service.fanOut.course criteria.outboundRequest stop start shared.states).states := rfl
  obtain ⟨states, hgivenUp⟩ := runAll_afterOutbound_of_late { criteria, stop, start } _ hproviders
    hstates hfinish hback hleft
  exact ⟨states, hends (Eq.trans hrun hgivenUp)⟩

include hstop hmiss in
/-- A search whose legs are not over before its limit is given up there. -/
theorem search_of_late (hproviders : service.providers ≠ [])
    (hlate : (service.course criteria stop start shared.states).joined = false ∨
      service.limit { criteria, stop, start } ≤
        (service.course criteria stop start shared.states).finish) :
    ∃ states withdrawn, service.search start criteria stop shared =
      (service.limit { criteria, stop, start },
        .error (service.limitError { criteria, stop, start }),
        { missed criteria shared with states, withdrawn }) := by
  rcases Nat.lt_or_ge start (service.deadline { criteria, stop, start }) with hdeadline | hdeadline
  · by_cases houtbound :
        (service.fanOut.course criteria.outboundRequest stop start shared.states).joined = true ∧
          (service.fanOut.course criteria.outboundRequest stop start shared.states).finish <
            service.limit { criteria, stop, start }
    · obtain ⟨states, hsearch⟩ :=
        search_of_lateInbound hstop hmiss hproviders houtbound.1 houtbound.2 hlate
      exact ⟨states, _, hsearch⟩
    · rw [Classical.not_and_iff_not_or_not, Bool.not_eq_true, Nat.not_lt] at houtbound
      obtain ⟨states, hsearch⟩ :=
        search_of_lateOutbound hstop hmiss hproviders hdeadline houtbound
      exact ⟨states, _, hsearch⟩
  · obtain ⟨withdrawn, hsearch⟩ := search_of_noTime hstop hmiss hproviders hdeadline
    exact ⟨_, withdrawn, hsearch⟩

variable (service) in
include hstop hmiss in
/-- A search that looks its criteria up in vain ends with the outcome of its legs, or is given up at
its limit because they are not over before. -/
theorem search_of_miss :
    ((service.course criteria stop start shared.states).joined = true ∧
      stop.given (service.course criteria stop start shared.states).finish = false ∧
      service.search start criteria stop shared =
        let course := service.course criteria stop start shared.states
        (course.finish, .ok (service.outcomeOf criteria start course),
          service.stored criteria (service.outcomeOf criteria start course) course.last.states
            (missed criteria shared))) ∨
    (((service.course criteria stop start shared.states).joined = false ∨
        service.limit { criteria, stop, start } ≤
          (service.course criteria stop start shared.states).finish) ∧
      ∃ states withdrawn, service.search start criteria stop shared =
        (service.limit { criteria, stop, start },
          .error (service.limitError { criteria, stop, start }),
          { missed criteria shared with states, withdrawn })) := by
  by_cases hinTime : service.providers = [] ∨
      (service.course criteria stop start shared.states).joined = true ∧
        (service.course criteria stop start shared.states).finish <
          service.limit { criteria, stop, start }
  · have hends : (service.course criteria stop start shared.states).joined = true ∧
        stop.given (service.course criteria stop start shared.states).finish = false := by
      rcases hinTime with hproviders | ⟨hjoined, hfinish⟩
      · obtain ⟨hjoined, hfinish⟩ :=
          service.course_of_isEmpty criteria stop start shared.states hproviders
        exact ⟨hjoined, by rw [hfinish, hstop]⟩
      · exact ⟨hjoined, (service.lt_limit_iff.mp hfinish).1⟩
    left
    exact ⟨hends.1, hends.2,
      search_of_inTime hstop hmiss hends.1 (hinTime.symm.imp_left And.right)⟩
  · rw [not_or, Classical.not_and_iff_not_or_not, Bool.not_eq_true, Nat.not_lt] at hinTime
    obtain ⟨hproviders, hlate⟩ := hinTime
    right
    exact ⟨hlate, search_of_late hstop hmiss hproviders hlate⟩

end Missed

/-- An outcome that was not found in the cache is that of the legs. -/
theorem eq_outcomeOf_of_search {outcome : SearchOutcome}
    (hmiss : shared.cache.peek? criteria.cacheKey shared.cacheNow = none)
    (hsearch : service.search start criteria stop shared = (finish, .ok outcome, after)) :
    outcome =
      service.outcomeOf criteria start (service.course criteria stop start shared.states) := by
  cases hstop : stop.given start with
  | true => simp [search_of_given hstop] at hsearch
  | false =>
    rcases service.search_of_miss hstop hmiss with
      ⟨-, -, hinTime⟩ | ⟨-, states, withdrawn, hlate⟩
    · rw [hinTime] at hsearch
      simp only [Prod.mk.injEq, Except.ok.injEq] at hsearch
      exact hsearch.2.1.symm
    · simp [hlate] at hsearch

end Search

end SearchService

end FareSearch
