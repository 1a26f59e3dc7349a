import FareSearch.Proofs.Search.FanOut
import FareSearch.Proofs.Timed.Alone

/-!
# One provider does not affect another

On a leg each provider comes to what it comes to by itself under the deadline: its own answer or
error if it ends by then, an internal error if it crashes by then, and otherwise a timeout. The leg
lasts as long as the slowest of them, and no longer than the deadline.
-/

namespace FareSearch.FanOut

variable {σ : Type} (fanOut : FanOut σ) (request : SearchRequest) (stop : StopSignal)
  (start : Instant)

/-- The retried call of a provider by itself, without a deadline: when it ends, how, and in which
state; nothing if it never ends. -/
def alone (provider : Provider σ) (state : σ) : Option (Instant × Ending Answer × σ) :=
  ((provider.retrying fanOut.retry).search request stop).run? start state

/-- The result of a provider on a leg that it has to itself. -/
def finalResult (provider : Provider σ) (state : σ) : Answer :=
  match fanOut.alone request stop start provider state with
  | some (finish, .answered answer, _) =>
    if finish ≤ start + fanOut.deadline then answer else .error fanOut.timeoutError
  | some (finish, .crashed, _) =>
    if finish ≤ start + fanOut.deadline then .error crashError else .error fanOut.timeoutError
  | none => .error fanOut.timeoutError

/-- How long a provider keeps a leg waiting: the time it takes to answer, fail or crash, and never
more than the deadline. -/
def span (provider : Provider σ) (state : σ) : Duration :=
  match fanOut.alone request stop start provider state with
  | some (finish, _, _) => min fanOut.deadline (finish - start)
  | none => fanOut.deadline

/-- What the ending of a call counts as; a call without one has missed its deadline. -/
def resultOf (ending : Option (Ending Answer)) : Answer :=
  match ending with
  | some (.answered answer) => answer
  | some .crashed => .error crashError
  | none => .error fanOut.timeoutError

/-- A call ends by itself after its span, with the result of its provider. -/
theorem call_run (provider : Provider σ) (state : σ) :
    ∃ ending final,
      (fanOut.call request stop start provider).run? start state =
        some (start + fanOut.span request stop start provider state, ending, final) ∧
      fanOut.resultOf (some ending) = fanOut.finalResult request stop start provider state := by
  have hbegin : start ≤ start + fanOut.deadline := Nat.le_add_right start fanOut.deadline
  have hlate : (∀ course, ((provider.retrying fanOut.retry).search request stop).run? start state =
      some course → start + fanOut.deadline < course.1) →
        ∃ final, (fanOut.call request stop start provider).run? start state =
          some (start + fanOut.deadline, .answered (.error fanOut.timeoutError), final) :=
    Task.within_run_of_late (Except.error fanOut.timeoutError) hbegin
  cases hrun : ((provider.retrying fanOut.retry).search request stop).run? start state with
  | none =>
    rw [hrun] at hlate
    obtain ⟨final, hfinal⟩ := hlate fun course hcourse ↦ absurd hcourse.symm (Option.some_ne_none _)
    refine ⟨.answered (.error fanOut.timeoutError), final, ?_, ?_⟩
    · rw [span, alone, hrun]
      exact hfinal
    · rw [finalResult, alone, hrun]
      rfl
  | some course =>
    obtain ⟨finish, ending, final⟩ := course
    have hspan : start + min fanOut.deadline (finish - start) =
        min (start + fanOut.deadline) finish := by
      rw [← Nat.add_min_add_left, Nat.add_sub_of_le (Task.le_of_run hrun)]
    by_cases hfinish : finish ≤ start + fanOut.deadline
    · refine ⟨ending, final, ?_, ?_⟩
      · rw [span, alone, hrun]
        dsimp only
        rw [hspan, Nat.min_eq_right hfinish]
        exact Task.within_run_of_inTime _ hrun hfinish
      · rw [finalResult, alone, hrun]
        cases ending with
        | answered answer => exact (if_pos hfinish).symm
        | crashed => exact (if_pos hfinish).symm
    · have hafter : start + fanOut.deadline < finish := Nat.lt_of_not_le hfinish
      rw [hrun] at hlate
      obtain ⟨last, hlast⟩ := hlate fun course hcourse ↦ (Option.some.inj hcourse) ▸ hafter
      refine ⟨.answered (.error fanOut.timeoutError), last, ?_, ?_⟩
      · rw [span, alone, hrun]
        dsimp only
        rw [hspan, Nat.min_eq_left (Nat.le_of_lt hafter)]
        exact hlast
      · rw [finalResult, alone, hrun]
        cases ending with
        | answered answer => exact (if_neg hfinish).symm
        | crashed => exact (if_neg hfinish).symm

variable (states : List σ)

theorem map_resultOf_alone (providers : List (Provider σ)) :
    (Crowd.alone start (providers.map (fanOut.call request stop start)) states).map
        (fun course ↦ fanOut.resultOf (course.map fun course ↦ course.2.1)) =
      List.zipWith (fanOut.finalResult request stop start) providers states := by
  induction providers generalizing states with
  | nil => rfl
  | cons provider providers ih =>
    cases states with
    | nil => rfl
    | cons state states =>
      obtain ⟨ending, final, hrun, hresult⟩ := fanOut.call_run request stop start provider state
      simp only [Crowd.alone, List.map_cons, List.zipWith_cons_cons, hrun, Option.map_some]
      rw [hresult]
      exact congrArg _ (ih states)

theorem lastEnd_alone (providers : List (Provider σ)) :
    Crowd.lastEnd start
        (Crowd.alone start (providers.map (fanOut.call request stop start)) states) =
      start + (List.zipWith (fanOut.span request stop start) providers states).foldr max 0 := by
  induction providers generalizing states with
  | nil => rfl
  | cons provider providers ih =>
    cases states with
    | nil => rfl
    | cons state states =>
      obtain ⟨ending, final, hrun, -⟩ := fanOut.call_run request stop start provider state
      simp only [Crowd.alone, List.map_cons, List.zipWith_cons_cons, hrun, List.foldr_cons]
      exact (congrArg (max _) (ih states)).trans (Nat.add_max_add_left ..)

/-- Each provider with a state of its own comes to its final result, whatever the others do. -/
theorem course_results (hstates : states.length = fanOut.providers.length) :
    (fanOut.course request stop start states).calls.map fanOut.result =
      List.zipWith (fanOut.finalResult request stop start) fanOut.providers states := by
  have hruns := fanOut.course_runs request stop start states
  have hlength : (fanOut.calls request stop start).length ≤ states.length := by
    rw [calls, List.length_map]
    exact Nat.le_of_eq hstates.symm
  have hendings := hruns.endings_eq hlength
  calc
    _ = (Crowd.endings (fanOut.course request stop start states).calls).map fanOut.resultOf := by
      rw [Crowd.endings, List.map_map]
      rfl
    _ = _ := by
      rw [hendings, List.map_map]
      exact fanOut.map_resultOf_alone request stop start states fanOut.providers

/-- A leg is over when the slowest provider has ended or missed its deadline. -/
theorem course_finish :
    (fanOut.course request stop start states).finish = start +
      (List.zipWith (fanOut.span request stop start) fanOut.providers states).foldr max 0 := by
  rw [(fanOut.course_runs request stop start states).finish_eq
    (fanOut.calls_endsBy request stop start)]
  exact fanOut.lastEnd_alone request stop start states fanOut.providers

theorem outcomes_eq (tasks : List (Task σ Answer)) :
    fanOut.outcomes tasks =
      List.zipWith ProviderOutcome.mk fanOut.names (tasks.map fanOut.result) :=
  List.zipWith_map_right.symm

theorem map_result_outcomes {tasks : List (Task σ Answer)}
    (h : tasks.length = fanOut.providers.length) :
    (fanOut.outcomes tasks).map (·.result) = tasks.map fanOut.result := by
  have hlength : (tasks.map fanOut.result).length = fanOut.names.length := by
    rw [List.length_map, names, List.length_map, h]
  rw [outcomes_eq, List.map_zipWith]
  exact List.map_zip_eq_zipWith.symm.trans (List.map_snd_zip (Nat.le_of_eq hlength))

/-- Pauses for some milliseconds, and then does what it does. -/
def slowProvider (name : String) (millis : ℕ) (ending : Task Unit Answer) : Provider Unit where
  name
  search _ stop := .pause (Duration.ofMillis millis) stop (fun _ ↦ ending)
    (fun _ ↦ .done (.error .cancelled))

end FareSearch.FanOut
