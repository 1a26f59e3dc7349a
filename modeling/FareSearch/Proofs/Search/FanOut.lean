import FareSearch.Proofs.Timed.Crowd
import FareSearch.Search.FanOut

/-!
# The course of a leg

Asking all providers is one run of their calls. Each call has its deadline, so the run is carried
out to its end, and the results are those of the calls as the run left them.
-/

namespace FareSearch

/-- When a leg was over, what had become of the calls, and the states after them. -/
structure LegCourse (σ : Type) where
  finish : Instant
  calls : List (Task σ Answer)
  states : List σ

namespace LegCourse

variable {σ : Type}

/-- Every call has ended. -/
def joined (course : LegCourse σ) : Bool :=
  Crowd.allEnded course.calls

/-- The course of calls that run for at most `fuel` instants. The bound stays a variable here, since
the instants of a deadline are too many to be unfolded. -/
def ofCalls (fuel : ℕ) (start : Instant) (calls : List (Task σ Answer)) (states : List σ) :
    LegCourse σ :=
  let run := Crowd.runEach fuel start calls states
  ⟨run.1, run.2.1, run.2.2⟩

theorem ofCalls_runs {fuel start deadline : ℕ} {calls : List (Task σ Answer)}
    (h : ∀ task ∈ calls, task.EndsBy deadline) (hstart : start ≤ deadline)
    (hfuel : deadline < start + fuel) (states : List σ) :
    Crowd.Runs start calls states (ofCalls fuel start calls states).finish
      (ofCalls fuel start calls states).calls (ofCalls fuel start calls states).states :=
  Crowd.runs_runEach h hstart hfuel

theorem ofCalls_nil (fuel : ℕ) (start : Instant) (states : List σ) :
    ofCalls fuel start [] states = ⟨start, [], states⟩ := by
  cases fuel with
  | zero => rfl
  | succ fuel => simp [ofCalls, Crowd.runEach, Crowd.advanceEach, Crowd.wakeEach?]

end LegCourse

namespace FanOut

variable {σ : Type} (fanOut : FanOut σ) (request : SearchRequest) (stop : StopSignal)
  (start : Instant) (states : List σ)

/-- The course of a leg that is asked at an instant. -/
def course : LegCourse σ :=
  .ofCalls (fanOut.deadline + 2) start (fanOut.calls request stop start) states

theorem searchAll_eq_course :
    fanOut.searchAll request stop start states =
      ((fanOut.course request stop start states).finish,
        fanOut.outcomes (fanOut.course request stop start states).calls,
        (fanOut.course request stop start states).states) := by
  unfold searchAll course LegCourse.ofCalls
  generalize
    Crowd.runEach (fanOut.deadline + 2) start (fanOut.calls request stop start) states = run
  rfl

theorem calls_endsBy :
    ∀ task ∈ fanOut.calls request stop start, task.EndsBy (start + fanOut.deadline) := by
  intro task htask
  obtain ⟨provider, -, rfl⟩ := List.mem_map.mp htask
  exact Task.within_endsBy _ _ _

theorem course_runs :
    Crowd.Runs start (fanOut.calls request stop start) states
      (fanOut.course request stop start states).finish
      (fanOut.course request stop start states).calls
      (fanOut.course request stop start states).states := by
  have hends := fanOut.calls_endsBy request stop start
  unfold course
  generalize fanOut.deadline = deadline at hends ⊢
  exact LegCourse.ofCalls_runs hends (Nat.le_add_right start deadline) (by omega) states

theorem le_course_finish : start ≤ (fanOut.course request stop start states).finish :=
  (fanOut.course_runs request stop start states).le

/-- Providers with a state each have all ended when a leg is over, and still have their states. -/
theorem course_joined (h : fanOut.providers.length ≤ states.length) :
    (fanOut.course request stop start states).joined = true ∧
      (fanOut.course request stop start states).states.length = states.length := by
  have hruns := fanOut.course_runs request stop start states
  have hlength : (fanOut.calls request stop start).length ≤ states.length := by
    rw [calls, List.length_map]
    exact h
  exact ⟨hruns.allEnded (fanOut.calls_endsBy request stop start) hlength, hruns.length_eq.2⟩

/-- Without providers a leg is over at once. -/
theorem course_of_isEmpty (h : fanOut.providers = []) :
    fanOut.course request stop start states = ⟨start, [], states⟩ := by
  have hcalls : fanOut.calls request stop start = [] := by rw [calls, h, List.map_nil]
  rw [course, hcalls, LegCourse.ofCalls_nil]

end FanOut

end FareSearch
