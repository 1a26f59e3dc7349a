import FareSearch.Proofs.Timed.Task
import FareSearch.Timed.Crowd

/-!
# Runs of a crowd

The run of tasks on states of their own, told without a bound on the number of instants: each time
all tasks advance, and the clock moves to the next instant one of them waits for, until none waits
any more. Where every task has a deadline, enough fuel carries out this run.
-/

namespace FareSearch.Crowd

variable {σ α : Type} {now finish deadline : ℕ} {tasks ended : List (Task σ α)}
  {states final : List σ}

/-- Tasks that begin to run at an instant, and what has become of them at the last one. -/
inductive Runs : ℕ → List (Task σ α) → List σ → ℕ → List (Task σ α) → List σ → Prop
  | settled {now : ℕ} {tasks : List (Task σ α)} {states : List σ}
      (still : wakeEach? (advanceEach now tasks states).1 (advanceEach now tasks states).2 = none) :
      Runs now tasks states now (advanceEach now tasks states).1 (advanceEach now tasks states).2
  | goesOn {now wake finish : ℕ} {tasks ended : List (Task σ α)} {states final : List σ}
      (next : wakeEach? (advanceEach now tasks states).1 (advanceEach now tasks states).2 =
        some wake)
      (rest : Runs wake (advanceEach now tasks states).1 (advanceEach now tasks states).2
        finish ended final) :
      Runs now tasks states finish ended final

theorem lt_of_wakeEach_advanceEach {wake : ℕ}
    (h : wakeEach? (advanceEach now tasks states).1 (advanceEach now tasks states).2 = some wake) :
    now < wake := by
  induction tasks generalizing states with
  | nil => simp [advanceEach, wakeEach?] at h
  | cons task tasks ih =>
    cases states with
    | nil => simp [advanceEach, wakeEach?] at h
    | cons state states =>
      rw [advanceEach, wakeEach?] at h
      rcases earlier_eq_some h with hfirst | hrest
      · exact Task.lt_of_wake_advance hfirst
      · exact ih hrest

theorem advanceEach_endsBy (h : ∀ task ∈ tasks, task.EndsBy deadline) :
    ∀ task ∈ (advanceEach now tasks states).1, task.EndsBy deadline := by
  induction tasks generalizing states with
  | nil => simp [advanceEach]
  | cons task tasks ih =>
    cases states with
    | nil => exact h
    | cons state states =>
      intro advanced hadvanced
      rw [advanceEach, List.mem_cons] at hadvanced
      rcases hadvanced with rfl | hadvanced
      · exact Task.advance_endsBy (h task List.mem_cons_self) now state
      · exact ih (fun other hother ↦ h other (List.mem_cons_of_mem task hother)) advanced hadvanced

theorem wakeEach_le {wake : ℕ} (h : ∀ task ∈ tasks, task.EndsBy deadline)
    (hwake : wakeEach? tasks states = some wake) : wake ≤ deadline := by
  induction tasks generalizing states with
  | nil => simp [wakeEach?] at hwake
  | cons task tasks ih =>
    cases states with
    | nil => simp [wakeEach?] at hwake
    | cons state states =>
      rw [wakeEach?] at hwake
      rcases earlier_eq_some hwake with hfirst | hrest
      · exact Task.wake_le (h task List.mem_cons_self) hfirst
      · exact ih (fun other hother ↦ h other (List.mem_cons_of_mem task hother)) hrest

/-- Ended tasks wait for nothing. -/
theorem wakeEach_of_allEnded (h : allEnded tasks = true) (states : List σ) :
    wakeEach? tasks states = none := by
  induction tasks generalizing states with
  | nil => simp [wakeEach?]
  | cons task tasks ih =>
    cases states with
    | nil => simp [wakeEach?]
    | cons state states =>
      rw [allEnded, List.all_cons, Bool.and_eq_true] at h
      rw [wakeEach?, Task.wake_of_ended h.1, ih h.2]
      rfl

/-- Tasks that must end, but of which none waits, have ended. -/
theorem allEnded_of_wakeEach (h : ∀ task ∈ tasks, task.EndsBy deadline)
    (hlength : tasks.length ≤ states.length) (hwake : wakeEach? tasks states = none) :
    allEnded tasks = true := by
  induction tasks generalizing states with
  | nil => rfl
  | cons task tasks ih =>
    cases states with
    | nil => simp at hlength
    | cons state states =>
      rw [wakeEach?] at hwake
      obtain ⟨hfirst, hrest⟩ := earlier_eq_none hwake
      have hended := Task.ended_of_wake (h task List.mem_cons_self) hfirst
      have hothers : allEnded tasks = true :=
        ih (fun other hother ↦ h other (List.mem_cons_of_mem task hother))
          (Nat.le_of_succ_le_succ hlength) hrest
      rw [allEnded, List.all_cons, Bool.and_eq_true]
      exact ⟨hended, hothers⟩

theorem length_advanceEach (now : ℕ) (tasks : List (Task σ α)) (states : List σ) :
    (advanceEach now tasks states).1.length = tasks.length ∧
      (advanceEach now tasks states).2.length = states.length := by
  induction tasks generalizing states with
  | nil => simp [advanceEach]
  | cons task tasks ih =>
    cases states with
    | nil => simp [advanceEach]
    | cons state states => simp [advanceEach, ih states]

theorem not_allEnded_of_wakeEach {wake : ℕ} (h : wakeEach? tasks states = some wake) :
    allEnded tasks = false := by
  cases hended : allEnded tasks with
  | false => rfl
  | true =>
    rw [wakeEach_of_allEnded hended] at h
    exact absurd h.symm (Option.some_ne_none wake)

theorem Runs.le (h : Runs now tasks states finish ended final) : now ≤ finish := by
  induction h with
  | settled => exact Nat.le_refl _
  | goesOn next rest ih => exact Nat.le_trans (Nat.le_of_lt (lt_of_wakeEach_advanceEach next)) ih

theorem Runs.length_eq (h : Runs now tasks states finish ended final) :
    ended.length = tasks.length ∧ final.length = states.length := by
  induction h with
  | @settled now tasks states still => exact length_advanceEach now tasks states
  | @goesOn now wake finish tasks ended states final next rest ih =>
    obtain ⟨htasks, hstates⟩ := length_advanceEach now tasks states
    exact ⟨ih.1.trans htasks, ih.2.trans hstates⟩

/-- Tasks with a deadline, each on a state, run until all have ended. -/
theorem Runs.allEnded (h : Runs now tasks states finish ended final)
    (hends : ∀ task ∈ tasks, task.EndsBy deadline) (hlength : tasks.length ≤ states.length) :
    allEnded ended = true := by
  induction h with
  | @settled now tasks states still =>
    obtain ⟨htasks, hstates⟩ := length_advanceEach now tasks states
    exact allEnded_of_wakeEach (advanceEach_endsBy hends) (by omega) still
  | @goesOn now wake finish tasks ended states final next rest ih =>
    obtain ⟨htasks, hstates⟩ := length_advanceEach now tasks states
    exact ih (advanceEach_endsBy hends) (by omega)

/-- Every instant of the run but the first lies after the one before and up to the deadline, so as
many steps as there are instants up to the deadline carry out the run. -/
theorem runs_runEach {fuel : ℕ} (h : ∀ task ∈ tasks, task.EndsBy deadline) (hnow : now ≤ deadline)
    (hfuel : deadline < now + fuel) :
    Runs now tasks states (runEach fuel now tasks states).1 (runEach fuel now tasks states).2.1
      (runEach fuel now tasks states).2.2 := by
  induction fuel generalizing now tasks states with
  | zero => omega
  | succ fuel ih =>
    rw [runEach]
    dsimp only
    cases hwake : wakeEach? (advanceEach now tasks states).1 (advanceEach now tasks states).2 with
    | none => exact .settled hwake
    | some wake =>
      have hlater := lt_of_wakeEach_advanceEach hwake
      have hends : ∀ task ∈ (advanceEach now tasks states).1, task.EndsBy deadline :=
        advanceEach_endsBy h
      exact .goesOn hwake (ih hends (wakeEach_le hends hwake) (by omega))

end FareSearch.Crowd
