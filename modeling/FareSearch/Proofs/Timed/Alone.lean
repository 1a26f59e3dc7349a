import FareSearch.Proofs.Timed.Crowd

/-!
# A task by itself and in a crowd

What a task comes to by itself does not depend on how often it is looked at before the instant it
waits for. Hence tasks on states of their own end in a crowd as each of them ends by itself, and the
crowd is done when the last of them is. A deadline leaves a task that ends by then as it is, and
ends every other one.
-/

namespace FareSearch

/-- The earlier of two instants is no later than each of them that comes. -/
theorem exists_earlier_le {left right : Option ℕ} {due : ℕ}
    (h : left = some due ∨ right = some due) :
    ∃ first, earlier left right = some first ∧ first ≤ due := by
  rcases h with rfl | rfl
  · cases right with
    | none => exact ⟨due, rfl, Nat.le_refl due⟩
    | some other => exact ⟨_, rfl, Nat.min_le_left due other⟩
  · cases left with
    | none => exact ⟨due, rfl, Nat.le_refl due⟩
    | some other => exact ⟨_, rfl, Nat.min_le_right other due⟩

namespace Task

variable {σ α : Type} {now later finish deadline : ℕ} {task : Task σ α} {state final : σ}
  {ending : Ending α}

theorem le_of_run (h : task.run? now state = some (finish, ending, final)) : now ≤ finish := by
  induction task generalizing now state with
  | done result =>
    rw [run?, Option.some.injEq, Prod.mk.injEq] at h
    exact Nat.le_of_eq h.1
  | crashed =>
    rw [run?, Option.some.injEq, Prod.mk.injEq] at h
    exact Nat.le_of_eq h.1
  | await ready update next ih =>
    rw [run?] at h
    cases hready : ready state with
    | none => simp [hready] at h
    | some due =>
      rw [hready] at h
      exact Nat.le_trans (Nat.le_max_left now due) (ih _ _ h)

/-- A task that waits for an instant does not end before it. -/
theorem wake_le_of_run {due : ℕ} (hwake : task.wake? state = some due)
    (h : task.run? now state = some (finish, ending, final)) : due ≤ finish := by
  cases task with
  | done result => simp [wake?] at hwake
  | crashed => simp [wake?] at hwake
  | await ready update next =>
    rw [wake?] at hwake
    rw [run?, hwake] at h
    exact Nat.le_trans (Nat.le_max_right now due) (le_of_run h)

/-- Going on as far as possible at the instant of the beginning changes nothing. -/
theorem run_advance (now : ℕ) (task : Task σ α) (state : σ) :
    (task.advance now state).1.run? now (task.advance now state).2 = task.run? now state := by
  induction task generalizing state with
  | done result => rfl
  | crashed => rfl
  | await ready update next ih =>
    unfold advance
    cases hready : ready state with
    | none => simp
    | some due =>
      rw [Option.any_some]
      by_cases hdue : due ≤ now
      · rw [if_pos (decide_eq_true hdue), ih, run?, hready]
        simp only [Nat.max_eq_left hdue]
      · rw [if_neg (by simpa using hdue)]

/-- A task that is left alone until an instant no later than the one it waits for comes to the same.
Only a task that has ended already is found to have ended at the later instant. -/
theorem run_later (hnow : now ≤ later) (hwait : ∀ due, task.wake? state = some due → later ≤ due) :
    task.run? later state = (task.run? now state).map fun course ↦
      (max later course.1, course.2) := by
  cases task with
  | done result => simp [run?, Nat.max_eq_left hnow]
  | crashed => simp [run?, Nat.max_eq_left hnow]
  | await ready update next =>
    cases hready : ready state with
    | none => simp [run?, hready]
    | some due =>
      have hdue : later ≤ due := hwait due hready
      simp only [run?, hready, Nat.max_eq_right hdue, Nat.max_eq_right (Nat.le_trans hnow hdue)]
      cases hrun : (next due state).run? due (update due state) with
      | none => rfl
      | some course =>
        have hlate : later ≤ course.1 := Nat.le_trans hdue (le_of_run hrun)
        rw [Option.map_some, Nat.max_eq_right hlate]

/-- A task that waits for nothing has ended, or never ends. -/
theorem run_of_still (h : task.wake? state = none) :
    task.run? now state = task.ending?.map fun ending ↦ (now, ending, state) := by
  cases task with
  | done result => rfl
  | crashed => rfl
  | await ready update next =>
    rw [wake?] at h
    rw [run?, h]
    rfl

theorem exists_run_of_endsBy (h : task.EndsBy deadline) (now : ℕ) (state : σ) :
    ∃ course, task.run? now state = some course := by
  induction task generalizing now state with
  | done result => exact ⟨_, rfl⟩
  | crashed => exact ⟨_, rfl⟩
  | await ready update next ih =>
    obtain ⟨due, hready, -⟩ := h.1 state
    obtain ⟨course, hcourse⟩ := ih (max now due) state (h.2 _ _) (max now due)
      (update (max now due) state)
    exact ⟨course, by rw [run?, hready]; exact hcourse⟩

section Deadline

variable (expired : α)

/-- A task that ends by its deadline does not notice it. -/
theorem within_run_of_inTime (h : task.run? now state = some (finish, ending, final))
    (hfinish : finish ≤ deadline) :
    (task.within deadline expired).run? now state = some (finish, ending, final) := by
  induction task generalizing now state with
  | done result => exact h
  | crashed => exact h
  | await ready update next ih =>
    cases hready : ready state with
    | none => simp [run?, hready] at h
    | some due =>
      rw [run?, hready] at h
      have hdue : due ≤ deadline :=
        Nat.le_trans (Nat.le_max_right now due) (Nat.le_trans (le_of_run h) hfinish)
      have hawake : (ready state).any (· ≤ max now due) = true := by
        rw [hready, Option.any_some, decide_eq_true_eq]
        exact Nat.le_max_right now due
      rw [within, run?, hready, earlier, Nat.min_eq_left hdue]
      dsimp only
      rw [← hready, if_pos hawake, if_pos hawake]
      exact ih _ _ h

/-- A task that would end later, or never, is ended by its deadline. -/
theorem within_run_of_late (hnow : now ≤ deadline)
    (h : ∀ course, task.run? now state = some course → deadline < course.1) :
    ∃ final, (task.within deadline expired).run? now state =
      some (deadline, .answered expired, final) := by
  induction task generalizing now state with
  | done result => exact absurd (h _ rfl) (Nat.not_lt_of_le hnow)
  | crashed => exact absurd (h _ rfl) (Nat.not_lt_of_le hnow)
  | await ready update next ih =>
    by_cases hready : ∃ due, ready state = some due ∧ due ≤ deadline
    · obtain ⟨due, hready, hdue⟩ := hready
      rw [run?, hready] at h
      have hawake : (ready state).any (· ≤ max now due) = true := by
        rw [hready, Option.any_some, decide_eq_true_eq]
        exact Nat.le_max_right now due
      obtain ⟨final, hfinal⟩ := ih _ _ (Nat.max_le.mpr ⟨hnow, hdue⟩) h
      refine ⟨final, ?_⟩
      rw [within, run?, hready, earlier, Nat.min_eq_left hdue]
      dsimp only
      rw [← hready, if_pos hawake, if_pos hawake]
      exact hfinal
    · -- The deadline comes first, and the task still waits then.
      have hwake : earlier (ready state) (some deadline) = some deadline := by
        cases hdue : ready state with
        | none => rfl
        | some due =>
          have hlate : deadline ≤ due := by
            apply Nat.le_of_not_le
            exact fun hle ↦ hready ⟨due, hdue, hle⟩
          rw [earlier, Nat.min_eq_right hlate]
      have hasleep : (ready state).any (· ≤ deadline) = false := by
        rw [Option.any_eq_false]
        intro due hdue
        simpa using fun hle ↦ hready ⟨due, hdue, hle⟩
      refine ⟨state, ?_⟩
      rw [within, run?, hwake]
      simp only [Nat.max_eq_right hnow, hasleep]
      rfl

end Deadline

end Task

namespace Crowd

variable {σ α : Type} {now wake finish deadline : ℕ} {tasks ended : List (Task σ α)}
  {states final : List σ}

/-- What each task comes to by itself. -/
def alone (now : ℕ) (tasks : List (Task σ α)) (states : List σ) :
    List (Option (ℕ × Ending α × σ)) :=
  List.zipWith (fun task state ↦ task.run? now state) tasks states

/-- The latest end of the tasks, each by itself; a task that never ends does not count. -/
def lastEnd (now : ℕ) (courses : List (Option (ℕ × Ending α × σ))) : ℕ :=
  courses.foldr (fun course latest ↦ course.elim latest fun course ↦ max course.1 latest) now

theorem alone_advanceEach (now : ℕ) (tasks : List (Task σ α)) (states : List σ) :
    alone now (advanceEach now tasks states).1 (advanceEach now tasks states).2 =
      alone now tasks states := by
  induction tasks generalizing states with
  | nil => rfl
  | cons task tasks ih =>
    cases states with
    | nil => rfl
    | cons state states =>
      simp only [advanceEach, alone, List.zipWith_cons_cons, Task.run_advance]
      exact congrArg _ (ih states)

theorem alone_later (hnow : now ≤ wake)
    (h : ∀ due, wakeEach? tasks states = some due → wake ≤ due) :
    alone wake tasks states = (alone now tasks states).map
      (Option.map fun course ↦ (max wake course.1, course.2)) := by
  induction tasks generalizing states with
  | nil => rfl
  | cons task tasks ih =>
    cases states with
    | nil => rfl
    | cons state states =>
      have hbound {due : ℕ}
          (hdue : task.wake? state = some due ∨ wakeEach? tasks states = some due) :
          wake ≤ due := by
        obtain ⟨first, hfirst, hle⟩ := exists_earlier_le hdue
        exact Nat.le_trans (h first hfirst) hle
      simp only [alone, List.zipWith_cons_cons, List.map_cons]
      rw [Task.run_later hnow fun due hdue ↦ hbound (.inl hdue)]
      exact congrArg _ (ih fun due hdue ↦ hbound (.inr hdue))

theorem alone_of_still (h : wakeEach? tasks states = none) :
    alone now tasks states = List.zipWith
      (fun task state ↦ task.ending?.map fun ending ↦ (now, ending, state)) tasks states := by
  induction tasks generalizing states with
  | nil => rfl
  | cons task tasks ih =>
    cases states with
    | nil => rfl
    | cons state states =>
      obtain ⟨hfirst, hrest⟩ := earlier_eq_none h
      simp only [alone, List.zipWith_cons_cons]
      rw [Task.run_of_still hfirst]
      exact congrArg _ (ih hrest)

theorem endings_of_still (hlength : tasks.length ≤ states.length)
    (h : wakeEach? tasks states = none) :
    endings tasks = (alone now tasks states).map (Option.map fun course ↦ course.2.1) := by
  rw [alone_of_still h]
  clear h
  induction tasks generalizing states with
  | nil => rfl
  | cons task tasks ih =>
    cases states with
    | nil => simp at hlength
    | cons state states =>
      have hrest := ih (Nat.le_of_succ_le_succ hlength)
      rw [endings, List.map_cons, List.zipWith_cons_cons, List.map_cons, ← hrest]
      simp [endings, Function.comp_def]

theorem lastEnd_later (hnow : now ≤ wake) (courses : List (Option (ℕ × Ending α × σ))) :
    lastEnd wake (courses.map (Option.map fun course ↦ (max wake course.1, course.2))) =
      max wake (lastEnd now courses) := by
  induction courses with
  | nil => exact (Nat.max_eq_left hnow).symm
  | cons course courses ih =>
    cases course with
    | none => exact ih
    | some course =>
      have hlast : lastEnd now (some course :: courses) = max course.1 (lastEnd now courses) := rfl
      calc
        _ = max (max wake course.1) (max wake (lastEnd now courses)) := by rw [← ih]; rfl
        _ = max wake (lastEnd now (some course :: courses)) := by rw [hlast]; omega

theorem lastEnd_of_still (h : wakeEach? tasks states = none) :
    lastEnd now (alone now tasks states) = now := by
  rw [alone_of_still h]
  induction tasks generalizing states with
  | nil => rfl
  | cons task tasks ih =>
    cases states with
    | nil => rfl
    | cons state states =>
      have hrest := ih (earlier_eq_none h).2
      rw [List.zipWith_cons_cons]
      cases task.ending? with
      | none => exact hrest
      | some ending => exact (congrArg (max now) hrest).trans (Nat.max_self now)

/-- Where every task ends, the one that is waited for ends no earlier than it wakes. -/
theorem wake_le_lastEnd (hends : ∀ task ∈ tasks, task.EndsBy deadline)
    (h : wakeEach? tasks states = some wake) : wake ≤ lastEnd now (alone now tasks states) := by
  induction tasks generalizing states with
  | nil => simp [wakeEach?] at h
  | cons task tasks ih =>
    cases states with
    | nil => simp [wakeEach?] at h
    | cons state states =>
      obtain ⟨course, hcourse⟩ :=
        Task.exists_run_of_endsBy (hends task List.mem_cons_self) now state
      have hlast : lastEnd now (alone now (task :: tasks) (state :: states)) =
          max course.1 (lastEnd now (alone now tasks states)) := by
        simp only [alone, List.zipWith_cons_cons, hcourse]
        rfl
      rw [hlast]
      rcases earlier_eq_some h with hfirst | hrest
      · exact Nat.le_trans (Task.wake_le_of_run hfirst hcourse) (Nat.le_max_left _ _)
      · have hothers : ∀ other ∈ tasks, other.EndsBy deadline :=
          fun other hother ↦ hends other (List.mem_cons_of_mem task hother)
        exact Nat.le_trans (ih hothers hrest) (Nat.le_max_right _ _)

/-- The courses of tasks that go on at the next instant of their crowd. -/
theorem alone_of_next
    (next : wakeEach? (advanceEach now tasks states).1 (advanceEach now tasks states).2 =
      some wake) :
    alone wake (advanceEach now tasks states).1 (advanceEach now tasks states).2 =
      (alone now tasks states).map (Option.map fun course ↦ (max wake course.1, course.2)) := by
  have hlater : now ≤ wake := Nat.le_of_lt (lt_of_wakeEach_advanceEach next)
  rw [alone_later hlater, alone_advanceEach]
  intro due hdue
  rw [next, Option.some.injEq] at hdue
  exact Nat.le_of_eq hdue

/-- Tasks on states of their own end as each of them ends by itself. -/
theorem Runs.endings_eq (h : Runs now tasks states finish ended final)
    (hlength : tasks.length ≤ states.length) :
    endings ended = (alone now tasks states).map (Option.map fun course ↦ course.2.1) := by
  induction h with
  | @settled now tasks states still =>
    obtain ⟨htasks, hstates⟩ := length_advanceEach now tasks states
    rw [endings_of_still (by omega) still, alone_advanceEach]
  | @goesOn now wake finish tasks ended states final next rest ih =>
    obtain ⟨htasks, hstates⟩ := length_advanceEach now tasks states
    rw [ih (by omega), alone_of_next next, List.map_map]
    simp only [Function.comp_def, Option.map_map]

theorem final_of_still {courses : List (ℕ × Ending α × σ)} (h : wakeEach? tasks states = none)
    (hlength : states.length = tasks.length)
    (hcourses : alone now tasks states = courses.map some) :
    states = courses.map fun course ↦ course.2.2 := by
  rw [alone_of_still h] at hcourses
  clear h
  induction tasks generalizing states courses with
  | nil =>
    obtain rfl : states = [] := List.eq_nil_of_length_eq_zero hlength
    obtain rfl : courses = [] := by simpa using hcourses.symm
    rfl
  | cons task tasks ih =>
    cases states with
    | nil => simp at hlength
    | cons state states =>
      cases courses with
      | nil => simp at hcourses
      | cons course courses =>
        simp only [List.zipWith_cons_cons, List.map_cons, List.cons.injEq] at hcourses
        obtain ⟨hfirst, hrest⟩ := hcourses
        obtain ⟨ending, -, rfl⟩ := Option.map_eq_some_iff.mp hfirst
        exact congrArg (state :: ·) (ih (Nat.succ.inj hlength) hrest)

/-- Tasks on states of their own, which all end, leave the states that each of them leaves by
itself. -/
theorem Runs.final_eq (h : Runs now tasks states finish ended final)
    (hlength : states.length = tasks.length) {courses : List (ℕ × Ending α × σ)}
    (hcourses : alone now tasks states = courses.map some) :
    final = courses.map fun course ↦ course.2.2 := by
  induction h generalizing courses with
  | @settled now tasks states still =>
    obtain ⟨htasks, hstates⟩ := length_advanceEach now tasks states
    rw [← alone_advanceEach] at hcourses
    exact final_of_still still (by omega) hcourses
  | @goesOn now wake finish tasks ended states final next rest ih =>
    obtain ⟨htasks, hstates⟩ := length_advanceEach now tasks states
    have hlater : alone wake (advanceEach now tasks states).1 (advanceEach now tasks states).2 =
        (courses.map fun course ↦ (max wake course.1, course.2)).map some := by
      rw [alone_of_next next, hcourses, List.map_map, List.map_map]
      rfl
    rw [ih (by omega) hlater, List.map_map]
    rfl

/-- A crowd in which every task ends is done at the end of the last of them. -/
theorem Runs.finish_eq (h : Runs now tasks states finish ended final)
    (hends : ∀ task ∈ tasks, task.EndsBy deadline) :
    finish = lastEnd now (alone now tasks states) := by
  induction h with
  | @settled now tasks states still =>
    rw [← alone_advanceEach, lastEnd_of_still still]
  | @goesOn now wake finish tasks ended states final next rest ih =>
    have hlater : now ≤ wake := Nat.le_of_lt (lt_of_wakeEach_advanceEach next)
    have hwake : wake ≤ lastEnd now (alone now tasks states) := by
      rw [← alone_advanceEach]
      exact wake_le_lastEnd (advanceEach_endsBy hends) next
    rw [ih (advanceEach_endsBy hends), alone_of_next next, lastEnd_later hlater,
      Nat.max_eq_right hwake]

end Crowd

end FareSearch
