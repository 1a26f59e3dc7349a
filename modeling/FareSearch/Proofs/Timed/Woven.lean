import FareSearch.Timed.Crowd
import Mathlib.Data.List.Basic

/-!
# Tasks that take turns in any order

A crowd lets its tasks go on in the order of the list and wakes them at the first possible instant.
Here both are left open: any task that has not to wait may take the next turn, and as late as it
likes, on a clock that does not go back. A task that comes later is one that takes its first turn
later. Tasks are prompt if only the order is left open, and the clock stops wherever one of them is
to go on.
-/

namespace FareSearch.Crowd

variable {σ α : Type}

/-- What tasks on a shared state may have come to by an instant. -/
inductive Woven (tasks : List (Task σ α)) (state : σ) : Instant → List (Task σ α) → σ → Prop
  | begins (now : Instant) : Woven tasks state now tasks state
  | waits {past now : Instant} {running : List (Task σ α)} {shared : σ}
      (woven : Woven tasks state past running shared) (clock : past ≤ now) :
      Woven tasks state now running shared
  | turns {now : Instant} {running : List (Task σ α)} {shared : σ} {index : ℕ}
      {ready : σ → Option Instant} {update : Instant → σ → σ} {next : Instant → σ → Task σ α}
      (woven : Woven tasks state now running shared)
      (task : running[index]? = some (.await ready update next))
      (woken : (ready shared).any (· ≤ now) = true) :
      Woven tasks state now (running.set index (next now shared)) (update now shared)

/-- What tasks on a shared state may have come to by an instant if none oversleeps: the clock stops
at every instant that a task waits for. -/
inductive Prompt (tasks : List (Task σ α)) (state : σ) : Instant → List (Task σ α) → σ → Prop
  | begins : Prompt tasks state 0 tasks state
  | waits {past now : Instant} {running : List (Task σ α)} {shared : σ}
      (prompt : Prompt tasks state past running shared) (clock : past ≤ now)
      (slept : ∀ due ∈ running.filterMap (Task.wake? · shared), now ≤ due) :
      Prompt tasks state now running shared
  | turns {now : Instant} {running : List (Task σ α)} {shared : σ} {index : ℕ}
      {ready : σ → Option Instant} {update : Instant → σ → σ} {next : Instant → σ → Task σ α}
      (prompt : Prompt tasks state now running shared)
      (task : running[index]? = some (.await ready update next))
      (woken : (ready shared).any (· ≤ now) = true) :
      Prompt tasks state now (running.set index (next now shared)) (update now shared)

variable {tasks running : List (Task σ α)} {state shared : σ} {now : Instant}

section Advancing

/-- What holds of tasks at an instant and goes on to hold when one of them takes a turn. -/
def KeptByTurns (now : Instant) (kept : List (Task σ α) → σ → Prop) : Prop :=
  ∀ (running : List (Task σ α)) (shared : σ) (index : ℕ) (ready : σ → Option Instant)
    (update : Instant → σ → σ) (next : Instant → σ → Task σ α), kept running shared →
    running[index]? = some (.await ready update next) → (ready shared).any (· ≤ now) = true →
    kept (running.set index (next now shared)) (update now shared)

variable {kept : List (Task σ α) → σ → Prop}

/-- A task that runs until it ends or has to wait takes turns of its own only. -/
theorem KeptByTurns.advance {index : ℕ} {task : Task σ α} (turns : KeptByTurns now kept)
    (h : kept running shared) (htask : running[index]? = some task) :
    kept (running.set index (task.advance now shared).1) (task.advance now shared).2 := by
  have hsame (task : Task σ α) (running : List (Task σ α)) (htask : running[index]? = some task) :
      running.set index task = running := by
    obtain ⟨hindex, rfl⟩ := List.getElem?_eq_some_iff.mp htask
    exact List.set_getElem_self hindex
  induction task generalizing running shared with
  | done result =>
    rw [Task.advance, hsame _ _ htask]
    exact h
  | crashed =>
    rw [Task.advance, hsame _ _ htask]
    exact h
  | await ready update next ih =>
    rw [Task.advance]
    split
    next hwoken =>
      have hindex : index < running.length := (List.getElem?_eq_some_iff.mp htask).1
      have hturned := ih now shared (turns _ _ _ _ _ _ h htask hwoken)
        (List.getElem?_set_self hindex)
      rwa [List.set_set] at hturned
    next =>
      rw [hsame _ _ htask]
      exact h

/-- The turns of a crowd at one instant, task by task. -/
theorem KeptByTurns.advanceShared (turns : KeptByTurns now kept) (before : List (Task σ α))
    (h : kept (before ++ running) shared) :
    kept (before ++ (Crowd.advanceShared now running shared).1)
      (Crowd.advanceShared now running shared).2 := by
  induction running generalizing before shared with
  | nil => exact h
  | cons task rest ih =>
    have htask : (before ++ task :: rest)[before.length]? = some task := by simp
    have hturned := turns.advance h htask
    rw [List.set_append_right _ _ (Nat.le_refl _), Nat.sub_self, List.set_cons_zero,
      List.append_cons] at hturned
    have hrest := ih _ hturned
    rw [Crowd.advanceShared]
    rwa [List.append_assoc] at hrest

end Advancing

theorem Woven.advanceShared (before : List (Task σ α))
    (woven : Woven tasks state now (before ++ running) shared) :
    Woven tasks state now (before ++ (Crowd.advanceShared now running shared).1)
      (Crowd.advanceShared now running shared).2 := by
  have hturns : KeptByTurns now (Woven tasks state now) := fun _ _ _ _ _ _ ↦ Woven.turns
  exact hturns.advanceShared before woven

theorem Prompt.advanceShared (prompt : Prompt tasks state now running shared) :
    Prompt tasks state now (Crowd.advanceShared now running shared).1
      (Crowd.advanceShared now running shared).2 := by
  have hturns : KeptByTurns now (Prompt tasks state now) := fun _ _ _ _ _ _ ↦ Prompt.turns
  exact hturns.advanceShared [] prompt

theorem foldl_earlier (tasks : List (Task σ α)) (first : Instant) :
    tasks.foldl (fun wake task ↦ earlier wake (task.wake? shared)) (some first) =
      some ((tasks.filterMap (Task.wake? · shared)).foldl min first) := by
  induction tasks generalizing first with
  | nil => rfl
  | cons task rest ih =>
    rw [List.foldl_cons, List.filterMap_cons]
    cases hwake : task.wake? shared with
    | none => exact ih first
    | some due => exact ih (min first due)

/-- The next instant for a crowd is the first that one of its tasks waits for. -/
theorem wakeShared_eq_min (tasks : List (Task σ α)) (shared : σ) :
    wakeShared? tasks shared = (tasks.filterMap (Task.wake? · shared)).min? := by
  induction tasks with
  | nil => rfl
  | cons task rest ih =>
    rw [wakeShared?, List.foldl_cons, List.filterMap_cons]
    cases hwake : task.wake? shared with
    | none => exact ih
    | some due => exact foldl_earlier rest due

end FareSearch.Crowd
