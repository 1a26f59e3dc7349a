import FareSearch.Timed.Task
import Mathlib.Data.Nat.Init

/-!
# How far a task goes at one instant

Advancing a task leaves nothing to be done at that instant: if it still waits, then for a later one.
A task under a deadline never waits past it, so at the deadline it ends.
-/

namespace FareSearch

theorem earlier_eq_some {left right : Option ℕ} {due : ℕ}
    (h : earlier left right = some due) : left = some due ∨ right = some due := by
  cases left with
  | none => exact .inr h
  | some first =>
    cases right with
    | none => exact .inl h
    | some second =>
      rw [earlier, Option.some.injEq] at h
      rcases Nat.le_total first second with hle | hle
      · exact .inl (by rw [← h, Nat.min_eq_left hle])
      · exact .inr (by rw [← h, Nat.min_eq_right hle])

theorem earlier_eq_none {left right : Option ℕ} (h : earlier left right = none) :
    left = none ∧ right = none := by
  cases left <;> cases right <;> simp_all [earlier]

theorem StopSignal.given_of_eq_some {signal : StopSignal} {due now : ℕ} (h : signal = some due)
    (hle : due ≤ now) : signal.given now = true := by
  rw [h, given, Option.any_some, decide_eq_true_eq]
  exact hle

/-- A signal that was given stays given. -/
theorem StopSignal.given_of_le {signal : StopSignal} {now later : ℕ} (h : signal.given now = true)
    (hle : now ≤ later) : signal.given later = true := by
  cases signal with
  | none => simp [given] at h
  | some due =>
    rw [given, Option.any_some, decide_eq_true_eq] at h
    exact given_of_eq_some rfl (Nat.le_trans h hle)

namespace Task

variable {σ α : Type}

/-- In whatever state, the task ends or waits for an instant up to the deadline. -/
def EndsBy (deadline : ℕ) : Task σ α → Prop
  | done _ => True
  | crashed => True
  | await ready _ next =>
    (∀ state, ∃ due, ready state = some due ∧ due ≤ deadline) ∧
      ∀ now state, (next now state).EndsBy deadline

theorem within_endsBy (deadline : ℕ) (expired : α) (task : Task σ α) :
    (task.within deadline expired).EndsBy deadline := by
  induction task with
  | done result => trivial
  | crashed => trivial
  | await ready update next ih =>
    constructor
    · intro state
      cases hready : ready state with
      | none => exact ⟨deadline, by simp [earlier, hready], Nat.le_refl _⟩
      | some due => exact ⟨min due deadline, by simp [earlier, hready], Nat.min_le_right _ _⟩
    · intro now state
      dsimp only
      split
      · exact ih now state
      · trivial

theorem advance_endsBy {deadline : ℕ} {task : Task σ α} (h : task.EndsBy deadline)
    (now : ℕ) (state : σ) : (task.advance now state).1.EndsBy deadline := by
  induction task generalizing state with
  | done result => trivial
  | crashed => trivial
  | await ready update next ih =>
    unfold advance
    split
    · exact ih now state (h.2 now state) (update now state)
    · exact h

/-- What an advanced task waits for is still to come. -/
theorem lt_of_wake_advance {now due : ℕ} {task : Task σ α} {state : σ}
    (h : (task.advance now state).1.wake? (task.advance now state).2 = some due) : now < due := by
  induction task generalizing state with
  | done result => simp [advance, wake?] at h
  | crashed => simp [advance, wake?] at h
  | await ready update next ih =>
    unfold advance at h
    split at h
    next => exact ih now state h
    next hready =>
      rw [wake?] at h
      simpa [h] using hready

theorem wake_le {deadline due : ℕ} {task : Task σ α} (h : task.EndsBy deadline) {state : σ}
    (hwake : task.wake? state = some due) : due ≤ deadline := by
  cases task with
  | done result => simp [wake?] at hwake
  | crashed => simp [wake?] at hwake
  | await ready update next =>
    obtain ⟨known, hknown, hle⟩ := h.1 state
    rw [wake?, hknown, Option.some.injEq] at hwake
    exact hwake ▸ hle

/-- A task that must end, but waits for nothing, has ended. -/
theorem ended_of_wake {deadline : ℕ} {task : Task σ α} (h : task.EndsBy deadline) {state : σ}
    (hwake : task.wake? state = none) : task.ending?.isSome = true := by
  cases task with
  | done result => rfl
  | crashed => rfl
  | await ready update next =>
    obtain ⟨due, hdue, -⟩ := h.1 state
    rw [wake?, hdue] at hwake
    exact absurd hwake (Option.some_ne_none due)

theorem wake_of_ended {task : Task σ α} (h : task.ending?.isSome = true) (state : σ) :
    task.wake? state = none := by
  cases task with
  | done result => rfl
  | crashed => rfl
  | await ready update next => simp [ending?] at h

end Task

end FareSearch
