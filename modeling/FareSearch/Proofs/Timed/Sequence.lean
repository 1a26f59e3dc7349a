import FareSearch.Proofs.Timed.Alone

/-!
# Tasks one after another

A task by itself that goes on with the result of another one begins when the other has ended, in the
state it left. A pause leaves the state alone; it lasts as long as it was meant to unless the stop
signal is given before its end. Besides its end, a run passes states on the way: each of them is
passed before the first task has ended or after that.
-/

namespace FareSearch

/-- Whether a pause that begins at an instant is over before it is cut by a stop signal. -/
def StopSignal.Spares (stop : StopSignal) (now : Instant) (duration : Duration) : Prop :=
  ∀ given : ℕ, stop = some given → now < given ∧ now + duration.asPause ≤ given

/-- A signal that is not given by the end of a pause spares it. -/
theorem StopSignal.spares_of_given {stop : StopSignal} {now : ℕ} {duration : Duration}
    (h : stop.given (now + duration.asPause) = false) : stop.Spares now duration := by
  rintro given rfl
  have hlt : now + duration.asPause < given := by simpa [StopSignal.given] using h
  exact ⟨Nat.lt_of_le_of_lt (Nat.le_add_right _ _) hlt, Nat.le_of_lt hlt⟩

theorem earlier_le {first due : ℕ} {other : Option ℕ} (h : earlier (some first) other = some due) :
    due ≤ first := by
  cases other with
  | none => exact Nat.le_of_eq (Option.some.inj h).symm
  | some second => exact (Option.some.inj h) ▸ Nat.min_le_left first second

namespace Task

variable {σ τ α β : Type} {now finish : ℕ}

section Runs

variable (now)

/-- The next task begins at the end of the first one, if it has a result. -/
theorem run_bind (task : Task σ α) (next : α → Task σ β) (state : σ) :
    (task.bind next).run? now state = (task.run? now state).bind fun course ↦
      match course.2.1 with
      | .answered result => (next result).run? course.1 course.2.2
      | .crashed => some (course.1, .crashed, course.2.2) := by
  induction task generalizing now state with
  | done result => rfl
  | crashed => rfl
  | await ready update rest ih =>
    rw [bind, run?, run?]
    cases ready state with
    | none => rfl
    | some due => exact ih _ _ _ _

variable {now} in
theorem run_bind_of_answered {task : Task σ α} {state middle : σ} {result : α}
    (h : task.run? now state = some (finish, .answered result, middle)) (next : α → Task σ β) :
    (task.bind next).run? now state = (next result).run? finish middle := by
  rw [run_bind, h]
  rfl

theorem run_act (update : Instant → σ → σ) (next : Instant → σ → Task σ α) (state : σ) :
    (act update next).run? now state = (next now state).run? now (update now state) := by
  rw [act, run?]
  simp only [Nat.max_zero]

/-- A pause that is not cut goes on at its end. -/
theorem run_pause_of_spares {duration : Duration} {stop : StopSignal}
    (h : stop.Spares now duration) (woken stopped : Instant → Task σ α) (state : σ) :
    (pause duration stop woken stopped).run? now state =
      (woken (now + duration.asPause)).run? (now + duration.asPause) state := by
  have hwake : earlier (some (now + duration.asPause)) stop =
      some (now + duration.asPause) := by
    cases stop with
    | none => rfl
    | some given => rw [earlier, Nat.min_eq_left (h given rfl).2]
  have hopen : stop.given now = false := by
    cases stop with
    | none => rfl
    | some given => simpa [StopSignal.given] using (h given rfl).1
  rw [pause, run_act, hopen, if_neg Bool.false_ne_true, untilStopped, run?, hwake]
  simp

/-- A signal that is given during a pause cuts it. -/
theorem run_pause_of_given {duration : Duration} {given : ℕ} (hafter : now < given)
    (hbefore : given < now + duration.asPause) (woken stopped : Instant → Task σ α) (state : σ) :
    (pause duration (some given) woken stopped).run? now state =
      (stopped given).run? given state := by
  have hopen : StopSignal.given (some given) now = false := by
    simpa [StopSignal.given] using hafter
  have hasleep : (some (now + duration.asPause)).any (· ≤ given) = false := by simpa using hbefore
  rw [pause, run_act, hopen, if_neg Bool.false_ne_true, untilStopped, run?, earlier,
    Nat.min_eq_right (Nat.le_of_lt hbefore)]
  simp only [Nat.max_eq_right (Nat.le_of_lt hafter), hasleep, Bool.false_eq_true, if_false]

end Runs

section Focus

/-- Reading and writing one part of a larger state. -/
structure IsPart (get : τ → σ) (set : σ → τ → τ) : Prop where
  get_set : ∀ part whole, get (set part whole) = part
  set_get : ∀ whole, set (get whole) whole = whole
  set_set : ∀ part other whole, set part (set other whole) = set part whole

theorem isPart_fst : IsPart (Prod.fst : σ × τ → σ) fun part whole ↦ (part, whole.2) :=
  ⟨fun _ _ ↦ rfl, fun _ ↦ rfl, fun _ _ _ ↦ rfl⟩

theorem isPart_snd : IsPart (Prod.snd : σ × τ → τ) fun part whole ↦ (whole.1, part) :=
  ⟨fun _ _ ↦ rfl, fun _ ↦ rfl, fun _ _ _ ↦ rfl⟩

variable {get : τ → σ} {set : σ → τ → τ}

/-- A task on a part of a state runs as it does on that part alone. -/
theorem run_focus (part : IsPart get set) (task : Task σ α) (now : ℕ) (state : τ) :
    (task.focus get set).run? now state = (task.run? now (get state)).map fun course ↦
      (course.1, course.2.1, set course.2.2 state) := by
  induction task generalizing now state with
  | done result => simp [focus, run?, part.set_get]
  | crashed => simp [focus, run?, part.set_get]
  | await ready update next ih =>
    rw [focus, run?, run?]
    cases ready (get state) with
    | none => rfl
    | some due =>
      dsimp only
      rw [ih, part.get_set]
      simp only [part.set_set]

end Focus

/-- The states that a task by itself passes until it ends or for ever. -/
inductive Passes : Instant → Task σ α → σ → σ → Prop
  | begins (now : Instant) (task : Task σ α) (state : σ) : Passes now task state state
  | wakes {now due : Instant} {ready : σ → Option Instant} {update : Instant → σ → σ}
      {next : Instant → σ → Task σ α} {state final : σ} (wake : ready state = some due)
      (rest : Passes (max now due) (next (max now due) state) (update (max now due) state) final) :
      Passes now (.await ready update next) state final

section Passing

variable {task : Task σ α} {state final : σ}

/-- The state in which a task ends is the last one it passes. -/
theorem passes_of_run {ending : Ending α} (h : task.run? now state = some (finish, ending, final)) :
    task.Passes now state final := by
  induction task generalizing now state with
  | done result =>
    simp only [run?, Option.some.injEq, Prod.mk.injEq] at h
    rw [← h.2.2]
    exact .begins now _ state
  | crashed =>
    simp only [run?, Option.some.injEq, Prod.mk.injEq] at h
    rw [← h.2.2]
    exact .begins now _ state
  | await ready update next ih =>
    rw [run?] at h
    cases hready : ready state with
    | none => simp [hready] at h
    | some due =>
      rw [hready] at h
      exact .wakes hready (ih _ _ h)

theorem Passes.of_done {result : α} (h : (done result : Task σ α).Passes now state final) :
    final = state := by
  cases h
  rfl

theorem Passes.of_act {update : Instant → σ → σ} {next : Instant → σ → Task σ α}
    (h : (act update next).Passes now state final) :
    final = state ∨ (next now state).Passes now (update now state) final := by
  cases h with
  | begins => exact .inl rfl
  | wakes wake rest =>
    cases wake
    rw [Nat.max_zero] at rest
    exact .inr rest

/-- A state that two tasks pass one after the other is passed by the first one, or by the second one
after the first has ended with a result. -/
theorem Passes.of_bind {next : α → Task σ β} (h : (task.bind next).Passes now state final) :
    task.Passes now state final ∨
      ∃ finish result middle, task.run? now state = some (finish, .answered result, middle) ∧
        (next result).Passes finish middle final := by
  induction task generalizing now state with
  | done result => exact .inr ⟨now, result, state, rfl, h⟩
  | crashed =>
    cases h with
    | begins => exact .inl (.begins _ _ _)
  | await ready update rest ih =>
    rw [bind] at h
    cases h with
    | begins => exact .inl (.begins _ _ _)
    | @wakes _ due _ _ _ _ _ wake later =>
      rcases ih _ _ later with hfirst | ⟨finish, result, middle, hrun, hnext⟩
      · exact .inl (.wakes wake hfirst)
      · exact .inr ⟨finish, result, middle, by rw [run?, wake]; exact hrun, hnext⟩

theorem Passes.of_focus {get : τ → σ} {set : σ → τ → τ} (part : IsPart get set) {whole last : τ}
    (h : (task.focus get set).Passes now whole last) :
    ∃ inner, task.Passes now (get whole) inner ∧ last = set inner whole := by
  induction task generalizing now whole with
  | done result => exact ⟨get whole, .begins now _ _, by rw [part.set_get]; exact h.of_done⟩
  | crashed =>
    cases h with
    | begins => exact ⟨_, .begins _ _ _, (part.set_get _).symm⟩
  | await ready update next ih =>
    rw [focus] at h
    cases h with
    | begins => exact ⟨_, .begins _ _ _, (part.set_get _).symm⟩
    | @wakes _ due _ _ _ _ _ wake rest =>
      obtain ⟨inner, hinner, hlast⟩ := ih _ _ rest
      rw [part.get_set] at hinner
      rw [part.set_set] at hlast
      exact ⟨inner, .wakes wake hinner, hlast⟩

/-- During a pause nothing changes. After it the task goes on at its end if it was not cut, and
otherwise as it does when it is stopped. -/
theorem Passes.of_pause {duration : Duration} {stop : StopSignal}
    {woken stopped : Instant → Task σ α}
    (h : (pause duration stop woken stopped).Passes now state final) :
    final = state ∨
      (woken (now + duration.asPause)).Passes (now + duration.asPause) state final ∨
      ∃ later, (stopped later).Passes later state final := by
  rcases h.of_act with hsame | h
  · exact .inl hsame
  · right
    split at h
    · exact .inr ⟨now, h⟩
    · unfold untilStopped at h
      cases h with
      | begins => exact .inr ⟨now, .begins _ _ _⟩
      | @wakes _ due _ _ _ _ _ wake rest =>
        dsimp only at rest
        split at rest
        next hwoken =>
          have hend : max now due = now + duration.asPause := by
            have hlast : due ≤ now + duration.asPause := earlier_le wake
            rw [Option.any_some, decide_eq_true_eq] at hwoken
            exact Nat.le_antisymm (Nat.max_le.mpr ⟨Nat.le_add_right _ _, hlast⟩) hwoken
          rw [hend] at rest
          exact .inl rest
        next => exact .inr ⟨_, rest⟩

end Passing

end Task

end FareSearch
