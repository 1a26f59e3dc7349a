import FareSearch.Proofs.Timed.Sequence

/-!
# Tasks that are written down

To tell how often something was run and when, it is run with a diary: each run has an entry there,
made when it begins and completed when it ends with a result. The diary takes no time and leaves the
rest of the state as it is.
-/

namespace FareSearch

/-- A run with its label: when it began, and when it ended if it did. -/
structure Span (ι : Type) where
  label : ι
  start : Instant
  finish : Option Instant := none
  deriving DecidableEq

abbrev Diary (ι : Type) := List (Span ι)

namespace Task

variable {ι σ α : Type}

/-- The task with an entry in a diary. -/
def recorded (label : ι) (task : Task σ α) : Task (Diary ι × σ) α :=
  .act (fun now state ↦ (state.1 ++ [{ label, start := now }], state.2)) fun start _ ↦
    (task.focus Prod.snd fun inner state ↦ (state.1, inner)).bind fun result ↦
      .act
        (fun now state ↦
          (state.1.dropLast ++ [{ label, start, finish := some now }], state.2))
        fun _ _ ↦ .done result

variable {task : Task σ α} {label : ι} {now finish : ℕ} {state after : σ} {diary : Diary ι}
  {result : α}

theorem run_recorded (h : task.run? now state = some (finish, .answered result, after))
    (label : ι) (diary : Diary ι) :
    (task.recorded label).run? now (diary, state) =
      some (finish, .answered result, diary ++ [⟨label, now, some finish⟩], after) := by
  have hinner : (task.focus Prod.snd fun inner state ↦ (state.1, inner)).run? now
      (diary ++ [⟨label, now, none⟩], state) =
        some (finish, .answered result, diary ++ [⟨label, now, none⟩], after) := by
    rw [run_focus isPart_snd, h]
    rfl
  rw [recorded, run_act, run_bind_of_answered hinner, run_act, List.dropLast_concat]
  rfl

/-- A recorded run that comes to a result is a run of the task itself, and its entry is closed. -/
theorem exists_run_of_recorded {final : Diary ι × σ}
    (h : (task.recorded label).run? now (diary, state) = some (finish, .answered result, final)) :
    ∃ after, task.run? now state = some (finish, .answered result, after) ∧
      final = (diary ++ [⟨label, now, some finish⟩], after) := by
  cases hrun : task.run? now state with
  | none => simp [recorded, run_act, run_bind, run_focus isPart_snd, hrun] at h
  | some course =>
    obtain ⟨ended, _ | answer, after⟩ := course
    · rw [run_recorded hrun] at h
      cases h
      exact ⟨after, rfl, rfl⟩
    · simp [recorded, run_act, run_bind, run_focus isPart_snd, hrun] at h

/-- A state passed on the way: the entry is not there yet, or is open, or the task has ended and the
entry says when. -/
theorem Passes.of_recorded {final : Diary ι × σ}
    (h : (task.recorded label).Passes now (diary, state) final) :
    final = (diary, state) ∨ final.1 = diary ++ [⟨label, now, none⟩] ∨
      ∃ finish result after, task.run? now state = some (finish, .answered result, after) ∧
        final = (diary ++ [⟨label, now, some finish⟩], after) := by
  rcases h.of_act with hbefore | h
  · exact .inl hbefore
  · right
    rcases h.of_bind with hinner | ⟨finish, result, middle, hrun, hnext⟩
    · obtain ⟨inner, -, rfl⟩ := hinner.of_focus isPart_snd
      exact .inl rfl
    · rw [run_focus isPart_snd] at hrun
      obtain ⟨⟨_, _, after⟩, hcourse, hends⟩ := Option.map_eq_some_iff.mp hrun
      simp only [Prod.mk.injEq] at hends
      obtain ⟨rfl, rfl, rfl⟩ := hends
      rcases hnext.of_act with rfl | hlast
      · exact .inl rfl
      · rw [hlast.of_done, List.dropLast_concat]
        exact .inr ⟨_, _, _, hcourse, rfl⟩

end Task

end FareSearch
