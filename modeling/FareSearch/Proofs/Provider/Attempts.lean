import FareSearch.Proofs.Timed.Diary
import FareSearch.Provider.Retry
import Mathlib.Data.ENat.Lattice

/-!
# The attempts of a retry policy

An operation is tried until a result is final or the retries are used up. Where every attempt comes
to a result, what happens is settled by these results, the time that each attempt takes and the
pauses in between: the attempts are numbered from zero without a gap, each begins when the pause
after the one before it is over, and the result of the last one is passed on. A stop signal that is
given during a pause ends the whole; no further attempt is made.
-/

namespace FareSearch

namespace RetryPolicy

variable {σ α : Type}

/-- Whether a result is worth another attempt. -/
def isRetried (result : Except ProviderError α) : Bool :=
  match result with
  | .ok _ => false
  | .error error => error.isTransient

theorem exists_of_isRetried {result : Except ProviderError α} (h : isRetried result = true) :
    ∃ reason, result = .error (.transient reason) := by
  cases result with
  | ok value => cases h
  | error error =>
    cases error with
    | transient reason => exact ⟨reason, rfl⟩
    | _ => cases h

/-- The number of the first result that is final even if there are retries left. -/
noncomputable def firstFinal (results : ℕ → Except ProviderError α) : ℕ∞ :=
  ⨅ number ∈ {number | isRetried (results number) = false}, (number : ℕ∞)

theorem coe_eq_min_firstFinal {results : ℕ → Except ProviderError α} {last limit : ℕ}
    (hle : last ≤ limit) (hbefore : ∀ number < last, isRetried (results number) = true)
    (hlast : last = limit ∨ isRetried (results last) = false) :
    (last : ℕ∞) = min (firstFinal results) limit := by
  apply le_antisymm
  · refine le_min (le_iInf₂ fun number hfinal ↦ Nat.cast_le.mpr ?_) (Nat.cast_le.mpr hle)
    by_contra hlt
    exact Bool.false_ne_true (hfinal.symm.trans (hbefore number (Nat.not_le.mp hlt)))
  · rcases hlast with rfl | hfinal
    · exact min_le_right _ _
    · exact (min_le_left _ _).trans (iInf₂_le last hfinal)

/-- The next attempt begins when the pause after the one before it is over. -/
def Follows (policy : RetryPolicy) (earlier later : Span ℕ) : Prop :=
  ∃ ended, earlier.finish = some ended ∧
    later.start = ended + (policy.backoffFor earlier.label).asPause

variable {policy : RetryPolicy} {operation : ℕ → Task σ (Except ProviderError α)}
  {results : ℕ → Except ProviderError α}

/-- The course of the attempts from a number on, with so many retries left: what the diary says of
them, and the number, the end and the state of the last one. -/
inductive Tries (policy : RetryPolicy) (operation : ℕ → Task σ (Except ProviderError α))
    (results : ℕ → Except ProviderError α) : ℕ → ℕ → ℕ → σ → Diary ℕ → ℕ → ℕ → σ → Prop
  | final {retries number now finish : ℕ} {state after : σ}
      (course : (operation number).run? now state =
        some (finish, .answered (results number), after))
      (last : retries = 0 ∨ isRetried (results number) = false) :
      Tries policy operation results retries number now state [⟨number, now, some finish⟩]
        number finish after
  | again {retries number now ended last finish : ℕ} {state middle after : σ} {diary : Diary ℕ}
      (course : (operation number).run? now state =
        some (ended, .answered (results number), middle))
      (retried : isRetried (results number) = true)
      (rest : Tries policy operation results retries (number + 1)
        (ended + (policy.backoffFor number).asPause) middle diary last finish after) :
      Tries policy operation results (retries + 1) number now state
        (⟨number, now, some ended⟩ :: diary) last finish after

theorem exists_tries
    (answers : ∀ number now state, ∃ finish after,
      (operation number).run? now state = some (finish, .answered (results number), after))
    (retries number now : ℕ) (state : σ) :
    ∃ diary last finish after,
      Tries policy operation results retries number now state diary last finish after := by
  induction retries generalizing number now state with
  | zero =>
    obtain ⟨finish, after, hcourse⟩ := answers number now state
    exact ⟨_, _, _, _, .final hcourse (.inl rfl)⟩
  | succ retries ih =>
    obtain ⟨finish, middle, hcourse⟩ := answers number now state
    cases hretried : isRetried (results number) with
    | false => exact ⟨_, _, _, _, .final hcourse (.inr hretried)⟩
    | true =>
      obtain ⟨_, _, _, _, hrest⟩ :=
        ih (number + 1) (finish + (policy.backoffFor number).asPause) middle
      exact ⟨_, _, _, _, .again hcourse hretried hrest⟩

section Run

variable {stop : StopSignal} {retries number now ended : ℕ} {state after : σ}
  {result : Except ProviderError α}

theorem run_attempts_of_final
    (course : (operation number).run? now state = some (ended, .answered result, after))
    (last : retries = 0 ∨ isRetried result = false) :
    (policy.attempts stop operation number retries).run? now state =
      some (ended, .answered result, after) := by
  cases retries with
  | zero => exact course
  | succ retries =>
    have hfinal : isRetried result = false := last.resolve_left (Nat.succ_ne_zero _)
    rw [attempts, Task.run_bind_of_answered course]
    split
    next => cases hfinal
    next => rfl

theorem run_attempts_of_retried
    (course : (operation number).run? now state = some (ended, .answered result, after))
    (retried : isRetried result = true) :
    (policy.attempts stop operation number (retries + 1)).run? now state =
      (Task.pause (policy.backoffFor number) stop
        (fun _ ↦ policy.attempts stop operation (number + 1) retries)
        (fun _ ↦ .done (.error .cancelled))).run? ended after := by
  obtain ⟨reason, rfl⟩ := exists_of_isRetried retried
  rw [attempts, Task.run_bind_of_answered course]

end Run

namespace Tries

variable {retries number now last finish : ℕ} {state after : σ} {diary : Diary ℕ}
  (h : Tries policy operation results retries number now state diary last finish after)

include h

theorem number_le : number ≤ last := by
  induction h with
  | final => exact Nat.le_refl _
  | again course retried rest ih => omega

theorem last_le : last ≤ number + retries := by
  induction h with
  | final => omega
  | again course retried rest ih => omega

theorem isRetried_before {other : ℕ} (hfirst : number ≤ other) (hlast : other < last) :
    isRetried (results other) = true := by
  induction h with
  | final => omega
  | again course retried rest ih =>
    rcases Nat.eq_or_lt_of_le hfirst with rfl | hlater
    · exact retried
    · exact ih hlater hlast

theorem last_final : last = number + retries ∨ isRetried (results last) = false := by
  induction h with
  | final course last => exact last.imp_left fun hnone ↦ by rw [hnone, Nat.add_zero]
  | again course retried rest ih => exact ih.imp_left fun heq ↦ by omega

theorem labels : diary.map Span.label = List.range' number (last + 1 - number) := by
  induction h with
  | final => simp
  | @again _ number _ _ last _ _ _ _ _ course retried rest ih =>
    have hle := rest.number_le
    rw [List.map_cons, ih, show last + 1 - number = last + 1 - (number + 1) + 1 by omega,
      List.range'_succ]

theorem head_start : diary.head?.map Span.start = some now := by
  cases h <;> rfl

theorem getLast_finish : diary.getLast?.bind Span.finish = some finish := by
  induction h with
  | final => rfl
  | again course retried rest ih =>
    cases rest with
    | final => rfl
    | again => exact ih

theorem spaced : diary.IsChain policy.Follows := by
  induction h with
  | final => exact List.isChain_singleton _
  | again course retried rest ih =>
    cases rest with
    | final => exact ih.cons_cons ⟨_, rfl, rfl⟩
    | again => exact ih.cons_cons ⟨_, rfl, rfl⟩

theorem now_le : now ≤ finish := by
  induction h with
  | final course => exact Task.le_of_run course
  | again course retried rest ih =>
    exact (Task.le_of_run course).trans ((Nat.le_add_right _ _).trans ih)

theorem now_le_ended {span : Span ℕ} (hmem : span ∈ diary) {ended : ℕ}
    (hended : span.finish = some ended) : now ≤ ended := by
  induction h with
  | final course =>
    obtain rfl := List.mem_singleton.mp hmem
    cases hended
    exact Task.le_of_run course
  | again course retried rest ih =>
    have hle := Task.le_of_run course
    rcases List.mem_cons.mp hmem with rfl | hlater
    · cases hended
      exact hle
    · exact hle.trans ((Nat.le_add_right _ _).trans (ih hlater))

/-- The policy takes the course unless a stop signal is given by its end. -/
theorem run {stop : StopSignal} (hstop : stop.given finish = false) (earlier : Diary ℕ) :
    (policy.attempts stop (fun number ↦ (operation number).recorded number) number retries).run?
        now (earlier, state) =
      some (finish, .answered (results last), earlier ++ diary, after) := by
  induction h generalizing earlier with
  | @final _ number _ _ _ _ course last =>
    exact run_attempts_of_final (Task.run_recorded course number earlier) last
  | @again _ number now ended _ finish _ _ _ diary course retried rest ih =>
    have hspares : stop.Spares ended (policy.backoffFor number) :=
      StopSignal.spares_of_given <| Bool.eq_false_iff.mpr fun hgiven ↦
        Bool.eq_false_iff.mp hstop (StopSignal.given_of_le hgiven rest.now_le)
    rw [run_attempts_of_retried (Task.run_recorded course number earlier) retried,
      Task.run_pause_of_spares _ hspares, ih hstop, List.append_assoc, List.singleton_append]

/-- A stop signal that is given between two attempts of the course ends it there. -/
theorem run_of_given {before rest : Diary ℕ} {span later : Span ℕ} {ended given : ℕ}
    (hsplit : diary = before ++ span :: later :: rest) (hended : span.finish = some ended)
    (hafter : ended < given) (hbefore : given < later.start) (earlier : Diary ℕ) :
    ∃ middle,
      (policy.attempts (some given) (fun number ↦ (operation number).recorded number) number
          retries).run? now (earlier, state) =
        some (given, .answered (.error .cancelled), earlier ++ (before ++ [span]), middle) := by
  induction h generalizing earlier before with
  | final => exact absurd (congrArg List.length hsplit) (by simp; omega)
  | @again _ number now first _ finish _ middle _ diary course retried tries ih =>
    -- The signal falls into the pause after the first attempt, or that pause is over before it.
    cases before with
    | nil =>
      obtain ⟨rfl, rfl⟩ := List.cons.inj hsplit
      obtain rfl : first = ended := Option.some.inj hended
      have hstart : later.start = first + (policy.backoffFor number).asPause :=
        Option.some.inj tries.head_start
      refine ⟨middle, ?_⟩
      rw [run_attempts_of_retried (Task.run_recorded course number earlier) retried,
        Task.run_pause_of_given _ hafter (hstart ▸ hbefore)]
      rfl
    | cons entry before =>
      obtain ⟨rfl, rfl⟩ := List.cons.inj hsplit
      have hlater : first + (policy.backoffFor number).asPause ≤ ended :=
        tries.now_le_ended (by simp) hended
      have hspares : StopSignal.Spares (some given) first (policy.backoffFor number) :=
        StopSignal.spares_of_given <| by
          simpa [StopSignal.given] using Nat.lt_of_le_of_lt hlater hafter
      obtain ⟨middle, hrun⟩ := ih rfl (earlier ++ [⟨number, now, some first⟩])
      refine ⟨middle, ?_⟩
      rw [run_attempts_of_retried (Task.run_recorded course number earlier) retried,
        Task.run_pause_of_spares _ hspares, hrun, List.append_assoc, List.singleton_append,
        List.cons_append]

end Tries

/-- The whole of an execution whose attempts come to the given results: which attempt is the last
one and when it ends, what the diary says, and what becomes of it when a stop signal is given. -/
structure Executes (policy : RetryPolicy) (operation : ℕ → Task σ (Except ProviderError α))
    (results : ℕ → Except ProviderError α) (start : ℕ) (state : σ) (last finish : ℕ)
    (diary : Diary ℕ) (after : σ) : Prop where
  last_eq : (last : ℕ∞) = min (firstFinal results) policy.maxRetries
  numbered : diary.map Span.label = List.range (last + 1)
  label_le : ∀ span ∈ diary, span.label ≤ policy.maxRetries
  begins : diary.head?.map Span.start = some start
  spaced : diary.IsChain policy.Follows
  ends : diary.getLast?.bind Span.finish = some finish
  uncancelled : ∀ stop : StopSignal, stop.given finish = false →
    (policy.execute stop fun number ↦ (operation number).recorded number).run? start ([], state) =
      some (finish, .answered (results last), diary, after)
  cancelled : ∀ before span later rest ended given, diary = before ++ span :: later :: rest →
    span.finish = some ended → ended < given → given < later.start →
    ∃ middle,
      (policy.execute (some given) fun number ↦ (operation number).recorded number).run? start
          ([], state) =
        some (given, .answered (.error .cancelled), before ++ [span], middle)

/-- An operation whose attempts all come to a result is tried until the first final result or the
last retry, with the pauses of the policy in between. -/
theorem execute_attempts (policy : RetryPolicy) (operation : ℕ → Task σ (Except ProviderError α))
    (results : ℕ → Except ProviderError α)
    (answers : ∀ number now state, ∃ finish after,
      (operation number).run? now state = some (finish, .answered (results number), after))
    (start : ℕ) (state : σ) :
    ∃ last finish diary after,
      policy.Executes operation results start state last finish diary after := by
  obtain ⟨diary, last, finish, after, htries⟩ :
      ∃ diary last finish after,
        Tries policy operation results policy.maxRetries 0 start state diary last finish after :=
    exists_tries answers policy.maxRetries 0 start state
  have hle : last ≤ policy.maxRetries := by simpa using htries.last_le
  have hlabels : diary.map Span.label = List.range (last + 1) := by
    rw [htries.labels, List.range_eq_range', Nat.sub_zero]
  exact ⟨last, finish, diary, after,
    { last_eq := coe_eq_min_firstFinal hle
        (fun _ hbefore ↦ htries.isRetried_before (Nat.zero_le _) hbefore)
        (by simpa using htries.last_final)
      numbered := hlabels
      label_le := fun span hmem ↦ by
        have hrange := hlabels ▸ List.mem_map_of_mem (f := Span.label) hmem
        exact (Nat.le_of_lt_succ (List.mem_range.mp hrange)).trans hle
      begins := htries.head_start
      spaced := htries.spaced
      ends := htries.getLast_finish
      uncancelled := fun stop hstop ↦ htries.run hstop []
      cancelled := fun before span later rest ended given hsplit hended hafter hbefore ↦
        htries.run_of_given hsplit hended hafter hbefore [] }⟩

/-- The result of an operation that is busy at first. -/
def busyAtFirst (busy number : ℕ) : Except ProviderError ℕ :=
  if number < busy then .error (.transient "busy") else .ok number

/-- An operation that takes ten milliseconds for each attempt. -/
def slowAttempt (busy number : ℕ) : Task Unit (Except ProviderError ℕ) :=
  .pause (Duration.ofMillis 10) none (fun _ ↦ .done (busyAtFirst busy number)) fun _ ↦ .crashed

theorem execute_attempts_busyTwice :
    (∀ number now state, ∃ finish after,
      (slowAttempt 2 number).run? now state =
        some (finish, .answered (busyAtFirst 2 number), after)) ∧
      ∃ last finish diary after,
        ({} : RetryPolicy).Executes (slowAttempt 2) (busyAtFirst 2) 0 () last finish diary
          after := by
  have hanswers : ∀ number now state, ∃ finish after,
      (slowAttempt 2 number).run? now state =
        some (finish, .answered (busyAtFirst 2 number), after) := fun number now state ↦
    ⟨_, state, Task.run_pause_of_spares now (StopSignal.spares_of_given rfl) _ _ state⟩
  exact ⟨hanswers, execute_attempts {} (slowAttempt 2) (busyAtFirst 2) hanswers 0 ()⟩

/-- A backoff of more than thirty years is not waited for to its end. -/
theorem longBackoff_cut :
    let policy : RetryPolicy :=
      { maxRetries := 1, initialBackoff := Duration.ofMillis 946080000001 }
    let diary : Diary ℕ :=
      [⟨0, 0, some 0⟩,
        ⟨1, Duration.ofMillis 946080000000, some (Duration.ofMillis 946080000000)⟩]
    (policy.execute none fun number ↦
          (Task.done (busyAtFirst 1 number) : Task Unit _).recorded number).run? 0 ([], ()) =
        some (Duration.ofMillis 946080000000, .answered (.ok 1), diary, ()) ∧
      ¬ Duration.ofMillis 946080000000 = 0 + policy.backoffFor 0 := by
  exact ⟨rfl, by decide⟩

end RetryPolicy

/-- A provider whose first answer is final answers under a retry policy as it does without one. -/
theorem Provider.retrying_run {σ : Type} {provider : Provider σ} {request : SearchRequest}
    {stop : StopSignal} {now finish : ℕ} {state after : σ} {answer : Answer} (policy : RetryPolicy)
    (h : (provider.search request stop).run? now state = some (finish, .answered answer, after))
    (hfinal : RetryPolicy.isRetried answer = false) :
    ((provider.retrying policy).search request stop).run? now state =
      some (finish, .answered answer, after) :=
  RetryPolicy.run_attempts_of_final h (.inr hfinal)

end FareSearch
