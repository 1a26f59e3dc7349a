import FareSearch.Proofs.Provider.Callers
import FareSearch.Proofs.Timed.Woven

/-!
# Searches of a limited provider

Searches of one provider behind a limiter, woven together in any order, are callers of that limiter:
whatever turns they take, the callers have a course of deeds that leads to the same last claim. In
that course a caller that is granted a slot calls the provider at the same instant.
-/

namespace FareSearch

open Limiter

variable {σ : Type} {interval : Duration} {provider : Provider σ} {claim : Claim}
  {request : SearchRequest} {stop : StopSignal}

/-- What a search of a limited provider goes on with when the wait for its slot is over. -/
def Provider.afterWait (provider : Provider σ) (request : SearchRequest) (stop : StopSignal) :
    Except ProviderError Instant → Task (Claim × σ) Answer
  | .ok _ => (provider.search request stop).focus Prod.snd fun inner state ↦ (state.1, inner)
  | .error error => .done (.error error)

/-- A search of a limited provider that found the slot taken. -/
def Provider.waiting (provider : Provider σ) (interval : Duration) (request : SearchRequest)
    (stop : StopSignal) : Task (Claim × σ) Answer :=
  ((waitForSlot interval stop (fun now ↦ .done (.ok now)) fun _ ↦
    .done (.error .cancelled)).focus Prod.fst fun claim state ↦ (claim, state.2)).bind
      (provider.afterWait request stop)

/-- What a task may be after turns of its own, whenever and on whatever state it took them. -/
inductive Task.Becomes {α : Type} (begun : Task σ α) : Task σ α → Prop
  | begins : Becomes begun begun
  | turns {ready : σ → Option Instant} {update : Instant → σ → σ} {next : Instant → σ → Task σ α}
      (becomes : Becomes begun (.await ready update next)) (now : Instant) (state : σ) :
      Becomes begun (next now state)

/-- How a search stands for a caller. The caller sleeps no longer than the slot is taken, and calls
the provider with its own request. -/
inductive Fits (interval : Duration) (provider : Provider σ) (claim : Claim)
    (request : SearchRequest) (stop : StopSignal) : Task (Claim × σ) Answer → Caller → Prop
  | arriving :
      Fits interval provider claim request stop
        ((provider.limited interval).search request stop) .arriving
  | asleep {due : Instant} (elapses : due ≤ freeFrom interval claim) :
      Fits interval provider claim request stop (provider.waiting interval request stop)
        (.asleep due)
  | calling {inner : Task σ Answer} (slot : Instant)
      (becomes : (provider.search request stop).Becomes inner) :
      Fits interval provider claim request stop
        (inner.focus Prod.snd fun inner state ↦ (state.1, inner)) (.calling slot)
  | cancelled :
      Fits interval provider claim request stop (.done (.error .cancelled)) .cancelled

theorem Fits.mono {task : Task (Claim × σ) Answer} {caller : Caller} {later : Claim}
    (fits : Fits interval provider claim request stop task caller)
    (hle : freeFrom interval claim ≤ freeFrom interval later) :
    Fits interval provider later request stop task caller := by
  cases fits with
  | arriving => exact .arriving
  | asleep elapses => exact .asleep (Nat.le_trans elapses hle)
  | calling slot becomes => exact .calling slot becomes
  | cancelled => exact .cancelled

/-- What one turn of a search does to the claim, and to its caller. -/
inductive Turned (interval : Duration) (now : Instant) (claim : Claim) :
    Caller → Claim → Caller → Prop
  | grants {caller : Caller} (awake : caller.Awake now) (free : isFree interval claim now = true) :
      Turned interval now claim caller (some now) (.calling now)
  | sleeps {caller : Caller} (awake : caller.Awake now)
      (taken : isFree interval claim now = false) :
      Turned interval now claim caller claim (.asleep (freeFrom interval claim))
  | withdraws {due : Instant} :
      Turned interval now claim (.asleep due) claim .cancelled
  | goesOn {slot : Instant} :
      Turned interval now claim (.calling slot) claim (.calling slot)

theorem Fits.turned {caller : Caller} {ready : Claim × σ → Option Instant}
    {update : Instant → Claim × σ → Claim × σ}
    {next : Instant → Claim × σ → Task (Claim × σ) Answer} (hinterval : 0 < interval)
    (now : Instant) (state : Claim × σ)
    (fits : Fits interval provider state.1 request stop (.await ready update next) caller) :
    ∃ after, Turned interval now state.1 caller (update now state).1 after ∧
      Fits interval provider (update now state).1 request stop (next now state) after := by
  generalize htask : Task.await ready update next = task at fits
  cases fits with
  | arriving =>
    obtain ⟨-, rfl, rfl⟩ := Task.await.inj htask
    simp only [ne_zero_and_isFree hinterval, eq_zero_or_isFree hinterval]
    cases hfree : isFree interval state.1 now with
    | true =>
      simp only [if_true]
      exact ⟨_, .grants trivial hfree, .calling now .begins⟩
    | false =>
      simp only [Bool.false_eq_true, if_false]
      exact ⟨_, .sleeps trivial hfree, .asleep (Nat.le_refl _)⟩
  | @asleep due elapses =>
    obtain ⟨-, rfl, rfl⟩ := Task.await.inj htask
    cases hfree : isFree interval state.1 now with
    | true =>
      have hawake : due ≤ now := Nat.le_trans elapses (of_decide_eq_true hfree)
      simp only [hfree, if_true]
      exact ⟨_, .grants hawake hfree, .calling now .begins⟩
    | false =>
      simp only [hfree, Bool.false_eq_true, if_false]
      exact ⟨_, .withdraws, .cancelled⟩
  | @calling inner slot becomes =>
    cases inner with
    | done result => cases htask
    | crashed => cases htask
    | await innerReady innerUpdate innerNext =>
      obtain ⟨-, rfl, rfl⟩ := Task.await.inj htask
      exact ⟨_, .goesOn, .calling slot (becomes.turns now state.2)⟩
  | cancelled => cases htask

/-- A course of deeds behind woven searches, one caller for each search. -/
structure Mirrors (interval : Duration) (provider : Provider σ)
    (searches : List (SearchRequest × StopSignal)) (now : Instant)
    (tasks : List (Task (Claim × σ) Answer)) (claim : Claim) (trace : List Event) (line : Line) :
    Prop where
  run : Run interval trace line
  claim_eq : line.claim = claim
  past : ∀ event ∈ trace, event.now ≤ now
  prompt : ∀ event ∈ trace, ∀ slot, event.deed = .calls slot → event.now = slot
  length_eq : tasks.length = searches.length
  fits : ∀ index search task, searches[index]? = some search → tasks[index]? = some task →
    Fits interval provider claim search.1 search.2 task (line.caller index)
  absent : ∀ index, searches.length ≤ index → line.caller index = .arriving

variable {searches : List (SearchRequest × StopSignal)} {tasks : List (Task (Claim × σ) Answer)}
  {trace : List Event} {line : Line} {past now : Instant}

theorem Mirrors.later (mirrors : Mirrors interval provider searches past tasks claim trace line)
    (clock : past ≤ now) : Mirrors interval provider searches now tasks claim trace line :=
  { mirrors with past := fun event hevent ↦ Nat.le_trans (mirrors.past event hevent) clock }

theorem Turned.freeFrom_le {caller after : Caller} {later : Claim}
    (turned : Turned interval now claim caller later after) :
    freeFrom interval claim ≤ freeFrom interval later := by
  cases turned with
  | grants awake free => exact freeFrom_mono free
  | _ => exact Nat.le_refl _

/-- A turn of a search is one deed of its caller, or two if a slot is granted, or none. -/
theorem Turned.run {index : ℕ} {later : Claim} {after : Caller}
    (turned : Turned interval now line.claim (line.caller index) later after)
    (run : Run interval trace line) (hpast : ∀ event ∈ trace, event.now ≤ now) :
    ∃ deeds, Run interval (deeds ++ trace)
        { claim := later, caller := Function.update line.caller index after } ∧
      ∀ event ∈ deeds, event.now = now ∧ ∀ slot, event.deed = .calls slot → event.now = slot := by
  generalize hcaller : line.caller index = caller at turned
  cases turned with
  | grants awake free =>
    rw [← hcaller] at awake
    have hclaimed := run.goesOn hpast (.claims awake free)
    have hlater : ∀ event ∈ (⟨now, index, .claims⟩ : Event) :: trace, event.now ≤ now :=
      List.forall_mem_cons.mpr ⟨Nat.le_refl _, hpast⟩
    have hgranted : ({ line.put index (.granted now) with claim := some now } : Line).caller index =
        .granted now := Function.update_self ..
    have hcalled := hclaimed.goesOn hlater (.calls hgranted)
    rw [Line.put, Line.put, Function.update_idem] at hcalled
    exact ⟨[⟨now, index, .calls now⟩, ⟨now, index, .claims⟩], hcalled, by simp⟩
  | sleeps awake taken =>
    rw [← hcaller] at awake
    have hlong : now + (freeFrom interval line.claim - now) ≤ freeFrom interval line.claim := by
      have htaken : now < freeFrom interval line.claim :=
        Nat.lt_of_not_le (of_decide_eq_false taken)
      exact Nat.le_of_eq (Nat.add_sub_of_le (Nat.le_of_lt htaken))
    exact ⟨[⟨now, index, .sleeps⟩], run.goesOn hpast (.sleeps awake taken hlong), by simp⟩
  | withdraws =>
    exact ⟨[⟨now, index, .withdraws⟩], run.goesOn hpast (.withdraws hcaller), by simp⟩
  | goesOn =>
    rw [← hcaller, Function.update_eq_self]
    exact ⟨[], run, by simp⟩

/-- A turn of one search leaves the others as they were. -/
theorem Mirrors.turns {index : ℕ} {ready : Claim × σ → Option Instant}
    {update : Instant → Claim × σ → Claim × σ}
    {next : Instant → Claim × σ → Task (Claim × σ) Answer} (hinterval : 0 < interval)
    (inner : σ) (mirrors : Mirrors interval provider searches now tasks claim trace line)
    (htask : tasks[index]? = some (.await ready update next)) :
    ∃ trace line, Mirrors interval provider searches now
      (tasks.set index (next now (claim, inner))) (update now (claim, inner)).1 trace line := by
  have hindex : index < tasks.length := (List.getElem?_eq_some_iff.mp htask).1
  have hlength : index < searches.length := by rwa [← mirrors.length_eq]
  obtain ⟨after, hturned, hafter⟩ := Fits.turned hinterval now (claim, inner)
    (mirrors.fits index _ _ (List.getElem?_eq_getElem hlength) htask)
  obtain ⟨deeds, hrun, hdeeds⟩ := Turned.run (by rwa [mirrors.claim_eq]) mirrors.run mirrors.past
  refine ⟨deeds ++ trace, _, hrun, rfl, ?_, ?_, ?_, ?_, ?_⟩
  · intro event hevent
    rcases List.mem_append.mp hevent with hnew | hold
    · exact Nat.le_of_eq (hdeeds event hnew).1
    · exact mirrors.past event hold
  · intro event hevent
    rcases List.mem_append.mp hevent with hnew | hold
    · exact (hdeeds event hnew).2
    · exact mirrors.prompt event hold
  · rw [List.length_set, mirrors.length_eq]
  · intro other search task hsearch htask
    dsimp only
    by_cases hother : other = index
    · subst hother
      rw [List.getElem?_set_self hindex, Option.some.injEq] at htask
      rw [List.getElem?_eq_getElem hlength, Option.some.injEq] at hsearch
      rw [Function.update_self, ← htask, ← hsearch]
      exact hafter
    · rw [List.getElem?_set_ne (Ne.symm hother)] at htask
      rw [Function.update_of_ne hother]
      exact (mirrors.fits other search task hsearch htask).mono hturned.freeFrom_le
  · intro other hother
    dsimp only
    rw [Function.update_of_ne (by omega)]
    exact mirrors.absent other hother

end FareSearch
