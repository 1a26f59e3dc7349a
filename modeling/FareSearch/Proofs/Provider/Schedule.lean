import FareSearch.Proofs.Provider.Punctual
import FareSearch.Proofs.Timed.Task
import FareSearch.Proofs.Timed.Woven

/-!
# Slots on schedule

Callers that wait for slots of one limiter take turns in any order, on a clock that stops at every
instant at which one of them is to go on. Behind their turns there is a course of punctual callers:
it has the same grants, and in it the callers that lost a slot to another one look again at once and
sleep until the next. So the slots are granted on schedule, whoever wins them, and by the time of
the last one every caller has got a slot.
-/

namespace FareSearch

namespace Limiter

/-- A caller that comes at an instant and waits for a slot. -/
def visit (interval : Duration) (arrival : Instant) : Task Claim (Except ProviderError Instant) :=
  .await (fun _ ↦ some arrival) (fun _ claim ↦ claim) fun _ _ ↦ slot interval none

def visits (interval : Duration) (arrival : ℕ → Instant) (count : ℕ) :
    List (Task Claim (Except ProviderError Instant)) :=
  (List.range count).map fun caller ↦ visit interval (arrival caller)

/-- A caller that found the slot taken. -/
def lineUp (interval : Duration) : Task Claim (Except ProviderError Instant) :=
  waitForSlot interval none (fun now ↦ .done (.ok now)) fun _ ↦ .done (.error .cancelled)

/-- What is promised of callers that were granted slots in an order by an instant. -/
structure Served (interval : Duration) (arrival : ℕ → Instant) (count : ℕ) (now : Instant)
    (tasks : List (Task Claim (Except ProviderError Instant))) (claim : Claim) (order : List ℕ) :
    Prop where
  nodup : order.Nodup
  member : ∀ caller ∈ order, caller < count
  served : ∀ place caller, order[place]? = some caller →
    tasks[caller]? = some (Task.done (Except.ok (grantTime interval arrival place)))
  /-- All others wait for an instant. -/
  unserved : ∀ caller < count, caller ∉ order →
    ∃ task due, tasks[caller]? = some task ∧ task.wake? claim = some due
  /-- No slot is granted later than on schedule. -/
  inTime : ∀ place < count, grantTime interval arrival place < now → place < order.length

/-- How a task stands for a caller. -/
inductive Stands (interval : Duration) (now arrival : Instant) (claim : Claim) :
    Task Claim (Except ProviderError Instant) → Caller → Prop
  | coming (ahead : now ≤ arrival) :
      Stands interval now arrival claim (visit interval arrival) .arriving
  | arrived (here : now = arrival) :
      Stands interval now arrival claim (slot interval none) .arriving
  | asleep (ahead : now ≤ freeFrom interval claim) :
      Stands interval now arrival claim (lineUp interval) (.asleep (freeFrom interval claim))
  | granted (slot : Instant) :
      Stands interval now arrival claim (.done (.ok slot)) (.granted slot)

/-- A punctual course behind the turns of tasks. -/
structure Behind (interval : Duration) (arrival : ℕ → Instant) (count : ℕ) (now : Instant)
    (tasks : List (Task Claim (Except ProviderError Instant))) (claim : Claim)
    (trace : List Event) (line : Line) : Prop where
  course : Punctual interval arrival count trace line
  claim_eq : line.claim = claim
  length_eq : tasks.length = count
  stands : ∀ caller task, tasks[caller]? = some task →
    Stands interval now (arrival caller) claim task (line.caller caller)

variable {interval : Duration} {arrival : ℕ → Instant} {count : ℕ} {now past due : Instant}
  {tasks : List (Task Claim (Except ProviderError Instant))} {claim : Claim} {trace : List Event}
  {line : Line} {caller : ℕ} {task : Task Claim (Except ProviderError Instant)} {state : Caller}

section Courses

/-- A caller, whose sleep is to last until an instant if it sleeps. -/
def Caller.until (due : Instant) : Caller → Caller
  | .asleep _ => .asleep due
  | state => state

theorem due?_until {state : Caller} {came later : Instant}
    (h : (state.until later).due? came = some due) : due = later ∨ state.due? came = some due := by
  cases state with
  | asleep slept => exact .inl (Option.some.inj h).symm
  | _ => exact .inr h

/-- Callers that lost a slot look at the claim again in vain, and sleep until the next slot is
free. -/
theorem Punctual.settle (course : Punctual interval arrival count trace line)
    (taken : isFree interval line.claim now = false)
    (hdue : ∀ caller < count, ∀ due,
      (line.caller caller).due? (arrival caller) = some due → now ≤ due)
    (hasleep : ∀ caller < count, ∀ due, line.caller caller = .asleep due → due = now) {bound : ℕ}
    (hbound : bound ≤ count) :
    ∃ trace next, Punctual interval arrival count trace next ∧ next.claim = line.claim ∧
      ∀ caller, next.caller caller =
        if caller < bound then (line.caller caller).until (freeFrom interval line.claim)
        else line.caller caller := by
  induction bound with
  | zero => exact ⟨trace, line, course, rfl, fun _ ↦ rfl⟩
  | succ bound ih =>
    obtain ⟨trace, next, hcourse, hclaim, hnext⟩ := ih (Nat.le_of_succ_le hbound)
    have hlast : next.caller bound = line.caller bound := by
      rw [hnext, if_neg (Nat.lt_irrefl bound)]
    by_cases hslept : ∃ due, line.caller bound = .asleep due
    · obtain ⟨due, hslept⟩ := hslept
      obtain rfl := hasleep bound hbound due hslept
      have hisNext : next.IsNext arrival count due bound := by
        refine ⟨hbound, by rw [hlast, hslept]; rfl, ?_⟩
        intro other hother later hlater
        rw [hnext] at hlater
        split at hlater
        next =>
          rcases due?_until hlater with rfl | hlater
          · exact Nat.le_of_lt (lt_freeFrom taken)
          · exact hdue other hother later hlater
        next => exact hdue other hother later hlater
      refine ⟨_, _, hcourse.sleeps hisNext (by rw [hclaim]; exact taken), hclaim, ?_⟩
      intro caller
      rw [put_caller, hclaim, hnext]
      by_cases hcaller : caller = bound
      · rw [if_pos hcaller, if_pos (by omega), hcaller, hslept]
        rfl
      · have hlt : caller < bound + 1 ↔ caller < bound := by omega
        simp only [hcaller, hlt, if_false]
    · refine ⟨trace, next, hcourse, hclaim, ?_⟩
      intro caller
      rw [hnext]
      by_cases hcaller : caller = bound
      · rw [if_neg (by omega), if_pos (by omega), hcaller]
        cases hstate : line.caller bound with
        | asleep due => exact absurd ⟨due, hstate⟩ hslept
        | _ => rfl
      · have hlt : caller < bound + 1 ↔ caller < bound := by omega
        simp only [hlt]

end Courses

section Turns

theorem Stands.now_le (stands : Stands interval now (arrival caller) claim task state)
    (hdue : state.due? (arrival caller) = some due) : now ≤ due := by
  cases stands with
  | coming ahead =>
    obtain rfl := Option.some.inj hdue
    exact ahead
  | arrived here =>
    obtain rfl := Option.some.inj hdue
    exact Nat.le_of_eq here
  | asleep ahead =>
    obtain rfl := Option.some.inj hdue
    exact ahead
  | granted slot => cases hdue

theorem Behind.now_le (behind : Behind interval arrival count now tasks claim trace line)
    (hmember : caller < count) (hdue : (line.caller caller).due? (arrival caller) = some due) :
    now ≤ due := by
  have htask : caller < tasks.length := by rwa [behind.length_eq]
  exact (behind.stands caller _ (List.getElem?_eq_getElem htask)).now_le hdue

theorem Behind.of_asleep (behind : Behind interval arrival count now tasks claim trace line)
    (hmember : caller < count) (hasleep : line.caller caller = .asleep due) :
    now ≤ due ∧ due = freeFrom interval claim := by
  have htask : caller < tasks.length := by rwa [behind.length_eq]
  have hstands := behind.stands caller _ (List.getElem?_eq_getElem htask)
  rw [hasleep] at hstands
  generalize tasks[caller] = task at hstands
  cases hstands with
  | asleep ahead => exact ⟨ahead, rfl⟩

theorem behind_begins :
    Behind interval arrival count 0 (visits interval arrival count) none [] {} where
  course := .opens
  claim_eq := rfl
  length_eq := by rw [visits, List.length_map, List.length_range]
  stands caller task htask := by
    rw [visits, List.getElem?_map, Option.map_eq_some_iff] at htask
    obtain ⟨other, hother, rfl⟩ := htask
    obtain ⟨-, rfl⟩ := List.getElem?_eq_some_iff.mp hother
    rw [List.getElem_range]
    exact .coming (Nat.zero_le _)

theorem Behind.waits (behind : Behind interval arrival count past tasks claim trace line)
    (clock : past ≤ now) (slept : ∀ due ∈ tasks.filterMap (Task.wake? · claim), now ≤ due) :
    Behind interval arrival count now tasks claim trace line where
  course := behind.course
  claim_eq := behind.claim_eq
  length_eq := behind.length_eq
  stands caller task htask := by
    have hwake : ∀ due, task.wake? claim = some due → now ≤ due := fun due hdue ↦
      slept due (List.mem_filterMap.mpr ⟨task, List.mem_of_getElem? htask, hdue⟩)
    have hstands := behind.stands caller task htask
    generalize line.caller caller = state at hstands
    cases hstands with
    | coming ahead => exact .coming (hwake _ rfl)
    | arrived here =>
      have hstill : now = past :=
        Nat.le_antisymm (Nat.le_trans (hwake 0 rfl) (Nat.zero_le past)) clock
      exact .arrived (hstill.trans here)
    | asleep ahead => exact .asleep (hwake _ rfl)
    | granted slot => exact .granted slot

theorem Behind.isNext (behind : Behind interval arrival count now tasks claim trace line)
    (hmember : caller < count) (hdue : (line.caller caller).due? (arrival caller) = some now) :
    line.IsNext arrival count now caller :=
  ⟨hmember, hdue, fun _ hother _ hlater ↦ behind.now_le hother hlater⟩

/-- What is left to show when one task has taken a turn. -/
theorem Behind.set {later : Claim} {after : List Event} {next : Line}
    (behind : Behind interval arrival count now tasks claim trace line)
    (course : Punctual interval arrival count after next) (hclaim : next.claim = later)
    (hself : Stands interval now (arrival caller) later task (next.caller caller))
    (hothers : ∀ other ≠ caller, other < count → ∀ task,
      Stands interval now (arrival other) claim task (line.caller other) →
      Stands interval now (arrival other) later task (next.caller other)) :
    Behind interval arrival count now (tasks.set caller task) later after next where
  course := course
  claim_eq := hclaim
  length_eq := by rw [List.length_set, behind.length_eq]
  stands other moved hmoved := by
    rw [List.getElem?_set] at hmoved
    split at hmoved
    next hsame =>
      obtain ⟨-, rfl⟩ : _ ∧ task = moved := by simpa using hmoved
      rw [← hsame]
      exact hself
    next hother =>
      have hmember : other < count := by
        rw [← behind.length_eq]
        exact (List.getElem?_eq_some_iff.mp hmoved).1
      exact hothers other (Ne.symm hother) hmember moved (behind.stands other moved hmoved)

theorem Stands.grants (stands : Stands interval now due claim task state) :
    Stands interval now due (some now) task (state.until (freeFrom interval (some now))) := by
  cases stands with
  | coming ahead => exact .coming ahead
  | arrived here => exact .arrived here
  | asleep ahead => exact .asleep (Nat.le_add_right now interval)
  | granted slot => exact .granted slot

/-- A caller claims the slot, and those that waited for it look at the claim again. -/
theorem Behind.grants (hinterval : 0 < interval)
    (behind : Behind interval arrival count now tasks claim trace line) (hmember : caller < count)
    (hdue : (line.caller caller).due? (arrival caller) = some now)
    (free : isFree interval claim now = true) :
    ∃ trace line, Behind interval arrival count now (tasks.set caller (.done (.ok now))) (some now)
      trace line := by
  have hclaim := behind.claim_eq
  have hgranted := behind.course.grants (behind.isNext hmember hdue) (by rw [hclaim]; exact free)
  have htaken : isFree interval (some now) now = false :=
    decide_eq_false (Nat.not_le_of_lt (Nat.lt_add_of_pos_right hinterval))
  have hlost : ∀ other < count, ∀ later,
      (line.put caller (.granted now)).caller other = .asleep later → later = now := by
    intro other hother later hlater
    rw [put_caller] at hlater
    split at hlater
    next => cases hlater
    next =>
      obtain ⟨hle, rfl⟩ := behind.of_asleep hother hlater
      exact Nat.le_antisymm (of_decide_eq_true free) hle
  obtain ⟨after, next, hcourse, hnextClaim, hnext⟩ := hgranted.settle htaken
    (fun other hother later hlater ↦ behind.now_le hother (due?_granted hlater).2) hlost
    (Nat.le_refl count)
  refine ⟨after, next, behind.set hcourse hnextClaim ?_ ?_⟩
  · rw [hnext, if_pos hmember, put_caller, if_pos rfl]
    exact .granted now
  · intro other hother hbound task hstands
    rw [hnext, if_pos hbound, put_caller, if_neg hother]
    exact hstands.grants

theorem Behind.turns {ready : Claim → Option Instant} {update : Instant → Claim → Claim}
    {next : Instant → Claim → Task Claim (Except ProviderError Instant)} (hinterval : 0 < interval)
    (behind : Behind interval arrival count now tasks claim trace line)
    (htask : tasks[caller]? = some (.await ready update next))
    (woken : (ready claim).any (· ≤ now) = true) :
    ∃ trace line, Behind interval arrival count now (tasks.set caller (next now claim))
      (update now claim) trace line := by
  have hmember : caller < count := by
    rw [← behind.length_eq]
    exact (List.getElem?_eq_some_iff.mp htask).1
  have hstands := behind.stands caller _ htask
  generalize hawait : Task.await ready update next = task at hstands
  generalize hstate : line.caller caller = state at hstands
  cases hstands with
  | coming ahead =>
    obtain ⟨rfl, rfl, rfl⟩ := Task.await.inj hawait
    have hcome : arrival caller ≤ now := by simpa using woken
    refine ⟨trace, line, behind.set behind.course behind.claim_eq ?_ fun _ _ _ _ h ↦ h⟩
    rw [hstate]
    exact .arrived (Nat.le_antisymm ahead hcome)
  | arrived here =>
    obtain ⟨-, rfl, rfl⟩ := Task.await.inj hawait
    have hdue : (line.caller caller).due? (arrival caller) = some now := by
      rw [hstate, here]
      rfl
    simp only [ne_zero_and_isFree hinterval, eq_zero_or_isFree hinterval]
    cases hfree : isFree interval claim now with
    | true =>
      simp only [if_true]
      exact behind.grants hinterval hmember hdue hfree
    | false =>
      simp only [Bool.false_eq_true, if_false]
      have htaken : isFree interval line.claim now = false := by rwa [behind.claim_eq]
      have hcourse := behind.course.sleeps (behind.isNext hmember hdue) htaken
      refine ⟨_, _, behind.set hcourse behind.claim_eq ?_ ?_⟩
      · rw [put_caller, if_pos rfl, behind.claim_eq]
        exact .asleep (Nat.le_of_not_le (of_decide_eq_false hfree))
      · intro other hother _ task hstands
        rwa [put_caller, if_neg hother]
  | asleep ahead =>
    obtain ⟨rfl, rfl, rfl⟩ := Task.await.inj hawait
    have hle : freeFrom interval claim ≤ now := by simpa [earlier] using woken
    have hfree : isFree interval claim now = true := decide_eq_true hle
    have hdue : (line.caller caller).due? (arrival caller) = some now := by
      rw [hstate, Nat.le_antisymm ahead hle]
      rfl
    simp only [hfree, if_true]
    exact behind.grants hinterval hmember hdue hfree
  | granted slot => cases hawait

end Turns

theorem exists_behind (hinterval : 0 < interval)
    (prompt : Crowd.Prompt (visits interval arrival count) none now tasks claim) :
    ∃ trace line, Behind interval arrival count now tasks claim trace line := by
  induction prompt with
  | begins => exact ⟨[], {}, behind_begins⟩
  | waits prompt clock slept ih =>
    obtain ⟨trace, line, behind⟩ := ih
    exact ⟨trace, line, behind.waits clock slept⟩
  | turns prompt task woken ih =>
    obtain ⟨trace, line, behind⟩ := ih
    exact behind.turns hinterval task woken

theorem grantTime_mono (interval : Duration) (arrival : ℕ → Instant) :
    Monotone (grantTime interval arrival) := by
  refine monotone_nat_of_le_succ fun place ↦ ?_
  exact Nat.le_trans (Nat.le_add_right _ interval) (Nat.le_max_right _ _)

/-- The slots that a course granted are those of its tasks. -/
theorem Behind.served (harrival : Monotone arrival)
    (behind : Behind interval arrival count now tasks claim trace line) :
    Served interval arrival count now tasks claim (grantees trace).reverse where
  nodup := List.nodup_reverse.mpr behind.course.run.grantees_nodup
  member caller hcaller := behind.course.grantees_lt caller (List.mem_reverse.mp hcaller)
  served place caller hcaller := by
    have hmember := behind.course.grantees_lt caller
      (List.mem_reverse.mp (List.mem_of_getElem? hcaller))
    have htask : caller < tasks.length := by rwa [behind.length_eq]
    have hslot := behind.course.slot?_eq harrival hcaller
    have hstands := behind.stands caller _ (List.getElem?_eq_getElem htask)
    rw [List.getElem?_eq_getElem htask]
    generalize tasks[caller] = task at hstands
    generalize line.caller caller = state at hstands hslot
    cases hstands with
    | granted slot => rw [Option.some.inj hslot]
    | _ => cases hslot
  unserved caller hmember hcaller := by
    have htask : caller < tasks.length := by rwa [behind.length_eq]
    obtain ⟨due, hdue⟩ := behind.course.exists_due fun h ↦ hcaller (List.mem_reverse.mpr h)
    have hstands := behind.stands caller _ (List.getElem?_eq_getElem htask)
    rw [List.getElem?_eq_getElem htask]
    generalize tasks[caller] = task at hstands
    generalize line.caller caller = state at hstands hdue
    cases hstands with
    | granted slot => cases hdue
    | _ => exact ⟨_, _, rfl, rfl⟩
  inTime place hplace hpast := by
    by_contra hlate
    have hle : (grantees trace).length ≤ place := by
      rw [← List.length_reverse]
      exact Nat.le_of_not_lt hlate
    obtain ⟨caller, hmember, due, hdue, hnext⟩ :=
      behind.course.exists_due_le harrival (Nat.lt_of_le_of_lt hle hplace)
    rw [← behind.course.grantTime_eq harrival] at hnext
    have hahead := behind.now_le hmember hdue
    exact Nat.lt_irrefl now (Nat.lt_of_le_of_lt (Nat.le_trans hahead
      (Nat.le_trans hnext (grantTime_mono interval arrival hle))) hpast)

section Crowds

/-- What callers may be at any time. -/
inductive Queued (interval : Duration) : Task Claim (Except ProviderError Instant) → Prop
  | coming (arrival : Instant) : Queued interval (visit interval arrival)
  | arrived : Queued interval (slot interval none)
  | asleep : Queued interval (lineUp interval)
  | granted (slot : Instant) : Queued interval (.done (.ok slot))

theorem Stands.queued (stands : Stands interval now due claim task state) :
    Queued interval task := by
  cases stands with
  | coming ahead => exact .coming due
  | arrived here => exact .arrived
  | asleep ahead => exact .asleep
  | granted slot => exact .granted slot

/-- A claim of another caller never lets a task go on earlier. -/
theorem Queued.wake_le {later : Claim} (queued : Queued interval task)
    (hle : freeFrom interval claim ≤ freeFrom interval later)
    (hwake : task.wake? later = some due) :
    ∃ first, task.wake? claim = some first ∧ first ≤ due := by
  cases queued with
  | asleep =>
    obtain rfl : freeFrom interval later = due := by
      simpa [lineUp, waitForSlot, Task.wake?, earlier] using hwake
    exact ⟨_, rfl, hle⟩
  | granted slot => cases hwake
  | _ => exact ⟨due, hwake, Nat.le_refl due⟩

/-- What becomes of a task that goes on: it stays in the queue, and claims only move on. -/
def QueuedAfter (interval : Duration) (claim : Claim)
    (after : Task Claim (Except ProviderError Instant) × Claim) : Prop :=
  Queued interval after.1 ∧ freeFrom interval claim ≤ freeFrom interval after.2

theorem queuedAfter_lineUp (now : Instant) (claim : Claim) :
    QueuedAfter interval claim ((lineUp interval).advance now claim) := by
  have hready : (earlier none (some (freeFrom interval claim))).any (· ≤ now) =
      isFree interval claim now := rfl
  unfold lineUp waitForSlot Task.advance
  rw [hready]
  cases hfree : isFree interval claim now with
  | true =>
    simp only [hfree, if_true]
    exact ⟨.granted now, freeFrom_mono hfree⟩
  | false => exact ⟨.asleep, Nat.le_refl _⟩

theorem queuedAfter_slot (hinterval : 0 < interval) (now : Instant) (claim : Claim) :
    QueuedAfter interval claim ((slot interval none).advance now claim) := by
  have hready : (some 0 : Option Instant).any (· ≤ now) = true := by simp
  unfold slot enter Task.act Task.advance
  rw [if_pos hready]
  simp only [ne_zero_and_isFree hinterval, eq_zero_or_isFree hinterval]
  cases hfree : isFree interval claim now with
  | true =>
    simp only [if_true]
    exact ⟨.granted now, freeFrom_mono hfree⟩
  | false =>
    simp only [Bool.false_eq_true, if_false]
    exact queuedAfter_lineUp now claim

theorem Queued.advance (hinterval : 0 < interval) (queued : Queued interval task) (now : Instant)
    (claim : Claim) : QueuedAfter interval claim (task.advance now claim) := by
  cases queued with
  | coming arrival =>
    unfold visit Task.advance
    split
    · exact queuedAfter_slot hinterval now claim
    · exact ⟨.coming arrival, Nat.le_refl _⟩
  | arrived => exact queuedAfter_slot hinterval now claim
  | asleep => exact queuedAfter_lineUp now claim
  | granted slot => exact ⟨.granted slot, Nat.le_refl _⟩

/-- When all have taken their turns, each waits for a later instant. -/
theorem lt_of_wake_advanceShared (hinterval : 0 < interval)
    (hqueued : ∀ task ∈ tasks, Queued interval task) :
    freeFrom interval claim ≤ freeFrom interval (Crowd.advanceShared now tasks claim).2 ∧
      ∀ task ∈ (Crowd.advanceShared now tasks claim).1, ∀ due,
        task.wake? (Crowd.advanceShared now tasks claim).2 = some due → now < due := by
  induction tasks generalizing claim with
  | nil => exact ⟨Nat.le_refl _, by simp [Crowd.advanceShared]⟩
  | cons task rest ih =>
    obtain ⟨htask, hrest⟩ := List.forall_mem_cons.mp hqueued
    obtain ⟨hadvanced, hle⟩ := htask.advance hinterval now claim
    obtain ⟨hlater, hwakes⟩ := @ih (task.advance now claim).2 hrest
    rw [Crowd.advanceShared]
    refine ⟨Nat.le_trans hle hlater, List.forall_mem_cons.mpr ⟨?_, hwakes⟩⟩
    intro due hdue
    obtain ⟨first, hfirst, hbefore⟩ := hadvanced.wake_le hlater hdue
    exact Nat.lt_of_lt_of_le (Task.lt_of_wake_advance hfirst) hbefore

theorem queued_of_prompt (hinterval : 0 < interval)
    (prompt : Crowd.Prompt (visits interval arrival count) none now tasks claim) :
    ∀ task ∈ tasks, Queued interval task := by
  intro task htask
  obtain ⟨trace, line, behind⟩ := exists_behind hinterval prompt
  obtain ⟨caller, hcaller⟩ := List.mem_iff_getElem?.mp htask
  exact (behind.stands caller task hcaller).queued

/-- In a crowd the callers are prompt. It stops when no caller waits any more, and otherwise comes
to later instants all the time. -/
theorem prompt_runShared (hinterval : 0 < interval) (fuel : ℕ)
    (prompt : Crowd.Prompt (visits interval arrival count) none now tasks claim) :
    Crowd.Prompt (visits interval arrival count) none (Crowd.runShared fuel now tasks claim).1
        (Crowd.runShared fuel now tasks claim).2.1 (Crowd.runShared fuel now tasks claim).2.2 ∧
      (now + fuel ≤ (Crowd.runShared fuel now tasks claim).1 ∨
        Crowd.wakeShared? (Crowd.runShared fuel now tasks claim).2.1
          (Crowd.runShared fuel now tasks claim).2.2 = none) := by
  induction fuel generalizing now tasks claim with
  | zero => exact ⟨prompt, .inl (Nat.le_refl now)⟩
  | succ fuel ih =>
    have hadvanced := prompt.advanceShared
    rw [Crowd.runShared]
    dsimp only
    split
    next hwake => exact ⟨hadvanced, .inr hwake⟩
    next wake hwake =>
      rw [Crowd.wakeShared_eq_min, List.min?_eq_some_iff] at hwake
      obtain ⟨hmember, hleast⟩ := hwake
      obtain ⟨task, htask, hdue⟩ := List.mem_filterMap.mp hmember
      have hlater : now < wake :=
        (lt_of_wake_advanceShared hinterval (queued_of_prompt hinterval prompt)).2 task htask wake
          hdue
      obtain ⟨hprompt, hend⟩ := ih (hadvanced.waits (Nat.le_of_lt hlater) hleast)
      refine ⟨hprompt, hend.imp_left fun hclock ↦ Nat.le_trans ?_ hclock⟩
      rw [← Nat.add_assoc, Nat.add_right_comm]
      exact Nat.add_le_add_right hlater fuel

end Crowds

theorem Served.length_le {order : List ℕ}
    (served : Served interval arrival count now tasks claim order) : order.length ≤ count :=
  length_le_of_nodup served.nodup served.member

/-- When the time of the last slot is over, or nobody waits any more, all have been served. -/
theorem Served.length_eq {order : List ℕ}
    (served : Served interval arrival count now tasks claim order)
    (hend : (∀ place < count, grantTime interval arrival place < now) ∨
      Crowd.wakeShared? tasks claim = none) : order.length = count := by
  apply Nat.le_antisymm served.length_le
  by_contra hlength
  rcases hend with hpast | hstill
  · have hplace : order.length < count := Nat.lt_of_not_le hlength
    exact Nat.lt_irrefl _ (served.inTime order.length hplace (hpast order.length hplace))
  · have hcard : order.toFinset.card < (Finset.range count).card := by
      rw [Finset.card_range]
      exact Nat.lt_of_le_of_lt (List.toFinset_card_le order) (Nat.lt_of_not_le hlength)
    obtain ⟨caller, hmember, hcaller⟩ := Finset.exists_mem_notMem_of_card_lt_card hcard
    rw [List.mem_toFinset] at hcaller
    obtain ⟨task, due, htask, hdue⟩ := served.unserved caller (Finset.mem_range.mp hmember) hcaller
    rw [Crowd.wakeShared_eq_min, List.min?_eq_none_iff] at hstill
    have hwaits : due ∈ tasks.filterMap (Task.wake? · claim) :=
      List.mem_filterMap.mpr ⟨task, List.mem_of_getElem? htask, hdue⟩
    rw [hstill] at hwaits
    cases hwaits

/-- Slots are granted on schedule: in every punctual course, to callers that take turns without
oversleeping, which are granted the slots of such a course, and in a crowd, which serves them
all. -/
theorem granted_on_schedule (hinterval : 0 < interval) (harrival : Monotone arrival) :
    (∀ trace line, Punctual interval arrival count trace line →
      OnSchedule interval arrival count trace line) ∧
    (∀ now tasks claim,
      Crowd.Prompt (visits interval arrival count) none now tasks claim →
      ∃ trace line, Behind interval arrival count now tasks claim trace line ∧
        Served interval arrival count now tasks claim (grantees trace).reverse) ∧
    ∀ fuel, (∀ place < count, grantTime interval arrival place < fuel) →
      ∃ now tasks claim order,
        Crowd.runShared fuel 0 (visits interval arrival count) none = (now, tasks, claim) ∧
        Served interval arrival count now tasks claim order ∧ order.length = count := by
  have hserved : ∀ now tasks claim,
      Crowd.Prompt (visits interval arrival count) none now tasks claim →
      ∃ trace line, Behind interval arrival count now tasks claim trace line ∧
        Served interval arrival count now tasks claim (grantees trace).reverse := by
    intro now tasks claim prompt
    obtain ⟨trace, line, behind⟩ := exists_behind hinterval prompt
    exact ⟨trace, line, behind, behind.served harrival⟩
  refine ⟨fun trace line course ↦ course.onSchedule harrival, hserved, ?_⟩
  intro fuel hfuel
  have hbegun : Crowd.Prompt (visits interval arrival count) none 0
      (visits interval arrival count) none := .begins
  obtain ⟨hprompt, hend⟩ := prompt_runShared hinterval fuel hbegun
  obtain ⟨trace, line, -, served⟩ := hserved _ _ _ hprompt
  refine ⟨_, _, _, _, rfl, served, served.length_eq (hend.imp_left fun hclock place hplace ↦ ?_)⟩
  exact Nat.lt_of_lt_of_le (hfuel place hplace) (by simpa using hclock)

/-- Two callers come at once, and all others late. -/
def burst (caller : ℕ) : Instant :=
  if caller < 2 then 0 else 12

theorem burst_mono : Monotone burst := by
  intro first second hle
  unfold burst
  split
  next => exact Nat.zero_le _
  next hlate => rw [if_neg fun h ↦ hlate (Nat.lt_of_le_of_lt hle h)]

/-- The second of two callers that come at once gets the first slot. -/
theorem granted_on_schedule_burst :
    ∃ trace line now tasks claim order,
      Punctual 5 burst 3 trace line ∧ grantees trace = [2, 0, 1] ∧
      (claims trace).map Event.now = [12, 5, 0] ∧
      Crowd.runShared 13 0 (visits 5 burst 3) none = (now, tasks, claim) ∧
      Served 5 burst 3 now tasks claim order ∧ order.length = 3 := by
  obtain ⟨hcourses, -, hcrowds⟩ := @granted_on_schedule 5 burst 3 (by decide) burst_mono
  have first : Punctual 5 burst 3 [⟨0, 1, .claims⟩] _ :=
    .grants .opens ⟨by decide, rfl, by decide⟩ rfl
  have second : Punctual 5 burst 3 (⟨0, 0, .sleeps⟩ :: _) _ :=
    first.sleeps ⟨by decide, rfl, by decide⟩ rfl
  have third : Punctual 5 burst 3 (⟨5, 0, .claims⟩ :: _) _ :=
    second.grants ⟨by decide, rfl, by decide⟩ rfl
  have course : Punctual 5 burst 3 (⟨12, 2, .claims⟩ :: _) _ :=
    third.grants ⟨by decide, rfl, by decide⟩ rfl
  obtain ⟨now, tasks, claim, order, hrun, hserved, hlength⟩ := hcrowds 13 (by decide)
  exact ⟨_, _, now, tasks, claim, order, course, rfl, (hcourses _ _ course).times, hrun, hserved,
    hlength⟩

end Limiter

end FareSearch
