import FareSearch.Proofs.Provider.Callers
import Mathlib.Algebra.BigOperators.Group.Finset.Piecewise
import Mathlib.Algebra.Order.BigOperators.Group.Finset
import Mathlib.Data.List.Perm.Subperm
import Mathlib.Data.List.Range
import Mathlib.Data.Nat.Find

/-!
# Punctual callers

Callers that come to one limiter and stay until they are granted a slot. Each looks at the claim at
the instant of its arrival and then whenever its sleep is over, not earlier and not later; of those
that are due at one instant any may look first. Who is granted which slot depends on that, but not
when slots are granted: the first at the first arrival, and each other one as soon as a caller has
come for it and an interval has passed since the one before. A look that fails again is paid for by
a slot that another caller was granted since, so all looking comes to an end.
-/

namespace FareSearch.Limiter

/-- The instants at which slots are granted. -/
def grantTime (interval : Duration) (arrival : ℕ → Instant) : ℕ → Instant
  | 0 => arrival 0
  | place + 1 => max (arrival (place + 1)) (grantTime interval arrival place + interval)

/-- The instant at which a caller looks at the claim next. -/
def Caller.due? (arrival : Instant) : Caller → Option Instant
  | .arriving => some arrival
  | .asleep due => some due
  | _ => none

/-- A caller is due at an instant, and no caller is due earlier. -/
structure Line.IsNext (arrival : ℕ → Instant) (count : ℕ) (line : Line) (now : Instant)
    (caller : ℕ) : Prop where
  member : caller < count
  due : (line.caller caller).due? (arrival caller) = some now
  first : ∀ other < count, ∀ due ∈ (line.caller other).due? (arrival other), now ≤ due

/-- A course of looks at the claim, the latest first. A look claims a free slot; otherwise the
caller sleeps exactly as long as the slot is taken. -/
inductive Punctual (interval : Duration) (arrival : ℕ → Instant) (count : ℕ) :
    List Event → Line → Prop
  | opens : Punctual interval arrival count [] {}
  | grants {trace : List Event} {line : Line} {now : Instant} {caller : ℕ}
      (course : Punctual interval arrival count trace line)
      (next : line.IsNext arrival count now caller) (free : isFree interval line.claim now = true) :
      Punctual interval arrival count (⟨now, caller, .claims⟩ :: trace)
        { line.put caller (.granted now) with claim := some now }
  | sleeps {trace : List Event} {line : Line} {now : Instant} {caller : ℕ}
      (course : Punctual interval arrival count trace line)
      (next : line.IsNext arrival count now caller)
      (taken : isFree interval line.claim now = false) :
      Punctual interval arrival count (⟨now, caller, .sleeps⟩ :: trace)
        (line.put caller (.asleep (freeFrom interval line.claim)))

/-- The callers that were granted slots, the latest first. -/
def grantees (trace : List Event) : List ℕ :=
  (claims trace).map Event.caller

/-- How often a caller has looked at the claim. -/
def looksOf (caller : ℕ) (trace : List Event) : ℕ :=
  trace.countP fun event ↦ event.caller = caller

/-- What is promised of a punctual course. Since no course is endless, and each goes on as long as a
caller has no slot, all callers are granted one in the end. -/
structure OnSchedule (interval : Duration) (arrival : ℕ → Instant) (count : ℕ)
    (trace : List Event) (line : Line) : Prop where
  run : Run interval trace line
  /-- The slots were granted on schedule. -/
  times : (claims trace).map Event.now =
    ((List.range (grantees trace).length).map (grantTime interval arrival)).reverse
  /-- As long as a caller has no slot, the course goes on. -/
  goesOn : ∀ caller < count, caller ∉ grantees trace →
    ∃ event next, Punctual interval arrival count (event :: trace) next
  /-- Between two looks of one caller another one is granted a slot. -/
  paid : ∀ later second between first earlier,
    trace = later ++ second :: (between ++ first :: earlier) → first.caller = second.caller →
    first.deed = .sleeps → second.deed = .sleeps →
    ∃ grant ∈ between, grant.deed = .claims ∧ grant.caller ≠ second.caller
  looksOf_le : ∀ caller, looksOf caller trace ≤ (grantees trace).length
  bounded : trace.length ≤ count * count

variable {interval : Duration} {arrival : ℕ → Instant} {count : ℕ} {trace : List Event}
  {line : Line} {now due : Instant} {caller other : ℕ}

section Dues

/-- A caller that is granted a slot is not due any more. -/
theorem due?_granted (h : ((line.put caller (.granted now)).caller other).due? (arrival other) =
    some due) : other ≠ caller ∧ (line.caller other).due? (arrival other) = some due := by
  rw [put_caller] at h
  split at h
  next => cases h
  next hother => exact ⟨hother, h⟩

theorem due?_asleep {later : Instant}
    (h : ((line.put caller (.asleep later)).caller other).due? (arrival other) = some due) :
    due = later ∨ (line.caller other).due? (arrival other) = some due := by
  rw [put_caller] at h
  split at h
  next => exact .inl (Option.some.inj h).symm
  next => exact .inr h

theorem lt_freeFrom (h : isFree interval line.claim now = false) :
    now < freeFrom interval line.claim :=
  Nat.lt_of_not_le (of_decide_eq_false h)

theorem Line.IsNext.awake (h : line.IsNext arrival count now caller) :
    (line.caller caller).Awake now := by
  have hdue := h.due
  cases hcaller : line.caller caller with
  | arriving => trivial
  | asleep due =>
    rw [hcaller] at hdue
    exact Nat.le_of_eq (Option.some.inj hdue)
  | _ => simp [hcaller, Caller.due?] at hdue

/-- Nobody is due before what has been done. -/
theorem Punctual.le_due (course : Punctual interval arrival count trace line) :
    ∀ event ∈ trace, ∀ caller < count, ∀ due,
      (line.caller caller).due? (arrival caller) = some due → event.now ≤ due := by
  induction course with
  | opens => simp
  | @grants trace line now caller course next free ih =>
    intro event hevent other hother due hdue
    have hlater : now ≤ due := next.first other hother due (due?_granted hdue).2
    rcases List.mem_cons.mp hevent with rfl | hearlier
    · exact hlater
    · exact Nat.le_trans (ih event hearlier caller next.member now next.due) hlater
  | @sleeps trace line now caller course next taken ih =>
    intro event hevent other hother due hdue
    have hlater : now ≤ due := by
      rcases due?_asleep hdue with rfl | hdue
      · exact Nat.le_of_lt (lt_freeFrom taken)
      · exact next.first other hother due hdue
    rcases List.mem_cons.mp hevent with rfl | hearlier
    · exact hlater
    · exact Nat.le_trans (ih event hearlier caller next.member now next.due) hlater

theorem Punctual.past (course : Punctual interval arrival count trace line)
    (next : line.IsNext arrival count now caller) : ∀ event ∈ trace, event.now ≤ now :=
  fun event hevent ↦ course.le_due event hevent caller next.member now next.due

/-- Punctual callers are callers of the limiter. -/
theorem Punctual.run (course : Punctual interval arrival count trace line) :
    Run interval trace line := by
  induction course with
  | opens => exact .opens
  | grants course next free ih => exact ih.goesOn (course.past next) (.claims next.awake free)
  | sleeps course next taken ih =>
    have hlong := Nat.le_of_eq (Nat.add_sub_of_le (Nat.le_of_lt (lt_freeFrom taken)))
    exact ih.goesOn (course.past next) (.sleeps next.awake taken hlong)

end Dues

section Grantees

theorem Run.slot?_of_mem_claims (run : Run interval trace line) {event : Event}
    (hevent : event ∈ claims trace) : (line.caller event.caller).slot? = some event.now := by
  have hclaimed : event.now ∈ claimsOf event.caller trace :=
    List.mem_map.mpr ⟨event, List.mem_filter.mpr ⟨hevent, decide_eq_true rfl⟩, rfl⟩
  rw [run.claimsOf_eq] at hclaimed
  exact Option.mem_toList.mp hclaimed

theorem Run.mem_grantees_iff (run : Run interval trace line) :
    caller ∈ grantees trace ↔ ∃ slot, (line.caller caller).slot? = some slot := by
  have hclaims : caller ∈ grantees trace ↔ ∃ slot, slot ∈ claimsOf caller trace := by
    simp [grantees, claimsOf, and_comm]
  rw [hclaims, run.claimsOf_eq]
  simp

/-- Nobody is granted two slots. -/
theorem Run.grantees_nodup (run : Run interval trace line) : (grantees trace).Nodup := by
  rw [List.nodup_iff_count_le_one]
  intro caller
  have hcount : (grantees trace).count caller = (claimsOf caller trace).length := by
    rw [grantees, claimsOf, List.length_map, List.count, List.countP_map,
      List.countP_eq_length_filter]
    rfl
  rw [hcount, run.claimsOf_eq]
  cases (line.caller caller).slot? <;> simp

theorem not_mem_grantees (run : Run interval trace line)
    (hdue : (line.caller caller).due? (arrival caller) = some due) : caller ∉ grantees trace := by
  rw [run.mem_grantees_iff]
  rintro ⟨slot, hslot⟩
  cases hcaller : line.caller caller <;> simp_all [Caller.due?, Caller.slot?]

/-- A caller is due at some time, or it has got a slot. -/
theorem Punctual.due_or_slot (course : Punctual interval arrival count trace line) (caller : ℕ) :
    (∃ due, (line.caller caller).due? (arrival caller) = some due) ∨
      ∃ slot, (line.caller caller).slot? = some slot := by
  induction course with
  | opens => exact .inl ⟨arrival caller, rfl⟩
  | @grants trace line now first course next free ih =>
    change (∃ due, ((line.put first (.granted now)).caller caller).due? (arrival caller) =
      some due) ∨ ∃ slot, ((line.put first (.granted now)).caller caller).slot? = some slot
    rw [put_caller]
    split
    · exact .inr ⟨now, rfl⟩
    · exact ih
  | @sleeps trace line now first course next taken ih =>
    rw [put_caller]
    split
    · exact .inl ⟨_, rfl⟩
    · exact ih

theorem Punctual.exists_due (course : Punctual interval arrival count trace line)
    (hcaller : caller ∉ grantees trace) :
    ∃ due, (line.caller caller).due? (arrival caller) = some due :=
  (course.due_or_slot caller).resolve_right fun hslot ↦
    hcaller (course.run.mem_grantees_iff.mpr hslot)

theorem Punctual.arrival_le_due (course : Punctual interval arrival count trace line) :
    ∀ caller due, (line.caller caller).due? (arrival caller) = some due →
      arrival caller ≤ due := by
  induction course with
  | opens =>
    rintro caller due hdue
    exact Nat.le_of_eq (Option.some.inj hdue)
  | grants course next free ih => exact fun other due hdue ↦ ih other due (due?_granted hdue).2
  | @sleeps trace line now caller course next taken ih =>
    intro other due hdue
    rw [put_caller] at hdue
    split at hdue
    next hother =>
      obtain rfl := Option.some.inj hdue
      rw [hother]
      exact Nat.le_trans (ih caller now next.due) (Nat.le_of_lt (lt_freeFrom taken))
    next => exact ih other due hdue

/-- Looks are made by those who have come. -/
theorem Punctual.arrival_le (course : Punctual interval arrival count trace line) :
    ∀ event ∈ trace, event.caller < count ∧ arrival event.caller ≤ event.now := by
  induction course with
  | opens => simp
  | grants course next free ih =>
    exact List.forall_mem_cons.mpr
      ⟨⟨next.member, course.arrival_le_due _ _ next.due⟩, ih⟩
  | sleeps course next taken ih =>
    exact List.forall_mem_cons.mpr
      ⟨⟨next.member, course.arrival_le_due _ _ next.due⟩, ih⟩

theorem Punctual.due_le_freeFrom (course : Punctual interval arrival count trace line) :
    ∀ caller due, line.caller caller = .asleep due → due ≤ freeFrom interval line.claim := by
  induction course with
  | opens => simp
  | @grants trace line now caller course next free ih =>
    intro other due hasleep
    have hput : (line.put caller (.granted now)).caller other = .asleep due := hasleep
    rw [put_caller] at hput
    split at hput
    next => cases hput
    next => exact Nat.le_trans (ih other due hput) (freeFrom_mono free)
  | @sleeps trace line now caller course next taken ih =>
    intro other due hasleep
    rw [put_caller] at hasleep
    split at hasleep
    next => exact Nat.le_of_eq (Caller.asleep.inj hasleep).symm
    next => exact ih other due hasleep

theorem length_le_of_nodup {callers : List ℕ} (hnodup : callers.Nodup)
    (hmember : ∀ caller ∈ callers, caller < count) : callers.length ≤ count := by
  have hsubset : callers ⊆ List.range count := fun caller hcaller ↦
    List.mem_range.mpr (hmember caller hcaller)
  have hlength := (List.subperm_of_subset hnodup hsubset).length_le
  rwa [List.length_range] at hlength

theorem Punctual.grantees_lt (course : Punctual interval arrival count trace line) :
    ∀ caller ∈ grantees trace, caller < count := by
  intro caller hcaller
  obtain ⟨event, hevent, rfl⟩ := List.mem_map.mp hcaller
  exact (course.arrival_le event (List.mem_filter.mp hevent).1).1

/-- A caller that is due still lacks one of the slots. -/
theorem Punctual.length_grantees_lt (course : Punctual interval arrival count trace line)
    (hmember : caller < count) (hcaller : caller ∉ grantees trace) :
    (grantees trace).length < count :=
  length_le_of_nodup (List.nodup_cons.mpr ⟨hcaller, course.run.grantees_nodup⟩)
    (List.forall_mem_cons.mpr ⟨hmember, course.grantees_lt⟩)

end Grantees

section Schedule

/-- As long as slots are lacking, a caller is due by the time at which the next one is granted: one
of those that come first, or one that sleeps until the slot is free. -/
theorem Punctual.exists_due_le (harrival : Monotone arrival)
    (course : Punctual interval arrival count trace line)
    (hlength : (grantees trace).length < count) :
    ∃ caller < count, ∃ due, (line.caller caller).due? (arrival caller) = some due ∧
      due ≤ max (arrival (grantees trace).length) (freeFrom interval line.claim) := by
  have hcard : (grantees trace).toFinset.card <
      (Finset.range ((grantees trace).length + 1)).card := by
    rw [Finset.card_range]
    exact Nat.lt_succ_of_le (List.toFinset_card_le _)
  obtain ⟨caller, hcaller, hgranted⟩ := Finset.exists_mem_notMem_of_card_lt_card hcard
  have hle : caller ≤ (grantees trace).length := Nat.le_of_lt_succ (Finset.mem_range.mp hcaller)
  rw [List.mem_toFinset] at hgranted
  obtain ⟨due, hdue⟩ := course.exists_due hgranted
  refine ⟨caller, Nat.lt_of_le_of_lt hle hlength, due, hdue, ?_⟩
  cases hstate : line.caller caller with
  | arriving =>
    rw [hstate] at hdue
    obtain rfl := Option.some.inj hdue
    exact Nat.le_trans (harrival hle) (Nat.le_max_left _ _)
  | asleep slept =>
    rw [hstate] at hdue
    obtain rfl := Option.some.inj hdue
    exact Nat.le_trans (course.due_le_freeFrom caller _ hstate) (Nat.le_max_right _ _)
  | _ => simp [hstate, Caller.due?] at hdue

/-- So many callers have come by the time of a look. -/
theorem Punctual.arrival_length_le (harrival : Monotone arrival)
    (course : Punctual interval arrival count trace line)
    (next : line.IsNext arrival count now caller) : arrival (grantees trace).length ≤ now := by
  have hfresh : caller ∉ grantees trace := not_mem_grantees course.run next.due
  have hnodup : (caller :: grantees trace).Nodup :=
    List.nodup_cons.mpr ⟨hfresh, course.run.grantees_nodup⟩
  have hcome : ∀ other ∈ caller :: grantees trace, arrival other ≤ now := by
    refine List.forall_mem_cons.mpr ⟨course.arrival_le_due _ _ next.due, ?_⟩
    intro other hother
    obtain ⟨event, hevent, rfl⟩ := List.mem_map.mp hother
    have htrace := (List.mem_filter.mp hevent).1
    exact Nat.le_trans (course.arrival_le event htrace).2 (course.past next event htrace)
  by_contra hlate
  -- Otherwise all who have come are among the first, and these are too few.
  have hlength : (caller :: grantees trace).length ≤ (grantees trace).length := by
    refine length_le_of_nodup hnodup fun other hother ↦ ?_
    by_contra hrank
    exact hlate (Nat.le_trans (harrival (Nat.le_of_not_lt hrank)) (hcome other hother))
  exact Nat.not_succ_le_self _ hlength

/-- Whoever claims the next slot does it at one and the same instant. -/
theorem Punctual.now_eq (harrival : Monotone arrival)
    (course : Punctual interval arrival count trace line)
    (next : line.IsNext arrival count now caller) (free : isFree interval line.claim now = true) :
    now = max (arrival (grantees trace).length) (freeFrom interval line.claim) := by
  apply Nat.le_antisymm
  · have hlength := course.length_grantees_lt next.member (not_mem_grantees course.run next.due)
    obtain ⟨other, hother, due, hdue, hle⟩ := course.exists_due_le harrival hlength
    exact Nat.le_trans (next.first other hother due hdue) hle
  · exact Nat.max_le.mpr ⟨course.arrival_length_le harrival next, of_decide_eq_true free⟩

theorem grantees_claims (now : Instant) (caller : ℕ) (trace : List Event) :
    grantees (⟨now, caller, .claims⟩ :: trace) = caller :: grantees trace := by
  rw [grantees, claims_cons, if_pos rfl, List.map_cons, grantees]

theorem grantees_sleeps (now : Instant) (caller : ℕ) (trace : List Event) :
    grantees (⟨now, caller, .sleeps⟩ :: trace) = grantees trace := by
  rw [grantees, claims_cons, if_neg (by simp), grantees]

/-- The next slot is granted when a caller has come for it and it is free. -/
theorem Punctual.grantTime_eq (harrival : Monotone arrival)
    (course : Punctual interval arrival count trace line) :
    grantTime interval arrival (grantees trace).length =
      max (arrival (grantees trace).length) (freeFrom interval line.claim) := by
  induction course with
  | opens => exact (Nat.max_zero _).symm
  | grants course next free ih =>
    rw [grantees_claims, List.length_cons, grantTime, ih, ← course.now_eq harrival next free]
    rfl
  | sleeps course next taken ih =>
    rw [grantees_sleeps]
    exact ih

theorem Punctual.times (harrival : Monotone arrival)
    (course : Punctual interval arrival count trace line) :
    (claims trace).map Event.now =
      ((List.range (grantees trace).length).map (grantTime interval arrival)).reverse := by
  induction course with
  | opens => rfl
  | @grants trace line now caller course next free ih =>
    have hnow : now = grantTime interval arrival (grantees trace).length := by
      rw [course.grantTime_eq harrival]
      exact course.now_eq harrival next free
    rw [grantees_claims, List.length_cons, List.range_succ, List.map_append, List.reverse_append,
      ← ih, claims_cons, if_pos rfl, List.map_cons, hnow]
    rfl
  | sleeps course next taken ih =>
    rw [grantees_sleeps, claims_cons, if_neg (by simp)]
    exact ih

/-- The caller in a place of the grants has got the slot of that place. -/
theorem Punctual.slot?_eq (harrival : Monotone arrival)
    (course : Punctual interval arrival count trace line) {place : ℕ}
    (hcaller : (grantees trace).reverse[place]? = some caller) :
    (line.caller caller).slot? = some (grantTime interval arrival place) := by
  have hplace : place < (grantees trace).length := by
    rw [← List.length_reverse]
    exact (List.getElem?_eq_some_iff.mp hcaller).1
  rw [grantees, ← List.map_reverse, List.getElem?_map, Option.map_eq_some_iff] at hcaller
  obtain ⟨event, hevent, rfl⟩ := hcaller
  have hnow : event.now = grantTime interval arrival place := by
    have htimes := congrArg (fun times ↦ times.reverse[place]?) (course.times harrival)
    rw [List.reverse_reverse, ← List.map_reverse, List.getElem?_map, hevent, List.getElem?_map,
      List.getElem?_range hplace] at htimes
    exact Option.some.inj htimes
  rw [← hnow]
  exact course.run.slot?_of_mem_claims (List.mem_reverse.mp (List.mem_of_getElem? hevent))

/-- Among callers that are due one is next. -/
theorem exists_isNext (hmember : caller < count)
    (hdue : (line.caller caller).due? (arrival caller) = some due) :
    ∃ now caller, line.IsNext arrival count now caller := by
  classical
  have hsome : ∃ due, ∃ caller < count, (line.caller caller).due? (arrival caller) = some due :=
    ⟨due, caller, hmember, hdue⟩
  obtain ⟨first, hfirst, hnow⟩ := Nat.find_spec hsome
  refine ⟨Nat.find hsome, first, hfirst, hnow, ?_⟩
  intro other hother due hdue
  exact Nat.find_min' hsome ⟨other, hother, hdue⟩

theorem Punctual.goesOn (course : Punctual interval arrival count trace line)
    (hmember : caller < count) (hcaller : caller ∉ grantees trace) :
    ∃ event next, Punctual interval arrival count (event :: trace) next := by
  obtain ⟨due, hdue⟩ := course.exists_due hcaller
  obtain ⟨now, first, hnext⟩ := exists_isNext hmember hdue
  cases hfree : isFree interval line.claim now with
  | true => exact ⟨_, _, course.grants hnext hfree⟩
  | false => exact ⟨_, _, course.sleeps hnext hfree⟩

end Schedule

section Looks

/-- The course up to a look. -/
theorem Punctual.of_append {later : List Event}
    (course : Punctual interval arrival count (later ++ trace) line) :
    ∃ line, Punctual interval arrival count trace line := by
  induction later generalizing line with
  | nil => exact ⟨line, course⟩
  | cons event later ih =>
    cases course with
    | grants course next free => exact ih course
    | sleeps course next taken => exact ih course

/-- As long as nobody is granted a slot, a caller that has looked in vain sleeps until the slot is
free. -/
theorem Punctual.asleep_since {between earlier : List Event} {first : Event}
    (course : Punctual interval arrival count trace line)
    (htrace : trace = between ++ first :: earlier) (hfirst : first.deed = .sleeps)
    (hbetween : ∀ event ∈ between, event.deed ≠ .claims) :
    line.caller first.caller = .asleep (freeFrom interval line.claim) := by
  induction course generalizing between with
  | opens => simp at htrace
  | grants course next free ih =>
    cases between with
    | nil =>
      obtain ⟨rfl, -⟩ := List.cons.inj htrace
      cases hfirst
    | cons event between =>
      obtain ⟨rfl, -⟩ := List.cons.inj htrace
      exact absurd rfl (List.forall_mem_cons.mp hbetween).1
  | @sleeps trace line now caller course next taken ih =>
    rw [put_caller]
    cases between with
    | nil =>
      obtain ⟨rfl, -⟩ := List.cons.inj htrace
      exact if_pos rfl
    | cons event between =>
      obtain ⟨rfl, hrest⟩ := List.cons.inj htrace
      split
      next => rfl
      next => exact ih hrest (List.forall_mem_cons.mp hbetween).2

theorem Punctual.paid {later between earlier : List Event} {first second : Event}
    (course : Punctual interval arrival count trace line)
    (htrace : trace = later ++ second :: (between ++ first :: earlier))
    (hcaller : first.caller = second.caller) (hfirst : first.deed = .sleeps)
    (hsecond : second.deed = .sleeps) :
    ∃ grant ∈ between, grant.deed = .claims ∧ grant.caller ≠ second.caller := by
  subst htrace
  obtain ⟨after, hafter⟩ := course.of_append
  cases hafter with
  | grants course next free => cases hsecond
  | @sleeps _ line now caller course next taken =>
    by_contra hnone
    have hbetween : ∀ event ∈ between, event.deed ≠ .claims := by
      intro grant hgrant hclaims
      have hsame : grant.caller = caller := by
        by_contra hother
        exact hnone ⟨grant, hgrant, hclaims, hother⟩
      refine not_mem_grantees course.run next.due (List.mem_map.mpr ⟨grant, ?_, hsame⟩)
      exact List.mem_filter.mpr ⟨List.mem_append_left _ hgrant, decide_eq_true hclaims⟩
    have hasleep := course.asleep_since rfl hfirst hbetween
    rw [hcaller] at hasleep
    have hdue := next.due
    rw [hasleep] at hdue
    exact Nat.ne_of_gt (lt_freeFrom taken) (Option.some.inj hdue)

theorem looksOf_cons (event : Event) :
    looksOf caller (event :: trace) =
      looksOf caller trace + if event.caller = caller then 1 else 0 := by
  simp [looksOf, List.countP_cons]

/-- A caller has looked no more often than slots were granted, and less often if it is due before
the next slot is free. -/
theorem Punctual.looksOf_le (course : Punctual interval arrival count trace line) (caller : ℕ) :
    looksOf caller trace ≤ (grantees trace).length ∧
      ∀ due, (line.caller caller).due? (arrival caller) = some due →
        due < freeFrom interval line.claim → looksOf caller trace < (grantees trace).length := by
  induction course with
  | opens => exact ⟨Nat.le_refl 0, fun due hdue hlt ↦ absurd hlt (Nat.not_lt_zero due)⟩
  | @grants trace line now first course next free ih =>
    rw [looksOf_cons, grantees_claims, List.length_cons]
    constructor
    · split <;> omega
    · intro due hdue hlt
      obtain ⟨hother, -⟩ := due?_granted hdue
      rw [if_neg (Ne.symm hother)]
      exact Nat.lt_succ_of_le ih.1
  | @sleeps trace line now first course next taken ih =>
    rw [looksOf_cons, grantees_sleeps, put_caller]
    by_cases hcaller : caller = first
    · subst hcaller
      simp only [if_true]
      refine ⟨ih.2 now next.due (lt_freeFrom taken), fun due hdue hlt ↦ ?_⟩
      exact absurd hlt (Nat.not_lt_of_ge (Nat.le_of_eq (Option.some.inj hdue)))
    · rw [if_neg (Ne.symm hcaller), if_neg hcaller]
      exact ih

theorem length_eq_sum_looksOf (hmember : ∀ event ∈ trace, event.caller < count) :
    trace.length = ∑ caller ∈ Finset.range count, looksOf caller trace := by
  induction trace with
  | nil => simp [looksOf]
  | cons event trace ih =>
    obtain ⟨hevent, htrace⟩ := List.forall_mem_cons.mp hmember
    simp only [looksOf_cons, Finset.sum_add_distrib, ← ih htrace, Finset.sum_ite_eq,
      Finset.mem_range, hevent, if_true, List.length_cons]

theorem Punctual.length_le (course : Punctual interval arrival count trace line) :
    trace.length ≤ count * count := by
  have hgranted : (grantees trace).length ≤ count :=
    length_le_of_nodup course.run.grantees_nodup course.grantees_lt
  have hlooks : ∀ caller ∈ Finset.range count, looksOf caller trace ≤ count := fun caller _ ↦
    Nat.le_trans (course.looksOf_le caller).1 hgranted
  calc
    trace.length = ∑ caller ∈ Finset.range count, looksOf caller trace :=
      length_eq_sum_looksOf fun event hevent ↦ (course.arrival_le event hevent).1
    _ ≤ ∑ _caller ∈ Finset.range count, count := Finset.sum_le_sum hlooks
    _ = count * count := by rw [Finset.sum_const_nat fun _ _ ↦ rfl, Finset.card_range]

end Looks

theorem Punctual.onSchedule (harrival : Monotone arrival)
    (course : Punctual interval arrival count trace line) :
    OnSchedule interval arrival count trace line where
  run := course.run
  times := course.times harrival
  goesOn _ hmember hcaller := course.goesOn hmember hcaller
  paid _ _ _ _ _ htrace hcaller hfirst hsecond := course.paid htrace hcaller hfirst hsecond
  looksOf_le caller := (course.looksOf_le caller).1
  bounded := course.length_le

end FareSearch.Limiter
