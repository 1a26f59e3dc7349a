import FareSearch.Provider.Limiter
import Mathlib.Data.List.Pairwise
import Mathlib.Data.Nat.Notation
import Mathlib.Logic.Function.Basic

/-!
# The callers of one limiter

Any number of callers share a limiter. Each of them looks at the last claim and either claims the
slot, if it is free, or sleeps at least until it would be; then it looks again. A sleeping caller
may be cancelled. The callers do this in any order and as late as they like, on a clock that does
not go back. Claims lie an interval apart all the same, and only a caller with a claim of its own
calls the provider behind the limiter.
-/

namespace FareSearch.Limiter

/-- How far a caller has come: it has not looked at the claim yet, sleeps, was granted a slot, calls
the provider on its slot, or was cancelled. -/
inductive Caller where
  | arriving
  | asleep (due : Instant)
  | granted (slot : Instant)
  | calling (slot : Instant)
  | cancelled

/-- Whether a caller may look at the claim at an instant. -/
def Caller.Awake (now : Instant) : Caller → Prop
  | .arriving => True
  | .asleep due => due ≤ now
  | _ => False

def Caller.slot? : Caller → Option Instant
  | .granted slot => some slot
  | .calling slot => some slot
  | _ => none

inductive Deed where
  | claims
  | sleeps
  | withdraws
  | calls (slot : Instant)
  deriving DecidableEq

/-- What a caller did, and when. -/
structure Event where
  now : Instant
  caller : ℕ
  deed : Deed

/-- The last claim and the callers. -/
structure Line where
  claim : Claim := none
  caller : ℕ → Caller := fun _ ↦ .arriving

def Line.put (line : Line) (caller : ℕ) (state : Caller) : Line :=
  { line with caller := Function.update line.caller caller state }

/-- One deed of one caller. Looking at the claim and claiming are one step. -/
inductive Step (interval : Duration) (line : Line) : Event → Line → Prop
  | claims {caller : ℕ} {now : Instant} (awake : (line.caller caller).Awake now)
      (free : isFree interval line.claim now = true) :
      Step interval line ⟨now, caller, .claims⟩
        { line.put caller (.granted now) with claim := some now }
  | sleeps {caller : ℕ} {now due : Instant} (awake : (line.caller caller).Awake now)
      (taken : isFree interval line.claim now = false)
      (long : now + (freeFrom interval line.claim - now) ≤ due) :
      Step interval line ⟨now, caller, .sleeps⟩ (line.put caller (.asleep due))
  | withdraws {caller : ℕ} {now due : Instant} (asleep : line.caller caller = .asleep due) :
      Step interval line ⟨now, caller, .withdraws⟩ (line.put caller .cancelled)
  | calls {caller : ℕ} {now slot : Instant} (granted : line.caller caller = .granted slot) :
      Step interval line ⟨now, caller, .calls slot⟩ (line.put caller (.calling slot))

/-- A course of deeds, the latest first. -/
inductive Run (interval : Duration) : List Event → Line → Prop
  | opens : Run interval [] {}
  | goesOn {trace : List Event} {line next : Line} {event : Event} (run : Run interval trace line)
      (clock : ∀ earlier ∈ trace, earlier.now ≤ event.now) (step : Step interval line event next) :
      Run interval (event :: trace) next

def claims (trace : List Event) : List Event :=
  trace.filter fun event ↦ event.deed = .claims

/-- When a caller claimed a slot. -/
def claimsOf (caller : ℕ) (trace : List Event) : List Instant :=
  ((claims trace).filter fun event ↦ event.caller = caller).map Event.now

/-- The callers that called the provider, with the slots on which they did. -/
def calls (trace : List Event) : List (ℕ × Instant) :=
  trace.filterMap fun event ↦
    match event.deed with
    | .calls slot => some (event.caller, slot)
    | _ => none

variable {interval : Duration} {trace : List Event} {line : Line} {now : Instant} {caller : ℕ}

/-- Claims that come later free their slots later. -/
theorem freeFrom_mono {claim : Claim} (h : isFree interval claim now = true) :
    freeFrom interval claim ≤ freeFrom interval (some now) :=
  Nat.le_trans (of_decide_eq_true h) (Nat.le_add_right now interval)

theorem slot?_of_awake {state : Caller} (h : state.Awake now) : state.slot? = none := by
  cases state with
  | granted slot => exact h.elim
  | calling slot => exact h.elim
  | _ => rfl

theorem claims_cons (event : Event) :
    claims (event :: trace) =
      if event.deed = .claims then event :: claims trace else claims trace := by
  by_cases h : event.deed = .claims <;> simp [claims, h]

theorem claimsOf_cons (event : Event) :
    claimsOf caller (event :: trace) =
      if event.deed = .claims ∧ event.caller = caller then event.now :: claimsOf caller trace
      else claimsOf caller trace := by
  by_cases h : event.deed = .claims <;> by_cases hcaller : event.caller = caller <;>
    simp [claimsOf, claims_cons, h, hcaller]

theorem put_caller (line : Line) (first : ℕ) (state : Caller) :
    (line.put first state).caller caller = if caller = first then state else line.caller caller :=
  Function.update_apply line.caller first state caller

theorem slot?_put {first : ℕ} {state : Caller} (h : state.slot? = (line.caller first).slot?) :
    ((line.put first state).caller caller).slot? = (line.caller caller).slot? := by
  rw [put_caller]
  by_cases hcaller : caller = first
  · rw [if_pos hcaller, h, hcaller]
  · rw [if_neg hcaller]

/-- A caller claims a slot once, and only when it is granted. -/
theorem Run.claimsOf_eq (run : Run interval trace line) (caller : ℕ) :
    claimsOf caller trace = (line.caller caller).slot?.toList := by
  induction run with
  | opens => rfl
  | @goesOn trace line next event run clock step ih =>
    rw [claimsOf_cons, ih]
    cases step with
    | @claims first now awake free =>
      change _ = ((line.put first (.granted now)).caller caller).slot?.toList
      rw [put_caller]
      by_cases hcaller : caller = first
      · rw [if_pos ⟨rfl, hcaller.symm⟩, if_pos hcaller, hcaller, slot?_of_awake awake]
        rfl
      · rw [if_neg fun h ↦ hcaller h.2.symm, if_neg hcaller]
    | @sleeps first now due awake taken long =>
      have hslot : (Caller.asleep due).slot? = (line.caller first).slot? :=
        (slot?_of_awake awake).symm
      rw [slot?_put hslot]
      exact if_neg fun h ↦ nomatch h.1
    | withdraws asleep =>
      rw [slot?_put (by rw [asleep]; rfl)]
      exact if_neg fun h ↦ nomatch h.1
    | calls granted =>
      rw [slot?_put (by rw [granted]; rfl)]
      exact if_neg fun h ↦ nomatch h.1

end FareSearch.Limiter
