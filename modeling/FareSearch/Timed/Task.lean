import FareSearch.Number.Powers

/-!
# Tasks on a clock

A task runs until it has to wait. It waits for an instant that the state it shares names: the end
of a pause, a free slot, the instant at which it is told to stop. When that instant has come, the
task updates the state and goes on. What a task waits for depends on the state alone, so a wait
that was not over stays not over until its instant comes or the state changes.
-/

namespace FareSearch

/-- Nanoseconds since the clock was started. -/
abbrev Instant := Nat

/-- Nanoseconds. -/
abbrev Duration := Nat

namespace Duration

def ofMillis (millis : Nat) : Duration :=
  1000000 * millis

def ofSeconds (seconds : Nat) : Duration :=
  seconds * 1000000000

/-- Whole milliseconds. -/
def toMillis (duration : Duration) : Nat :=
  duration / 1000000

/-- The longest duration: seconds of 64 bits and all nanoseconds of one more. -/
def longest : Duration :=
  Number.twoPow 64 * 1000000000 - 1

/-- How long a pause of a duration lasts: thirty years at the most. -/
def asPause (duration : Duration) : Duration :=
  min duration (ofSeconds (30 * 365 * 86400))

end Duration

/-- The instant at which a caller withdraws a request, if it ever does. -/
abbrev StopSignal := Option Instant

/-- The signal that is given after a pause. -/
def StopSignal.after (start : Instant) (wait : Duration) : StopSignal :=
  some (start + wait.asPause)

/-- Whether a signal was given by an instant. -/
def StopSignal.given (signal : StopSignal) (now : Instant) : Bool :=
  signal.any (· ≤ now)

/-- The earlier of two instants that may never come. -/
def earlier : Option Instant → Option Instant → Option Instant
  | some left, some right => some (min left right)
  | some left, none => some left
  | none, right => right

/-- A task over a shared state. A waiting task goes on at the first instant at which `ready` names
a time that has come; `next` sees the state as it was before `update`. -/
inductive Task (σ α : Type) where
  | done (result : α)
  | crashed
  | await (ready : σ → Option Instant) (update : Instant → σ → σ)
      (next : Instant → σ → Task σ α)

/-- How a task ended. -/
inductive Ending (α : Type) where
  | answered (result : α)
  | crashed

namespace Task

variable {σ τ α β : Type}

/-- Goes on with the result of a task. -/
def bind (task : Task σ α) (next : α → Task σ β) : Task σ β :=
  match task with
  | done result => next result
  | crashed => crashed
  | await ready update rest => await ready update fun now state ↦ (rest now state).bind next

/-- Acts on the state at once. -/
def act (update : Instant → σ → σ) (next : Instant → σ → Task σ α) : Task σ α :=
  await (fun _ ↦ some 0) update next

/-- Waits for the first of two instants and goes on accordingly; where they are one, the task wakes
before it is stopped. -/
def untilStopped (wake : Option Instant) (stop : StopSignal) (woken stopped : Instant → Task σ α) :
    Task σ α :=
  await (fun _ ↦ earlier wake stop) (fun _ state ↦ state) fun now _ ↦
    if wake.any (· ≤ now) then woken now else stopped now

/-- Pauses for a duration, unless the stop signal was given already or is given before its end. -/
def pause (duration : Duration) (stop : StopSignal) (woken stopped : Instant → Task σ α) :
    Task σ α :=
  act (fun _ state ↦ state) fun now _ ↦
    if stop.given now then stopped now
    else untilStopped (some (now + duration.asPause)) stop woken stopped

/-- The task with a deadline: if it is still waiting then, it is given up for another result. At
the deadline itself the task goes first. -/
def within (deadline : Instant) (expired : α) : Task σ α → Task σ α
  | done result => done result
  | crashed => crashed
  | await ready update next =>
    await (fun state ↦ earlier (ready state) (some deadline))
      (fun now state ↦ if (ready state).any (· ≤ now) then update now state else state)
      (fun now state ↦
        if (ready state).any (· ≤ now) then within deadline expired (next now state)
        else done expired)

/-- The task on one part of a larger state. -/
def focus (get : τ → σ) (set : σ → τ → τ) : Task σ α → Task τ α
  | done result => done result
  | crashed => crashed
  | await ready update next =>
    await (fun state ↦ ready (get state)) (fun now state ↦ set (update now (get state)) state)
      (fun now state ↦ focus get set (next now (get state)))

/-- Runs a task at one instant until it ends or has to wait. -/
def advance (now : Instant) : Task σ α → σ → Task σ α × σ
  | done result, state => (done result, state)
  | crashed, state => (crashed, state)
  | await ready update next, state =>
    if (ready state).any (· ≤ now) then advance now (next now state) (update now state)
    else (await ready update next, state)

def ending? : Task σ α → Option (Ending α)
  | done result => some (.answered result)
  | crashed => some .crashed
  | await .. => none

/-- The instant a task waits for, if it waits and that instant comes. -/
def wake? (task : Task σ α) (state : σ) : Option Instant :=
  match task with
  | await ready _ _ => ready state
  | _ => none

/-- Runs a task by itself to its end: when it ends, how, and in which state. A task that waits for
nothing never ends. -/
def run? (now : Instant) : Task σ α → σ → Option (Instant × Ending α × σ)
  | done result, state => some (now, .answered result, state)
  | crashed, state => some (now, .crashed, state)
  | await ready update next, state =>
    match ready state with
    | none => none
    | some due =>
      let woken := max now due
      run? woken (next woken state) (update woken state)

end Task

end FareSearch
