import FareSearch.Timed.Task

/-!
# Many tasks at once

Tasks that run side by side, either on one shared state or each on a state of its own. At each
instant every task runs until it ends or waits; then the clock moves on to the next instant that
one of them waits for.
-/

namespace FareSearch

namespace Crowd

variable {σ α : Type}

/-- Runs each task in turn on the state that the tasks before it left. -/
def advanceShared (now : Instant) : List (Task σ α) → σ → List (Task σ α) × σ
  | [], state => ([], state)
  | task :: rest, state =>
    let (task, state) := task.advance now state
    let (rest, state) := advanceShared now rest state
    (task :: rest, state)

/-- The next instant that a task on the shared state waits for. -/
def wakeShared? (tasks : List (Task σ α)) (state : σ) : Option Instant :=
  tasks.foldl (fun wake task ↦ earlier wake (task.wake? state)) none

/-- The tasks that have ended, with their endings, in order. -/
def endings (tasks : List (Task σ α)) : List (Option (Ending α)) :=
  tasks.map Task.ending?

/-- Runs tasks on a shared state, for at most `fuel` instants, and gives the last one. -/
def runShared : Nat → Instant → List (Task σ α) → σ → Instant × List (Task σ α) × σ
  | 0, now, tasks, state => (now, tasks, state)
  | fuel + 1, now, tasks, state =>
    let (tasks, state) := advanceShared now tasks state
    match wakeShared? tasks state with
    | none => (now, tasks, state)
    | some wake => runShared fuel wake tasks state

/-- Runs each task on its own state. -/
def advanceEach (now : Instant) : List (Task σ α) → List σ → List (Task σ α) × List σ
  | task :: tasks, state :: states =>
    let (task, state) := task.advance now state
    let (tasks, states) := advanceEach now tasks states
    (task :: tasks, state :: states)
  | tasks, states => (tasks, states)

/-- The next instant that one of the tasks waits for. -/
def wakeEach? : List (Task σ α) → List σ → Option Instant
  | task :: tasks, state :: states => earlier (task.wake? state) (wakeEach? tasks states)
  | _, _ => none

/-- Whether every task has ended. -/
def allEnded (tasks : List (Task σ α)) : Bool :=
  tasks.all fun task ↦ task.ending?.isSome

/-- Runs each task on its own state, for at most `fuel` instants, and gives the last one. -/
def runEach : Nat → Instant → List (Task σ α) → List σ → Instant × List (Task σ α) × List σ
  | 0, now, tasks, states => (now, tasks, states)
  | fuel + 1, now, tasks, states =>
    let (tasks, states) := advanceEach now tasks states
    match wakeEach? tasks states with
    | none => (now, tasks, states)
    | some wake => runEach fuel wake tasks states

end Crowd

end FareSearch
