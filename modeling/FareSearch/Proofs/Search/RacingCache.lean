import FareSearch.Proofs.Search.CacheLog
import Mathlib.Logic.Function.Basic

/-!
# Threads that race for a cache

A look-up reads the clock and then the entry; only if that has expired by the clock it has read, it
takes the entry out in a second section, unless another thread has stored a fresh one meanwhile.
Storing reads the clock before it inserts. Any number of threads do this, and remove and clear, with
their sections in any order on a clock that does not go back. The clock that a second section goes
by may be old. An entry that is expired by an old clock is expired, so nothing live is taken out,
and a look-up that comes in time finds what was stored last.
-/

namespace FareSearch.RacingCache

variable {V : Type}

/-- How far a thread has come with a use of the cache: it has read the clock for a look-up, has
found an expired entry, or has read the clock for storing a value. -/
inductive Thread (V : Type) where
  | idle
  | looking (key : String) (clock : ℕ)
  | evicting (key : String) (clock : ℕ)
  | storing (key : String) (value : V) (clock ttl : ℕ)

def Thread.clock? : Thread V → Option ℕ
  | .idle => none
  | .looking _ clock => some clock
  | .evicting _ clock => some clock
  | .storing _ _ clock _ => some clock

/-- A section of a use of the cache. The reading section of a look-up tells what the look-up
answers, and its evicting section what is taken out. -/
inductive Deed (V : Type) where
  | looks (key : String)
  | reads (key : String) (clock : ℕ) (found : Option V)
  | evicts (key : String) (clock : ℕ) (taken : Option (CacheEntry V))
  | prepares (key : String) (value : V) (ttl : ℕ)
  | inserts (key : String) (value : V) (clock ttl : ℕ)
  | removes (key : String)
  | clears

/-- What a thread did, and when. -/
structure Event (V : Type) where
  now : ℕ
  thread : ℕ
  deed : Deed V

/-- A cache and the threads that use it. -/
structure Race (V : Type) where
  cache : Cache V := {}
  thread : ℕ → Thread V := fun _ ↦ .idle

def Race.put (race : Race V) (thread : ℕ) (state : Thread V) : Race V :=
  { race with thread := Function.update race.thread thread state }

/-- The entry under a key that is expired by a clock. -/
def expired? (cache : Cache V) (key : String) (clock : ℕ) : Option (CacheEntry V) :=
  (cache.lookup? key).filter fun entry ↦ !Cache.isLive entry clock

/-- One section of one thread. -/
inductive Step (race : Race V) : Event V → Race V → Prop
  | looks {thread now : ℕ} {key : String} (idle : race.thread thread = .idle) :
      Step race ⟨now, thread, .looks key⟩ (race.put thread (.looking key now))
  | reads {thread now clock : ℕ} {key : String}
      (looking : race.thread thread = .looking key clock) :
      Step race ⟨now, thread, .reads key clock (race.cache.peek? key clock)⟩
        (race.put thread
          (if (expired? race.cache key clock).isSome then .evicting key clock else .idle))
  | evicts {thread now clock : ℕ} {key : String}
      (evicting : race.thread thread = .evicting key clock) :
      Step race ⟨now, thread, .evicts key clock (expired? race.cache key clock)⟩
        { race.put thread .idle with cache := race.cache.evict key clock }
  | prepares {thread now ttl : ℕ} {key : String} {value : V} (idle : race.thread thread = .idle) :
      Step race ⟨now, thread, .prepares key value ttl⟩
        (race.put thread (.storing key value now ttl))
  | inserts {thread now clock ttl : ℕ} {key : String} {value : V}
      (storing : race.thread thread = .storing key value clock ttl) :
      Step race ⟨now, thread, .inserts key value clock ttl⟩
        { race.put thread .idle with cache := race.cache.set key value clock ttl }
  | removes {thread now : ℕ} {key : String} (idle : race.thread thread = .idle) :
      Step race ⟨now, thread, .removes key⟩ { race with cache := (race.cache.remove key).2 }
  | clears {thread now : ℕ} (idle : race.thread thread = .idle) :
      Step race ⟨now, thread, .clears⟩ { race with cache := race.cache.clear }

/-- A course of sections, the latest first, on a cache that was empty. -/
inductive Run : List (Event V) → Race V → Prop
  | opens : Run [] {}
  | goesOn {trace : List (Event V)} {race next : Race V} {event : Event V} (run : Run trace race)
      (clock : ∀ earlier ∈ trace, earlier.now ≤ event.now) (step : Step race event next) :
      Run (event :: trace) next

/-- A section that puts something under a key or is told to take it away. -/
def Deed.Overwrites (key : String) : Deed V → Prop
  | .inserts other _ _ _ => other = key
  | .removes other => other = key
  | .clears => True
  | _ => False

/-- An evicting section that takes out what is under a key. -/
def Deed.TakesOut (key : String) : Deed V → Prop
  | .evicts other _ taken => other = key ∧ taken.isSome
  | _ => False

/-- A section that changes what is under a key. -/
def Deed.Writes (key : String) (deed : Deed V) : Prop :=
  deed.Overwrites key ∨ deed.TakesOut key

/-- A look-up that had read the clock ran its reading section at an instant, after a value was
inserted and other sections had been run since. -/
def ReadSince (trace : List (Event V)) (key : String) (value : V) (time ttl : ℕ)
    (between : List (Event V)) (clock now : ℕ) (found : Option V) : Prop :=
  ∃ later reader inserted writer earlier,
    trace = later ++ ⟨now, reader, .reads key clock found⟩ ::
      (between ++ ⟨inserted, writer, .inserts key value time ttl⟩ :: earlier)

/-- What is promised of a course. -/
structure KeepsFresh (trace : List (Event V)) (race : Race V) : Prop where
  /-- An evicting section takes out no entry, under whatever key, that is live when it runs. -/
  spares_live : ∀ event next, (∀ earlier ∈ trace, earlier.now ≤ event.now) →
    Step race event next → ∀ key clock taken, event.deed = .evicts key clock taken →
    ∀ other entry, race.cache.lookup? other = some entry →
      Cache.isLive entry event.now = true → next.cache.lookup? other = some entry
  /-- A look-up whose clock precedes the expiry of a value answers with it, if its reading section
  runs before any later section that writes the key: stores, removes, clears, or takes out the entry
  once it has expired. -/
  found : ∀ key value time ttl between clock now found,
    ReadSince trace key value time ttl between clock now found → Unexpired time ttl clock →
    (∀ event ∈ between, ¬event.deed.Writes key) → found = some value
  /-- The evicting sections of others are no such writes as long as the value has not expired. -/
  found_in_time : ∀ key value time ttl between clock now found,
    ReadSince trace key value time ttl between clock now found → Unexpired time ttl now →
    (∀ event ∈ between, ¬event.deed.Overwrites key) → found = some value

variable {trace : List (Event V)} {race next : Race V} {event : Event V} {key : String}
  {value : V} {time ttl : ℕ}

theorem Run.step_of_cons (run : Run (event :: trace) next) :
    ∃ race, Run trace race ∧ (∀ earlier ∈ trace, earlier.now ≤ event.now) ∧
      Step race event next := by
  cases run with
  | goesOn run clock step => exact ⟨_, run, clock, step⟩

theorem Run.of_append {later : List (Event V)} (run : Run (later ++ trace) race) :
    ∃ race, Run trace race := by
  induction later generalizing race with
  | nil => exact ⟨race, run⟩
  | cons event later ih =>
    obtain ⟨before, hbefore, -, -⟩ := run.step_of_cons
    exact ih hbefore

theorem put_thread (race : Race V) (first thread : ℕ) (state : Thread V) :
    (race.put first state).thread thread = if thread = first then state else race.thread thread :=
  Function.update_apply race.thread first state thread

theorem clock?_put {first thread clock : ℕ} {state : Thread V}
    (h : ((race.put first state).thread thread).clock? = some clock) :
    state.clock? = some clock ∧ thread = first ∨ (race.thread thread).clock? = some clock := by
  rw [put_thread] at h
  by_cases hthread : thread = first
  · rw [if_pos hthread] at h
    exact .inl ⟨h, hthread⟩
  · rw [if_neg hthread] at h
    exact .inr h

/-- A section leaves the clocks that threads go by, or reads the clock. -/
theorem Step.clock_cases (step : Step race event next) {thread clock : ℕ}
    (hclock : (next.thread thread).clock? = some clock) :
    event.now = clock ∨ ∃ thread, (race.thread thread).clock? = some clock := by
  cases step with
  | looks idle =>
    rcases clock?_put hclock with ⟨hread, -⟩ | hkept
    · exact .inl (Option.some.inj hread)
    · exact .inr ⟨thread, hkept⟩
  | @reads first now stale key looking =>
    rcases clock?_put hclock with ⟨hread, -⟩ | hkept
    · refine .inr ⟨first, ?_⟩
      rw [looking]
      split at hread
      · exact hread
      · cases hread
    · exact .inr ⟨thread, hkept⟩
  | evicts evicting =>
    rcases clock?_put hclock with ⟨hread, -⟩ | hkept
    · cases hread
    · exact .inr ⟨thread, hkept⟩
  | prepares idle =>
    rcases clock?_put hclock with ⟨hread, -⟩ | hkept
    · exact .inl (Option.some.inj hread)
    · exact .inr ⟨thread, hkept⟩
  | inserts storing =>
    rcases clock?_put hclock with ⟨hread, -⟩ | hkept
    · cases hread
    · exact .inr ⟨thread, hkept⟩
  | removes idle => exact .inr ⟨thread, hclock⟩
  | clears idle => exact .inr ⟨thread, hclock⟩

/-- A thread goes by a clock that was read at an instant of the course. -/
theorem Run.clock_read (run : Run trace race) {thread clock : ℕ}
    (hclock : (race.thread thread).clock? = some clock) : ∃ event ∈ trace, event.now = clock := by
  induction run generalizing thread with
  | opens => cases hclock
  | @goesOn trace race next event run _ step ih =>
    rcases step.clock_cases hclock with hnow | ⟨other, hother⟩
    · exact ⟨event, List.mem_cons_self, hnow⟩
    · obtain ⟨earlier, hearlier, hnow⟩ := ih hother
      exact ⟨earlier, List.mem_cons_of_mem event hearlier, hnow⟩

/-- So it is not ahead of the clock. -/
theorem Run.clock_le (run : Run trace race) {now thread clock : ℕ}
    (hpast : ∀ earlier ∈ trace, earlier.now ≤ now)
    (hclock : (race.thread thread).clock? = some clock) : clock ≤ now := by
  obtain ⟨earlier, hearlier, rfl⟩ := run.clock_read hclock
  exact hpast earlier hearlier

/-- What is live now was live by any older clock. -/
theorem isLive_of_le {entry : CacheEntry V} {clock now : ℕ} (hle : clock ≤ now)
    (hlive : Cache.isLive entry now = true) : Cache.isLive entry clock = true := by
  unfold Cache.isLive at *
  cases hexpiry : entry.expiry with
  | none => rfl
  | some expiry =>
    rw [hexpiry, Option.all_some, decide_eq_true_eq] at hlive
    rw [Option.all_some, decide_eq_true_eq]
    exact Nat.lt_of_le_of_lt hle hlive

/-- The clock of an evicting section may be old, and then all the more is live by it. -/
theorem Run.spares_live (run : Run trace race) (hpast : ∀ earlier ∈ trace, earlier.now ≤ event.now)
    (step : Step race event next) {other : String} {clock : ℕ} {taken : Option (CacheEntry V)}
    (hdeed : event.deed = .evicts other clock taken) {entry : CacheEntry V}
    (hentry : race.cache.lookup? key = some entry)
    (hlive : Cache.isLive entry event.now = true) : next.cache.lookup? key = some entry := by
  cases step with
  | @evicts thread now stale name evicting =>
    have hle : stale ≤ now := run.clock_le hpast (by rw [evicting]; rfl)
    refine (race.cache.lookup_evict name key stale).trans ?_
    by_cases hname : name = key
    · rw [if_pos hname, hentry, Option.filter_some, if_pos (isLive_of_le hle hlive)]
    · rw [if_neg hname, hentry]
  | _ => cases hdeed

/-- Evicting changes nothing where nothing is expired. -/
theorem lookup_evict_of_expired {cache : Cache V} {clock : ℕ}
    (h : (expired? cache key clock).isSome = false) :
    (cache.evict key clock).lookup? key = cache.lookup? key := by
  rw [Cache.lookup_evict, if_pos rfl]
  unfold expired? at h
  cases hentry : cache.lookup? key with
  | none => rfl
  | some entry =>
    cases hlive : Cache.isLive entry clock with
    | true => rw [Option.filter_some, if_pos hlive]
    | false => simp [hentry, hlive, Option.filter] at h

/-- A section that is no write to a key leaves what is under it. -/
theorem Step.lookup_eq (step : Step race event next) (hwrites : ¬event.deed.Writes key) :
    next.cache.lookup? key = race.cache.lookup? key := by
  obtain ⟨hoverwrites, htakes⟩ := not_or.mp hwrites
  cases step with
  | looks idle => rfl
  | reads looking => rfl
  | prepares idle => rfl
  | @evicts thread now clock other evicting =>
    by_cases hother : other = key
    · subst hother
      apply lookup_evict_of_expired
      simpa [Deed.TakesOut] using htakes
    · exact (race.cache.lookup_evict other key clock).trans (if_neg hother)
  | @inserts thread now clock ttl other value storing =>
    exact (race.cache.lookup_set other key clock value ttl).trans (if_neg hoverwrites)
  | @removes thread now other idle =>
    exact (race.cache.lookup_erase other key).trans (if_neg hoverwrites)
  | clears idle => exact absurd trivial hoverwrites

/-- Until a key is overwritten, or what is under it is taken out after its expiry, the entry that
was inserted is there. -/
theorem Run.lookup_since {inserted writer : ℕ} {between earlier : List (Event V)}
    (run : Run (between ++ ⟨inserted, writer, .inserts key value time ttl⟩ :: earlier) race)
    (hkept : ∀ event ∈ between, ¬event.deed.Overwrites key ∧
      (event.deed.TakesOut key → Unexpired time ttl event.now)) :
    race.cache.lookup? key = some ⟨value, Cache.expiryOf time ttl⟩ := by
  induction between generalizing race with
  | nil =>
    obtain ⟨before, -, -, step⟩ := run.step_of_cons
    cases step with
    | inserts storing => exact (before.cache.lookup_set key key time value ttl).trans (if_pos rfl)
  | cons event between ih =>
    obtain ⟨before, hbefore, hpast, step⟩ := run.step_of_cons
    obtain ⟨hoverwrites, hunexpired⟩ := hkept event List.mem_cons_self
    have hentry : before.cache.lookup? key = some ⟨value, Cache.expiryOf time ttl⟩ :=
      ih hbefore fun other hother ↦ hkept other (List.mem_cons_of_mem event hother)
    by_cases htakes : event.deed.TakesOut key
    · have hlive : Cache.isLive ⟨value, Cache.expiryOf time ttl⟩ event.now = true :=
        isLive_iff_unexpired.mpr (hunexpired htakes)
      cases hdeed : event.deed with
      | evicts other clock taken => exact hbefore.spares_live hpast step hdeed hentry hlive
      | _ =>
        rw [hdeed] at htakes
        exact htakes.elim
    · rw [step.lookup_eq (not_or.mpr ⟨hoverwrites, htakes⟩)]
      exact hentry

/-- A reading section answers with what is under the key, if it is live by the clock that was
read. -/
theorem Run.found_since {between : List (Event V)} {clock now : ℕ} {found : Option V}
    (run : Run trace race) (hread : ReadSince trace key value time ttl between clock now found)
    (hclock : Unexpired time ttl clock)
    (hkept : ∀ event ∈ between, ¬event.deed.Overwrites key ∧
      (event.deed.TakesOut key → Unexpired time ttl event.now)) : found = some value := by
  obtain ⟨later, reader, inserted, writer, earlier, rfl⟩ := hread
  obtain ⟨after, hafter⟩ := run.of_append
  obtain ⟨before, hbefore, -, step⟩ := hafter.step_of_cons
  have hentry := hbefore.lookup_since hkept
  cases step with
  | reads looking =>
    have hlive : Cache.isLive ⟨value, Cache.expiryOf time ttl⟩ clock = true :=
      isLive_iff_unexpired.mpr hclock
    simp [Cache.peek?, hentry, hlive]

/-- A look-up reads the clock before its reading section, and all that was done before is no
later. -/
theorem Run.le_of_readSince {between : List (Event V)} {clock now : ℕ} {found : Option V}
    (run : Run trace race) (hread : ReadSince trace key value time ttl between clock now found) :
    clock ≤ now ∧ ∀ event ∈ between, event.now ≤ now := by
  obtain ⟨later, reader, inserted, writer, earlier, rfl⟩ := hread
  obtain ⟨after, hafter⟩ := run.of_append
  obtain ⟨before, hbefore, hpast, step⟩ := hafter.step_of_cons
  constructor
  · cases step with
    | reads looking => exact hbefore.clock_le hpast (by rw [looking]; rfl)
  · intro event hevent
    exact hpast event (List.mem_append_left _ hevent)

/-- In every course of sections no live entry is taken out, and look-ups find what is fresh. -/
theorem keeps_fresh (run : Run trace race) : KeepsFresh trace race where
  spares_live _ _ hpast step _ _ _ hdeed _ _ hentry hlive :=
    run.spares_live hpast step hdeed hentry hlive
  found _ _ _ _ _ _ _ _ hread hclock hwrites := by
    apply run.found_since hread hclock
    intro event hevent
    obtain ⟨hoverwrites, htakes⟩ := not_or.mp (hwrites event hevent)
    exact ⟨hoverwrites, fun h ↦ absurd h htakes⟩
  found_in_time _ _ _ _ _ _ _ _ hread hnow hoverwrites := by
    obtain ⟨hclock, hpast⟩ := run.le_of_readSince hread
    apply run.found_since hread (hnow.of_le hclock)
    intro event hevent
    exact ⟨hoverwrites event hevent, fun _ ↦ hnow.of_le (hpast event hevent)⟩

/-- A look-up comes between the storing of a fresh entry and the section in which an earlier look-up
would take out the expired one. -/
def betweenSections : List (Event ℕ) :=
  [⟨5, 1, .evicts "key" 3 none⟩, ⟨4, 3, .looks "key"⟩]

theorem keeps_fresh_refreshed :
    ∃ (trace : List (Event ℕ)) (race : Race ℕ) (found : Option ℕ), Run trace race ∧
      ReadSince trace "key" 2 3 5 betweenSections 4 6 found ∧ found = some 2 := by
  have stored : Run [⟨0, 0, .inserts "key" 1 0 2⟩, ⟨0, 0, .prepares "key" 1 2⟩] _ :=
    (Run.opens.goesOn (by simp) (.prepares rfl)).goesOn (by simp) (.inserts rfl)
  have expired : Run (⟨3, 1, .reads "key" 3 none⟩ :: ⟨3, 1, .looks "key"⟩ :: _) _ :=
    (stored.goesOn (by simp) (.looks rfl)).goesOn (by simp) (.reads rfl)
  have refreshed : Run (⟨4, 2, .inserts "key" 2 3 5⟩ :: ⟨3, 2, .prepares "key" 2 5⟩ :: _) _ :=
    (expired.goesOn (by simp) (.prepares rfl)).goesOn (by simp) (.inserts rfl)
  have spared : Run (⟨5, 1, .evicts "key" 3 none⟩ :: ⟨4, 3, .looks "key"⟩ :: _) _ :=
    (refreshed.goesOn (by simp) (.looks rfl)).goesOn (by simp) (.evicts rfl)
  have found : Run (⟨6, 3, .reads "key" 4 _⟩ :: _) _ := spared.goesOn (by simp) (.reads rfl)
  refine ⟨_, _, _, found, ⟨[], 3, 4, 2, _, rfl⟩, ?_⟩
  apply (keeps_fresh found).found "key" 2 3 5 betweenSections 4 6 _ ⟨[], 3, 4, 2, _, rfl⟩
  · exact .inr (by decide)
  · simp [betweenSections, Deed.Writes, Deed.Overwrites, Deed.TakesOut]

end FareSearch.RacingCache
