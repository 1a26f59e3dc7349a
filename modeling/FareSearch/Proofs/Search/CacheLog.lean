import FareSearch.Proofs.Search.Cache
import Mathlib.Algebra.Group.Nat.Defs

/-!
# A cache and the log of its uses

A cache forgets by and by what has expired, so it holds less than what was stored and more than what
is live. What it answers is told here from the log of its uses alone. A look-up finds what the last
write to its key stored, as long as that has not expired; expired entries are counted until a
look-up has found them expired. That look-ups take out entries can therefore not be told from the
answers of later look-ups.
-/

namespace FareSearch

/-- A use of a cache, or a move of its clock. -/
inductive CacheUse (V : Type) where
  | set (key : String) (value : V) (ttl : ℕ)
  | get (key : String)
  | remove (key : String)
  | clear
  | advance (pause : ℕ)

namespace CacheUse

variable {V : Type}

def isGet : CacheUse V → Bool
  | get _ => true
  | _ => false

/-- A use that changes what is stored under a key, whether it is there or not. -/
def Writes (key : String) : CacheUse V → Prop
  | set other _ _ => other = key
  | remove other => other = key
  | clear => True
  | _ => False

/-- The reading of the clock after a use. -/
def clock (now : ℕ) : CacheUse V → ℕ
  | advance pause => now + pause
  | _ => now

/-- The cache after a use. -/
def apply (now : ℕ) (cache : Cache V) : CacheUse V → Cache V
  | set key value ttl => cache.set key value now ttl
  | get key => (cache.get key now).2
  | remove key => (cache.remove key).2
  | clear => cache.clear
  | advance _ => cache

/-- A use that concerns other keys leaves the entry under a key. -/
theorem lookup_apply_of_frame {next : CacheUse V} {key : String} (hwrites : ¬next.Writes key)
    (hget : next ≠ .get key) (now : ℕ) (cache : Cache V) :
    (next.apply now cache).lookup? key = cache.lookup? key := by
  cases next with
  | set other stored life =>
    exact (cache.lookup_set other key now stored life).trans (if_neg hwrites)
  | get other =>
    have hother : other ≠ key := fun h ↦ hget (by rw [h])
    rw [apply, Cache.get_snd, Cache.lookup_evict, if_neg hother]
  | remove other => exact (cache.lookup_erase other key).trans (if_neg hwrites)
  | clear => exact absurd trivial hwrites
  | advance pause => rfl

end CacheUse

/-- A cache that was put to use, with the reading of its clock and the log of its uses, each with
the instant at which it was made. -/
structure UsedCache (V : Type) where
  cache : Cache V := {}
  now : ℕ
  log : List (ℕ × CacheUse V) := []

namespace UsedCache

variable {V : Type}

def use (used : UsedCache V) (next : CacheUse V) : UsedCache V where
  cache := next.apply used.now used.cache
  now := next.clock used.now
  log := used.log ++ [(used.now, next)]

/-- An empty cache after a sequence of uses. -/
def run (start : ℕ) (uses : List (CacheUse V)) : UsedCache V :=
  uses.foldl use { now := start }

end UsedCache

section Logs

variable {V : Type} {log : List (ℕ × CacheUse V)} {last : ℕ × CacheUse V} {key : String}
  {time ttl : ℕ} {value : V}

/-- A value was stored under a key at an instant, and all uses since satisfy a condition. -/
def SetSince (log : List (ℕ × CacheUse V)) (key : String) (time : ℕ) (value : V) (ttl : ℕ)
    (condition : ℕ × CacheUse V → Prop) : Prop :=
  ∃ before after, log = before ++ (time, .set key value ttl) :: after ∧
    ∀ later ∈ after, condition later

/-- The first instant that the clock cannot tell: its seconds take 63 bits. -/
def clockEnd : ℕ :=
  2 ^ 63 * 10 ^ 9

/-- The end of the time to live has not come, or never comes because the clock cannot tell it. -/
def Unexpired (time ttl now : ℕ) : Prop :=
  clockEnd ≤ time + ttl ∨ now < time + ttl

/-- The expiry of what is stored at an instant: the end of its time to live, if the clock can tell
it. -/
def IsExpiry (time ttl : ℕ) (expiry : Option ℕ) : Prop :=
  ∀ instant, expiry = some instant ↔ instant = time + ttl ∧ instant < clockEnd

/-- The last write to a key stored a value. -/
def LastSet (log : List (ℕ × CacheUse V)) (key : String) (time : ℕ) (value : V) (ttl : ℕ) : Prop :=
  SetSince log key time value ttl fun later ↦ ¬later.2.Writes key

/-- The last write to a key stored a value, and no look-up has found it expired since. -/
def Held (log : List (ℕ × CacheUse V)) (key : String) (time : ℕ) (value : V) (ttl : ℕ) : Prop :=
  SetSince log key time value ttl fun later ↦
    ¬later.2.Writes key ∧ (later.2 = .get key → Unexpired time ttl later.1)

theorem setSince_append {condition : ℕ × CacheUse V → Prop} :
    SetSince (log ++ [last]) key time value ttl condition ↔
      last = (time, .set key value ttl) ∨
        SetSince log key time value ttl condition ∧ condition last := by
  constructor
  · rintro ⟨before, after, hlog, hafter⟩
    rcases List.eq_nil_or_concat after with rfl | ⟨rest, newest, rfl⟩
    · exact .inl (List.append_singleton_inj.mp hlog).2
    · rw [List.concat_eq_append, ← List.cons_append, ← List.append_assoc] at hlog
      obtain ⟨hbefore, rfl⟩ := List.append_singleton_inj.mp hlog
      right
      constructor
      · refine ⟨before, rest, hbefore, ?_⟩
        intro later hlater
        exact hafter later (by simp [hlater])
      · exact hafter last (by simp)
  · rintro (rfl | ⟨⟨before, after, rfl, hafter⟩, hlast⟩)
    · exact ⟨log, [], rfl, by simp⟩
    · refine ⟨before, after ++ [last], by simp, ?_⟩
      intro later hlater
      rcases List.mem_append.mp hlater with hlater | hlater
      · exact hafter later hlater
      · rw [List.mem_singleton.mp hlater]
        exact hlast

theorem held_append :
    Held (log ++ [last]) key time value ttl ↔
      last = (time, .set key value ttl) ∨
        Held log key time value ttl ∧
          ¬last.2.Writes key ∧ (last.2 = .get key → Unexpired time ttl last.1) :=
  setSince_append

/-- A use that concerns other keys changes nothing about a key. -/
theorem held_append_of_frame (hwrites : ¬last.2.Writes key) (hget : last.2 ≠ .get key) :
    Held (log ++ [last]) key time value ttl ↔ Held log key time value ttl := by
  rw [held_append]
  constructor
  · rintro (rfl | ⟨hheld, -⟩)
    · exact absurd rfl hwrites
    · exact hheld
  · intro hheld
    exact .inr ⟨hheld, hwrites, fun h ↦ absurd h hget⟩

theorem isExpiry_expiryOf (time ttl : ℕ) : IsExpiry time ttl (Cache.expiryOf time ttl) := by
  intro instant
  have hbound : Number.twoPow 63 * 1000000000 = clockEnd := rfl
  rw [Cache.expiryOf, hbound]
  split
  next htold =>
    rw [Option.some_inj]
    exact ⟨fun h ↦ ⟨h.symm, h ▸ htold⟩, fun h ↦ h.1.symm⟩
  next huntold =>
    refine iff_of_false (Option.some_ne_none instant).symm ?_
    rintro ⟨rfl, htold⟩
    exact huntold htold

/-- The cache's own test of liveness is the bound and the clock. -/
theorem IsExpiry.isLive_iff {expiry : Option ℕ} {now : ℕ} (h : IsExpiry time ttl expiry) :
    Cache.isLive ⟨value, expiry⟩ now = true ↔ Unexpired time ttl now := by
  rw [Cache.isLive, Option.all_eq_true]
  simp only [h _, decide_eq_true_eq]
  constructor
  · intro hlive
    rcases Nat.lt_or_ge (time + ttl) clockEnd with htold | huntold
    · exact .inr (hlive _ ⟨rfl, htold⟩)
    · exact .inl huntold
  · rintro hunexpired _ ⟨rfl, htold⟩
    exact hunexpired.resolve_left (Nat.not_le_of_lt htold)

theorem isLive_iff_unexpired {now : ℕ} :
    Cache.isLive ⟨value, Cache.expiryOf time ttl⟩ now = true ↔ Unexpired time ttl now :=
  (isExpiry_expiryOf time ttl).isLive_iff

theorem Unexpired.of_le {now earlier : ℕ} (h : Unexpired time ttl now) (hle : earlier ≤ now) :
    Unexpired time ttl earlier := by
  apply h.imp_right
  intro hnow
  exact Nat.lt_of_le_of_lt hle hnow

/-- What is live at the end of the log was live at all look-ups. -/
theorem held_and_unexpired_iff {now : ℕ} (hpast : ∀ entry ∈ log, entry.1 ≤ now) :
    Held log key time value ttl ∧ Unexpired time ttl now ↔
      LastSet log key time value ttl ∧ Unexpired time ttl now := by
  constructor
  · rintro ⟨⟨before, after, hlog, hafter⟩, hlive⟩
    refine ⟨⟨before, after, hlog, ?_⟩, hlive⟩
    intro later hlater
    exact (hafter later hlater).1
  · rintro ⟨⟨before, after, rfl, hafter⟩, hlive⟩
    refine ⟨⟨before, after, rfl, ?_⟩, hlive⟩
    intro later hlater
    refine ⟨hafter later hlater, ?_⟩
    intro _
    exact hlive.of_le (hpast later (by simp [hlater]))

end Logs

namespace UsedCache

variable {V : Type} {used : UsedCache V}

/-- What a cache holds is told by the log of its uses. -/
structure Logged (used : UsedCache V) : Prop where
  lookup_iff : ∀ key value expiry, used.cache.lookup? key = some ⟨value, expiry⟩ ↔
    ∃ time ttl, Held used.log key time value ttl ∧ expiry = Cache.expiryOf time ttl
  keys_nodup : used.cache.keys.Nodup
  past : ∀ entry ∈ used.log, entry.1 ≤ used.now

theorem logged_start (start : ℕ) : Logged ({ now := start } : UsedCache V) where
  lookup_iff key value expiry := by
    simp [Cache.lookup?, Held, SetSince]
  keys_nodup := by simp [Cache.keys]
  past entry hentry := by simp at hentry

theorem logged_use (h : Logged used) (next : CacheUse V) : Logged (used.use next) where
  lookup_iff key value expiry := by
    dsimp only [use]
    by_cases hframe : ¬next.Writes key ∧ next ≠ .get key
    · rw [CacheUse.lookup_apply_of_frame hframe.1 hframe.2, h.lookup_iff]
      have hheld : ∀ time ttl, Held (used.log ++ [(used.now, next)]) key time value ttl ↔
          Held used.log key time value ttl := fun _ _ ↦ held_append_of_frame hframe.1 hframe.2
      simp only [hheld]
    · cases next with
      | set other stored life =>
        obtain rfl : other = key := by simpa [CacheUse.Writes] using hframe
        rw [CacheUse.apply, Cache.lookup_set, if_pos rfl]
        simp only [held_append, CacheUse.Writes, not_true_eq_false, false_and, and_false, or_false,
          Option.some.injEq, CacheEntry.mk.injEq, Prod.mk.injEq, CacheUse.set.injEq, true_and]
        constructor
        · rintro ⟨rfl, rfl⟩
          exact ⟨used.now, life, ⟨rfl, rfl, rfl⟩, rfl⟩
        · rintro ⟨time, ttl, ⟨rfl, rfl, rfl⟩, rfl⟩
          exact ⟨rfl, rfl⟩
      | get other =>
        obtain rfl : other = key := by simpa [CacheUse.Writes] using hframe
        rw [CacheUse.apply, Cache.get_snd, Cache.lookup_evict, if_pos rfl,
          Option.filter_eq_some_iff, h.lookup_iff]
        simp only [held_append, CacheUse.Writes, not_false_eq_true, forall_const, true_and,
          Prod.mk.injEq, reduceCtorEq, and_false, false_or]
        constructor
        · rintro ⟨⟨time, ttl, hheld, rfl⟩, hlive⟩
          exact ⟨time, ttl, ⟨hheld, isLive_iff_unexpired.mp hlive⟩, rfl⟩
        · rintro ⟨time, ttl, ⟨hheld, hlive⟩, rfl⟩
          exact ⟨⟨time, ttl, hheld, rfl⟩, isLive_iff_unexpired.mpr hlive⟩
      | remove other =>
        obtain rfl : other = key := by simpa [CacheUse.Writes] using hframe
        rw [CacheUse.apply, Cache.remove, Cache.lookup_erase, if_pos rfl]
        simp [held_append, CacheUse.Writes]
      | clear => simp [CacheUse.apply, Cache.clear, Cache.lookup?, held_append, CacheUse.Writes]
      | advance pause => simp [CacheUse.Writes] at hframe
  keys_nodup := by
    cases next with
    | set other stored life =>
      exact used.cache.keys_set_nodup other used.now h.keys_nodup stored life
    | get other =>
      rw [use, CacheUse.apply, Cache.get_snd]
      exact used.cache.keys_evict_nodup other used.now h.keys_nodup
    | remove other => exact used.cache.keys_erase_nodup other h.keys_nodup
    | clear => exact List.nodup_nil
    | advance pause => exact h.keys_nodup
  past entry hentry := by
    have hnow : used.now ≤ (used.use next).now := by
      cases next with
      | advance pause => exact Nat.le_add_right _ _
      | _ => exact Nat.le_refl _
    rcases List.mem_append.mp hentry with hold | hlast
    · exact Nat.le_trans (h.past entry hold) hnow
    · rw [List.mem_singleton.mp hlast]
      exact hnow

theorem logged_foldl (h : Logged used) (uses : List (CacheUse V)) :
    Logged (uses.foldl use used) := by
  induction uses generalizing used with
  | nil => exact h
  | cons next rest ih => exact ih (logged_use h next)

theorem logged_run (start : ℕ) (uses : List (CacheUse V)) : Logged (run start uses) :=
  logged_foldl (logged_start start) uses

/-- A look-up finds what the last write stored, unless it has expired. -/
theorem Logged.get_eq_some_iff (h : Logged used) (key : String) (value : V) :
    (used.cache.get key used.now).1 = some value ↔
      ∃ time ttl, LastSet used.log key time value ttl ∧ Unexpired time ttl used.now := by
  rw [Cache.get_eq_some_iff]
  constructor
  · rintro ⟨expiry, hentry, hlive⟩
    obtain ⟨time, ttl, hheld, rfl⟩ := (h.lookup_iff key value expiry).mp hentry
    exact ⟨time, ttl,
      (held_and_unexpired_iff h.past).mp ⟨hheld, isLive_iff_unexpired.mp hlive⟩⟩
  · rintro ⟨time, ttl, hset⟩
    obtain ⟨hheld, hlive⟩ := (held_and_unexpired_iff h.past).mpr hset
    exact ⟨_, (h.lookup_iff key value _).mpr ⟨time, ttl, hheld, rfl⟩,
      isLive_iff_unexpired.mpr hlive⟩

theorem Logged.isSome_iff (h : Logged used) (key : String) :
    (used.cache.lookup? key).isSome = true ↔
      ∃ time value ttl, Held used.log key time value ttl := by
  rw [Option.isSome_iff_exists]
  constructor
  · rintro ⟨⟨value, expiry⟩, hentry⟩
    obtain ⟨time, ttl, hheld, -⟩ := (h.lookup_iff key value expiry).mp hentry
    exact ⟨time, value, ttl, hheld⟩
  · rintro ⟨time, value, ttl, hheld⟩
    exact ⟨_, (h.lookup_iff key value _).mpr ⟨time, ttl, hheld, rfl⟩⟩

/-- The clocks and the last writes are the same. -/
structure SameWrites (used other : UsedCache V) : Prop where
  now_eq : used.now = other.now
  lastSet_iff : ∀ key time value ttl,
    LastSet used.log key time value ttl ↔ LastSet other.log key time value ttl

theorem SameWrites.use {other : UsedCache V} (h : SameWrites used other) (next : CacheUse V) :
    SameWrites (used.use next) (other.use next) where
  now_eq := by
    rw [UsedCache.use, UsedCache.use, h.now_eq]
  lastSet_iff key time value ttl := by
    rw [LastSet, LastSet, UsedCache.use, UsedCache.use, setSince_append, setSince_append, h.now_eq]
    exact or_congr_right (and_congr_left' (h.lastSet_iff key time value ttl))

theorem SameWrites.use_get {other : UsedCache V} (h : SameWrites used other) {next : CacheUse V}
    (hget : next.isGet = true) : SameWrites used (other.use next) := by
  cases next with
  | get name =>
    refine ⟨h.now_eq, ?_⟩
    intro key time value ttl
    rw [h.lastSet_iff, LastSet, LastSet, UsedCache.use, setSince_append]
    simp [CacheUse.Writes]
  | _ => simp [CacheUse.isGet] at hget

/-- Look-ups change neither the clock nor the last writes. -/
theorem SameWrites.foldl_filter {other : UsedCache V} (h : SameWrites used other)
    (uses : List (CacheUse V)) :
    SameWrites ((uses.filter (!·.isGet)).foldl UsedCache.use used)
      (uses.foldl UsedCache.use other) := by
  induction uses generalizing used other with
  | nil => exact h
  | cons next rest ih =>
    by_cases hget : next.isGet = true
    · rw [List.filter_cons_of_neg (by simp [hget])]
      exact ih (h.use_get hget)
    · rw [List.filter_cons_of_pos (by simp [hget])]
      exact ih (h.use next)

variable (start : ℕ) (uses : List (CacheUse V))

/-- Each answer of a cache after any sequence of uses, told from the log. -/
theorem run_answers :
    (∀ key value, ((run start uses).cache.get key (run start uses).now).1 = some value ↔
      ∃ time ttl, LastSet (run start uses).log key time value ttl ∧
        Unexpired time ttl (run start uses).now) ∧
    (∀ key, ((run start uses).cache.remove key).1 = true ↔
      ∃ time value ttl, Held (run start uses).log key time value ttl) ∧
    (∃ keys : List String, keys.Nodup ∧ (run start uses).cache.size = keys.length ∧
      ∀ key, key ∈ keys ↔ ∃ time value ttl, Held (run start uses).log key time value ttl) ∧
    ((run start uses).cache.isEmpty = true ↔ (run start uses).cache.size = 0) ∧
    ∀ key, ((run start (uses.filter (!·.isGet))).cache.get key
        (run start (uses.filter (!·.isGet))).now).1 =
      ((run start uses).cache.get key (run start uses).now).1 := by
  have hlogged := logged_run start uses
  refine ⟨hlogged.get_eq_some_iff, hlogged.isSome_iff, ?_, decide_eq_true_iff, ?_⟩
  · refine ⟨(run start uses).cache.keys, hlogged.keys_nodup, ?_, ?_⟩
    · exact (List.length_map _).symm
    · intro key
      rw [Cache.mem_keys_iff, hlogged.isSome_iff]
  · intro key
    have hsame : SameWrites (run start (uses.filter (!·.isGet))) (run start uses) :=
      SameWrites.foldl_filter ⟨rfl, fun _ _ _ _ ↦ Iff.rfl⟩ uses
    ext value
    rw [hlogged.get_eq_some_iff, (logged_run start _).get_eq_some_iff]
    simp only [hsame.now_eq, hsame.lastSet_iff]

end UsedCache

end FareSearch
