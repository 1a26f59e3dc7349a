import FareSearch.Proofs.Search.CacheLog
import FareSearch.Proofs.Search.RoundTrip
import FareSearch.Proofs.Search.Trace

/-!
# Hits replay what was stored

Any number of searches take turns on one service, in any order, while the clock of the cache moves
on: some are given up, some miss side by side and store one outcome after another. What the cache
holds is always told by the turns that were taken: under each key the outcome that was last stored
there, by a search that asked its providers and returned it. A hit replays that outcome if it has
not expired, and a search for whose key there is one is a hit.
-/

namespace FareSearch

theorem Cache.Spared.lookup_eq_some {V : Type} {cache after : Cache V} {key other : String}
    {now : Instant} {entry : CacheEntry V} (h : cache.Spared key now after)
    (hentry : after.lookup? other = some entry) : cache.lookup? other = some entry := by
  cases h with
  | same => exact hentry
  | evicted _ _ =>
    rw [lookup_erase] at hentry
    split at hentry
    next => cases hentry
    next => exact hentry

/-- Live entries are still there. -/
theorem Cache.Spared.lookup_of_live {V : Type} {cache after : Cache V} {key other : String}
    {now : Instant} {entry : CacheEntry V} (h : cache.Spared key now after)
    (hentry : cache.lookup? other = some entry) (hlive : isLive entry now = true) :
    after.lookup? other = some entry := by
  cases h with
  | same => exact hentry
  | @evicted gone hgone hexpired =>
    have hother : key ≠ other := by
      rintro rfl
      rw [hgone, Option.some.injEq] at hentry
      rw [hentry, hlive] at hexpired
      exact absurd hexpired.symm Bool.false_ne_true
    rw [lookup_erase, if_neg hother]
    exact hentry

/-- A turn of a search: which search took it and when, how far it had come, and what it found
shared. -/
structure SearchTurn (σ : Type) where
  search : ℕ
  now : Instant
  run : SearchRun σ
  shared : SharedState σ

def SearchTurn.key {σ : Type} (turn : SearchTurn σ) : String :=
  turn.run.criteria.cacheKey

namespace SearchService

variable {σ : Type} (service : SearchService σ)

def stageAfter (turn : SearchTurn σ) : Stage σ :=
  (service.turn turn.now turn.run turn.shared).1

def sharedAfter (turn : SearchTurn σ) : SharedState σ :=
  (service.turn turn.now turn.run turn.shared).2.1

/-- The turns that the searches of a service have taken, the latest first, how far the searches have
come, and what they share. Searches begin at any time, any of them may take the next turn, and
between two turns the clock of the cache goes on and the providers do what they like. -/
inductive History : List (SearchTurn σ) → List (SearchRun σ) → SharedState σ → Prop
  | opens (states : List σ) (cacheNow : Instant) : History [] [] { states, cacheNow }
  | begins {turns : List (SearchTurn σ)} {runs : List (SearchRun σ)} {shared : SharedState σ}
      (history : History turns runs shared) (criteria : SearchCriteria) (stop : StopSignal)
      (start : Instant) :
      History turns (runs ++ [({ criteria, stop, start } : SearchRun σ)]) shared
  | turns {turns : List (SearchTurn σ)} {runs : List (SearchRun σ)} {shared : SharedState σ}
      {search : ℕ} {run : SearchRun σ} (history : History turns runs shared)
      (taken : runs[search]? = some run) (now : Instant) :
      History (⟨search, now, run, shared⟩ :: turns)
        (runs.set search { run with stage := (service.turn now run shared).1 })
        (service.turn now run shared).2.1
  | elapses {turns : List (SearchTurn σ)} {runs : List (SearchRun σ)} {shared : SharedState σ}
      {cacheNow : Instant} (history : History turns runs shared)
      (clock : shared.cacheNow ≤ cacheNow) (states : List σ)
      (withdrawn : List (List (Task σ Answer))) :
      History turns runs { shared with states, cacheNow, withdrawn }

/-- A search ends with a turn. -/
def Returns (turn : SearchTurn σ) (result : Except SearchError SearchOutcome) : Prop :=
  (∀ earlier, turn.run.stage ≠ .finished earlier) ∧ service.stageAfter turn = .finished result

/-- A search that asked its providers ends with an outcome, and leaves it in the cache. -/
structure Stores (turn : SearchTurn σ) (outcome : SearchOutcome) : Prop where
  returns : service.Returns turn (.ok outcome)
  asked : outcome.metadata.cacheHit = false
  stored : ∃ expiry, IsExpiry turn.shared.cacheNow service.config.cacheTtl expiry ∧
    (service.sharedAfter turn).cache.lookup? turn.key = some ⟨outcome, expiry⟩

/-- The last outcome that was stored under a key, and the turn with which it was. -/
def LastStored (turns : List (SearchTurn σ)) (key : String) (origin : SearchTurn σ)
    (outcome : SearchOutcome) : Prop :=
  ∃ later earlier, turns = later ++ origin :: earlier ∧ origin.key = key ∧
    service.Stores origin outcome ∧
    ∀ turn ∈ later, turn.key = key → ∀ other, ¬service.Stores turn other

/-- What is stored with a turn is live at an instant. -/
def LiveAt (origin : SearchTurn σ) (now : Instant) : Prop :=
  Unexpired origin.shared.cacheNow service.config.cacheTtl now

/-- What is promised of the turns that were taken, and of what the searches and the cache have come
to with them. -/
structure Replays (turns : List (SearchTurn σ)) (runs : List (SearchRun σ))
    (shared : SharedState σ) : Prop where
  /-- A search that is over has returned its result with one of its turns. -/
  returned : ∀ search run result, runs[search]? = some run → run.stage = .finished result →
    ∃ turn ∈ turns, turn.search = search ∧ turn.run.criteria = run.criteria ∧
      service.Returns turn result
  /-- A hit repeats the last outcome that was stored under its key, which is live, in all but the
  time it takes and the mark of a hit. It is the first turn of its search and changes nothing that
  is shared, so no provider is called. -/
  hit : ∀ later turn earlier outcome, turns = later ++ turn :: earlier →
    service.Returns turn (.ok outcome) → outcome.metadata.cacheHit = true →
    turn.run.stage = .entering ∧ (∀ other ∈ earlier, other.search ≠ turn.search) ∧
    service.sharedAfter turn = turn.shared ∧
    ∃ origin stored, service.LastStored earlier turn.key origin stored ∧
      service.LiveAt origin turn.shared.cacheNow ∧
      outcome =
        { stored with
          metadata :=
            { stored.metadata with
              cacheHit := true
              searchTimeMillis := outcome.metadata.searchTimeMillis } }
  /-- A search that is not stopped and for whose key a live outcome is stored is a hit. -/
  found : ∀ later turn earlier origin stored, turns = later ++ turn :: earlier →
    turn.run.stage = .entering → turn.run.stop.given turn.now = false →
    service.LastStored earlier turn.key origin stored →
    service.LiveAt origin turn.shared.cacheNow →
    ∃ outcome, service.Returns turn (.ok outcome) ∧ outcome.metadata.cacheHit = true
  /-- No hit is held in the cache. -/
  held : ∀ key entry, shared.cache.lookup? key = some entry →
    entry.value.metadata.cacheHit = false

variable {service} {turns : List (SearchTurn σ)} {runs : List (SearchRun σ)}
  {shared : SharedState σ} {turn origin : SearchTurn σ} {key : String}
  {outcome stored : SearchOutcome}

section Turns

/-- What a turn may come to: a hit, an outcome that is stored, or no outcome. In the last two cases
an expired entry under its own key may be gone from the cache. -/
inductive TurnEffect (service : SearchService σ) (turn : SearchTurn σ) :
    Stage σ → SharedState σ → Prop
  | hits (found : SearchOutcome) (entering : turn.run.stage = .entering)
      (peek : turn.shared.cache.peek? turn.key turn.shared.cacheNow = some found) :
      TurnEffect service turn (.finished (.ok (found.replayed (elapsedMillis turn.run turn.now))))
        turn.shared
  | stores {outcome : SearchOutcome} {looked : Cache SearchOutcome} {after : SharedState σ}
      (unfinished : ∀ result, turn.run.stage ≠ .finished result)
      (asked : outcome.metadata.cacheHit = false)
      (spared : turn.shared.cache.Spared turn.key turn.shared.cacheNow looked)
      (cache : after.cache =
        looked.set turn.key outcome turn.shared.cacheNow service.config.cacheTtl)
      (clock : after.cacheNow = turn.shared.cacheNow) :
      TurnEffect service turn (.finished (.ok outcome)) after
  | passes {stage : Stage σ} {after : SharedState σ}
      (silent : (∃ result, turn.run.stage = .finished result ∧ stage = .finished result) ∨
        ∀ outcome, stage ≠ .finished (.ok outcome))
      (entered : stage ≠ .entering)
      (spared : turn.shared.cache.Spared turn.key turn.shared.cacheNow after.cache)
      (clock : after.cacheNow = turn.shared.cacheNow) : TurnEffect service turn stage after

theorem effect_afterOutbound (outbound : LegResult)
    (unfinished : ∀ result, turn.run.stage ≠ .finished result)
    (spared : turn.shared.cache.Spared turn.key turn.shared.cacheNow shared.cache)
    (clock : shared.cacheNow = turn.shared.cacheNow) :
    service.TurnEffect turn (service.afterOutbound turn.now turn.run outbound shared).1
      (service.afterOutbound turn.now turn.run outbound shared).2 := by
  unfold afterOutbound
  split
  · exact .stores unfinished rfl spared (by rw [complete, clock]; rfl) clock
  · dsimp only
    split
    · exact .stores unfinished rfl spared (by rw [complete, clock]; rfl) clock
    · exact .passes (.inr (by simp)) (by simp) spared clock

theorem effect_ask (entering : turn.run.stage = .entering)
    (spared : turn.shared.cache.Spared turn.key turn.shared.cacheNow shared.cache)
    (clock : shared.cacheNow = turn.shared.cacheNow) :
    service.TurnEffect turn (service.ask turn.now turn.run shared).1
      (service.ask turn.now turn.run shared).2 := by
  unfold ask
  dsimp only
  split
  · exact effect_afterOutbound _ (by simp [entering]) spared clock
  · split
    · exact .passes (.inr (by simp)) (by simp) spared clock
    · exact .passes (.inr (by simp)) (by simp) spared clock

theorem effect_awaitCalls {calls : List (Task σ Answer)}
    {waiting : List (Task σ Answer) → Stage σ}
    {ended : List ProviderOutcome → SharedState σ → Stage σ × SharedState σ}
    (hwaiting : ∀ calls,
      (∀ outcome, waiting calls ≠ .finished (.ok outcome)) ∧ waiting calls ≠ .entering)
    (hended : ∀ outcomes states,
      service.TurnEffect turn (ended outcomes { turn.shared with states }).1
        (ended outcomes { turn.shared with states }).2) :
    service.TurnEffect turn
      (service.awaitCalls turn.now turn.run calls turn.shared waiting ended).1
      (service.awaitCalls turn.now turn.run calls turn.shared waiting ended).2.1 := by
  unfold awaitCalls
  split
  · exact .passes (.inr (by simp)) (by simp) .same rfl
  · dsimp only
    split
    · exact hended _ _
    · exact .passes (.inr (hwaiting _).1) (hwaiting _).2 .same rfl

variable (service turn) in
theorem effect_turn :
    service.TurnEffect turn (service.stageAfter turn) (service.sharedAfter turn) := by
  unfold stageAfter sharedAfter SearchService.turn
  cases hstage : turn.run.stage with
  | finished result => exact .passes (.inl ⟨result, hstage, rfl⟩) (by simp) .same rfl
  | entering =>
    dsimp only
    split
    · exact .passes (.inr (by simp)) (by simp) .same rfl
    · cases hfound : turn.shared.cache.peek? turn.run.criteria.cacheKey turn.shared.cacheNow with
      | some found =>
        have heffect : service.TurnEffect turn _ _ := .hits found hstage hfound
        simpa [enter, Cache.get, hfound] using heffect
      | none =>
        simp only [enter, Cache.get, hfound]
        exact effect_ask hstage (turn.shared.cache.spared_evict _ _) rfl
  | outbound calls =>
    refine effect_awaitCalls (by simp) fun outcomes states ↦ ?_
    exact effect_afterOutbound _ (by simp [hstage]) .same rfl
  | inbound outbound request calls =>
    refine effect_awaitCalls (by simp) fun outcomes states ↦ ?_
    exact .stores (by simp [hstage]) rfl .same rfl rfl

/-- A turn stores an outcome under its own key or it stores none, and it brings no other entry into
the cache. -/
theorem stores_cases (service : SearchService σ) (turn : SearchTurn σ) :
    (∃ outcome looked, service.Stores turn outcome ∧
      turn.shared.cache.Spared turn.key turn.shared.cacheNow looked ∧
      (service.sharedAfter turn).cache =
        looked.set turn.key outcome turn.shared.cacheNow service.config.cacheTtl) ∨
    (∀ outcome, ¬service.Stores turn outcome) ∧
      turn.shared.cache.Spared turn.key turn.shared.cacheNow (service.sharedAfter turn).cache := by
  have heffect := service.effect_turn turn
  generalize hstage : service.stageAfter turn = stage at heffect
  generalize hafter : service.sharedAfter turn = after at heffect
  cases heffect with
  | hits found entering peek =>
    refine .inr ⟨?_, .same⟩
    intro outcome hstores
    obtain rfl : found.replayed _ = outcome := by simpa [hstage] using hstores.returns.2
    exact absurd hstores.asked (by simp [SearchOutcome.replayed])
  | @stores outcome looked _ unfinished asked spared cache clock =>
    refine .inl ⟨outcome, looked, ⟨⟨unfinished, hstage⟩, asked, ?_⟩, spared, cache⟩
    refine ⟨_, isExpiry_expiryOf _ _, ?_⟩
    rw [hafter, cache, Cache.lookup_set, if_pos rfl]
  | passes silent entered spared clock =>
    refine .inr ⟨?_, spared⟩
    intro outcome hstores
    obtain ⟨hunfinished, hreturned⟩ := hstores.returns
    rcases silent with ⟨result, hfinished, -⟩ | hsilent
    · exact hunfinished result hfinished
    · exact hsilent outcome (hstage.symm.trans hreturned)

theorem cacheNow_sharedAfter (service : SearchService σ) (turn : SearchTurn σ) :
    (service.sharedAfter turn).cacheNow = turn.shared.cacheNow := by
  have heffect := service.effect_turn turn
  generalize service.stageAfter turn = stage at heffect
  generalize service.sharedAfter turn = after at heffect
  cases heffect with
  | hits _ _ _ => rfl
  | stores _ _ _ _ clock => exact clock
  | passes _ _ _ clock => exact clock

theorem stageAfter_ne_entering (service : SearchService σ) (turn : SearchTurn σ) :
    service.stageAfter turn ≠ .entering := by
  have heffect := service.effect_turn turn
  generalize service.stageAfter turn = stage at heffect
  generalize service.sharedAfter turn = after at heffect
  cases heffect with
  | hits _ _ _ => simp
  | stores _ _ _ _ _ => simp
  | passes _ entered _ _ => exact entered

/-- A search that returns a hit enters with this turn, and finds it in the cache. -/
theorem peek_of_hit (hreturns : service.Returns turn (.ok outcome))
    (hhit : outcome.metadata.cacheHit = true) :
    turn.run.stage = .entering ∧ service.sharedAfter turn = turn.shared ∧
      ∃ found, turn.shared.cache.peek? turn.key turn.shared.cacheNow = some found ∧
        outcome = found.replayed (elapsedMillis turn.run turn.now) := by
  obtain ⟨hunfinished, hstage⟩ := hreturns
  have heffect := service.effect_turn turn
  rw [hstage] at heffect
  generalize hafter : service.sharedAfter turn = after at heffect
  cases heffect with
  | hits found entering peek => exact ⟨entering, rfl, found, peek, rfl⟩
  | stores _ asked _ _ _ => simp [asked] at hhit
  | passes silent _ _ _ =>
    rcases silent with ⟨result, hfinished, -⟩ | hsilent
    · exact absurd hfinished (hunfinished result)
    · exact absurd rfl (hsilent outcome)

/-- A search that finds an outcome as it enters returns it. -/
theorem returns_of_peek {found : SearchOutcome} (hentering : turn.run.stage = .entering)
    (hopen : turn.run.stop.given turn.now = false)
    (hpeek : turn.shared.cache.peek? turn.key turn.shared.cacheNow = some found) :
    service.Returns turn (.ok (found.replayed (elapsedMillis turn.run turn.now))) := by
  refine ⟨by simp [hentering], ?_⟩
  rw [SearchTurn.key] at hpeek
  simp [stageAfter, SearchService.turn, hentering, hopen, enter, Cache.get, hpeek]

end Turns

section Records

theorem lastStored_cons :
    service.LastStored (turn :: turns) key origin stored ↔
      origin = turn ∧ turn.key = key ∧ service.Stores turn stored ∨
        service.LastStored turns key origin stored ∧
          (turn.key = key → ∀ other, ¬service.Stores turn other) := by
  constructor
  · rintro ⟨later, earlier, hturns, hkey, hstores, hlater⟩
    cases later with
    | nil =>
      obtain ⟨rfl, rfl⟩ := List.cons.inj hturns
      exact .inl ⟨rfl, hkey, hstores⟩
    | cons last later =>
      obtain ⟨rfl, rfl⟩ := List.cons.inj hturns
      obtain ⟨hlast, hlater⟩ := List.forall_mem_cons.mp hlater
      exact .inr ⟨⟨later, earlier, rfl, hkey, hstores, hlater⟩, hlast⟩
  · rintro (⟨rfl, hkey, hstores⟩ | ⟨⟨later, earlier, rfl, hkey, hstores, hlater⟩, hlast⟩)
    · exact ⟨[], turns, rfl, hkey, hstores, by simp⟩
    · exact ⟨turn :: later, earlier, rfl, hkey, hstores, List.forall_mem_cons.mpr ⟨hlast, hlater⟩⟩

/-- What the cache holds and how far the searches have come is told by the turns. -/
structure Recorded (service : SearchService σ) (turns : List (SearchTurn σ))
    (runs : List (SearchRun σ)) (shared : SharedState σ) : Prop where
  kept : ∀ key stored expiry, shared.cache.lookup? key = some ⟨stored, expiry⟩ →
    ∃ origin, service.LastStored turns key origin stored ∧
      IsExpiry origin.shared.cacheNow service.config.cacheTtl expiry
  live : ∀ key origin stored, service.LastStored turns key origin stored →
    service.LiveAt origin shared.cacheNow →
    ∃ expiry, IsExpiry origin.shared.cacheNow service.config.cacheTtl expiry ∧
      shared.cache.lookup? key = some ⟨stored, expiry⟩
  /-- A search that has not entered has taken no turn. -/
  fresh : ∀ search run, runs[search]? = some run → run.stage = .entering →
    ∀ turn ∈ turns, turn.search ≠ search
  begun : ∀ turn ∈ turns, turn.search < runs.length
  returned : ∀ search run result, runs[search]? = some run → run.stage = .finished result →
    ∃ turn ∈ turns, turn.search = search ∧ turn.run.criteria = run.criteria ∧
      service.Returns turn result

variable (service) in
theorem recorded_opens (states : List σ) (cacheNow : Instant) :
    service.Recorded [] [] { states, cacheNow } where
  kept key stored expiry hentry := by simp [Cache.lookup?] at hentry
  live key origin stored hstored := by simp [LastStored] at hstored
  fresh search run hrun := by simp at hrun
  begun turn hturn := by simp at hturn
  returned search run result hrun := by simp at hrun

theorem recorded_begins (h : service.Recorded turns runs shared) (criteria : SearchCriteria)
    (stop : StopSignal) (start : Instant) :
    service.Recorded turns (runs ++ [({ criteria, stop, start } : SearchRun σ)]) shared where
  kept := h.kept
  live := h.live
  fresh search run hrun hentering turn hturn := by
    rw [List.getElem?_append] at hrun
    split at hrun
    next => exact h.fresh search run hrun hentering turn hturn
    next hnew =>
      have hlength : runs.length ≤ search := Nat.le_of_not_lt hnew
      exact Nat.ne_of_lt (Nat.lt_of_lt_of_le (h.begun turn hturn) hlength)
  begun turn hturn := by
    rw [List.length_append]
    exact Nat.lt_add_right _ (h.begun turn hturn)
  returned search run result hrun hfinished := by
    rw [List.getElem?_append] at hrun
    split at hrun
    next => exact h.returned search run result hrun hfinished
    next =>
      obtain rfl := List.mem_singleton.mp (List.mem_of_getElem? hrun)
      cases hfinished

theorem recorded_elapses (h : service.Recorded turns runs shared) {cacheNow : Instant}
    (clock : shared.cacheNow ≤ cacheNow) (states : List σ)
    (withdrawn : List (List (Task σ Answer))) :
    service.Recorded turns runs { shared with states, cacheNow, withdrawn } where
  kept := h.kept
  live key origin stored hstored hlive := h.live key origin stored hstored (hlive.of_le clock)
  fresh := h.fresh
  begun := h.begun
  returned := h.returned

theorem Recorded.kept_turns (h : service.Recorded turns runs turn.shared) {expiry : Option Instant}
    (hentry : (service.sharedAfter turn).cache.lookup? key = some ⟨stored, expiry⟩) :
    ∃ origin, service.LastStored (turn :: turns) key origin stored ∧
      IsExpiry origin.shared.cacheNow service.config.cacheTtl expiry := by
  simp only [lastStored_cons]
  rcases service.stores_cases turn with
    ⟨outcome, looked, hstores, hspared, hcache⟩ | ⟨hnone, hspared⟩
  · rw [hcache, Cache.lookup_set] at hentry
    split at hentry
    next hkey =>
      obtain ⟨rfl, rfl⟩ : outcome = stored ∧ _ = expiry := by simpa using hentry
      exact ⟨turn, .inl ⟨rfl, hkey, hstores⟩, isExpiry_expiryOf _ _⟩
    next hkey =>
      obtain ⟨origin, hstored, hexpiry⟩ := h.kept key stored expiry (hspared.lookup_eq_some hentry)
      exact ⟨origin, .inr ⟨hstored, fun hsame ↦ absurd hsame hkey⟩, hexpiry⟩
  · obtain ⟨origin, hstored, hexpiry⟩ := h.kept key stored expiry (hspared.lookup_eq_some hentry)
    exact ⟨origin, .inr ⟨hstored, fun _ ↦ hnone⟩, hexpiry⟩

theorem Recorded.live_turns (h : service.Recorded turns runs turn.shared)
    (hstored : service.LastStored (turn :: turns) key origin stored)
    (hlive : service.LiveAt origin turn.shared.cacheNow) :
    ∃ expiry, IsExpiry origin.shared.cacheNow service.config.cacheTtl expiry ∧
      (service.sharedAfter turn).cache.lookup? key = some ⟨stored, expiry⟩ := by
  rcases lastStored_cons.mp hstored with ⟨rfl, rfl, hstores⟩ | ⟨hearlier, hlast⟩
  · exact hstores.stored
  · obtain ⟨expiry, hexpiry, hentry⟩ := h.live key origin stored hearlier hlive
    have hunexpired : Cache.isLive ⟨stored, expiry⟩ turn.shared.cacheNow = true :=
      hexpiry.isLive_iff.mpr hlive
    refine ⟨expiry, hexpiry, ?_⟩
    rcases service.stores_cases turn with ⟨outcome, looked, hstores, hspared, hcache⟩ | ⟨-, hspared⟩
    · have hother : turn.key ≠ key := fun hsame ↦ hlast hsame outcome hstores
      rw [hcache, Cache.lookup_set, if_neg hother]
      exact hspared.lookup_of_live hentry hunexpired
    · exact hspared.lookup_of_live hentry hunexpired

theorem Recorded.returned_turns {result : Except SearchError SearchOutcome}
    (h : service.Recorded turns runs turn.shared) (taken : runs[turn.search]? = some turn.run)
    (hfinished : service.stageAfter turn = .finished result) :
    ∃ last ∈ turn :: turns, last.search = turn.search ∧ last.run.criteria = turn.run.criteria ∧
      service.Returns last result := by
  by_cases hover : ∃ before, turn.run.stage = .finished before
  · obtain ⟨before, hbefore⟩ := hover
    obtain rfl : before = result := by
      simpa [stageAfter, SearchService.turn, hbefore] using hfinished
    obtain ⟨last, hlast, hreturned⟩ := h.returned turn.search turn.run before taken hbefore
    exact ⟨last, List.mem_cons_of_mem _ hlast, hreturned⟩
  · exact ⟨turn, List.mem_cons_self, rfl, rfl, not_exists.mp hover, hfinished⟩

theorem recorded_turns (h : service.Recorded turns runs turn.shared)
    (taken : runs[turn.search]? = some turn.run) :
    service.Recorded (turn :: turns)
      (runs.set turn.search { turn.run with stage := service.stageAfter turn })
      (service.sharedAfter turn) where
  kept key stored expiry hentry := h.kept_turns hentry
  live key origin stored hstored hlive := by
    rw [cacheNow_sharedAfter] at hlive
    exact h.live_turns hstored hlive
  fresh search run hrun hentering := by
    rw [List.getElem?_set] at hrun
    split at hrun
    next =>
      obtain ⟨-, rfl⟩ : _ ∧ _ = run := by simpa using hrun
      exact absurd hentering (service.stageAfter_ne_entering turn)
    next hother => exact List.forall_mem_cons.mpr ⟨hother, h.fresh search run hrun hentering⟩
  begun := by
    rw [List.length_set]
    exact List.forall_mem_cons.mpr ⟨(List.getElem?_eq_some_iff.mp taken).1, h.begun⟩
  returned search run result hrun hfinished := by
    rw [List.getElem?_set] at hrun
    split at hrun
    next hsame =>
      obtain ⟨-, rfl⟩ : _ ∧ _ = run := by simpa using hrun
      rw [← hsame]
      exact h.returned_turns taken hfinished
    next =>
      obtain ⟨last, hlast, hreturned⟩ := h.returned search run result hrun hfinished
      exact ⟨last, List.mem_cons_of_mem _ hlast, hreturned⟩

theorem History.recorded (history : service.History turns runs shared) :
    service.Recorded turns runs shared := by
  induction history with
  | opens states cacheNow => exact service.recorded_opens states cacheNow
  | begins history criteria stop start ih => exact recorded_begins ih criteria stop start
  | @turns _ _ shared search run history taken now ih =>
    have hturned : service.Recorded (⟨search, now, run, shared⟩ :: _) _ _ := recorded_turns ih taken
    exact hturned
  | elapses history clock states withdrawn ih => exact recorded_elapses ih clock states withdrawn

/-- The history up to a turn. -/
theorem History.until {later earlier : List (SearchTurn σ)}
    (history : service.History turns runs shared) (hturns : turns = later ++ turn :: earlier) :
    ∃ runs, service.History earlier runs turn.shared ∧ runs[turn.search]? = some turn.run := by
  induction history generalizing later with
  | opens states cacheNow => simp at hturns
  | begins history criteria stop start ih => exact ih hturns
  | elapses history clock states withdrawn ih => exact ih hturns
  | @turns past runs shared search run history taken now ih =>
    cases later with
    | nil =>
      obtain ⟨rfl, rfl⟩ := List.cons.inj hturns
      exact ⟨runs, history, taken⟩
    | cons last later => exact ih (List.cons.inj hturns).2

/-- A look-up finds a live outcome exactly if it was stored last under the key and is live. -/
theorem Recorded.peek_eq_some_iff (h : service.Recorded turns runs shared) :
    shared.cache.peek? key shared.cacheNow = some stored ↔
      ∃ origin, service.LastStored turns key origin stored ∧
        service.LiveAt origin shared.cacheNow := by
  unfold Cache.peek?
  constructor
  · intro hpeek
    cases hentry : shared.cache.lookup? key with
    | none => simp [hentry] at hpeek
    | some entry =>
      obtain ⟨value, expiry⟩ := entry
      obtain ⟨hlive, rfl⟩ :
          Cache.isLive ⟨value, expiry⟩ shared.cacheNow = true ∧ value = stored := by
        simpa [hentry] using hpeek
      obtain ⟨origin, hstored, hexpiry⟩ := h.kept key value expiry hentry
      exact ⟨origin, hstored, hexpiry.isLive_iff.mp hlive⟩
  · rintro ⟨origin, hstored, hlive⟩
    obtain ⟨expiry, hexpiry, hentry⟩ := h.live key origin stored hstored hlive
    have hunexpired : Cache.isLive ⟨stored, expiry⟩ shared.cacheNow = true :=
      hexpiry.isLive_iff.mpr hlive
    rw [hentry]
    exact if_pos hunexpired

theorem History.replays (history : service.History turns runs shared) :
    service.Replays turns runs shared where
  returned := history.recorded.returned
  hit later turn earlier outcome hturns hreturns hhit := by
    obtain ⟨before, hbefore, taken⟩ := history.until hturns
    obtain ⟨hentering, hsame, stored, hpeek, rfl⟩ := peek_of_hit hreturns hhit
    obtain ⟨origin, hstored, hlive⟩ := hbefore.recorded.peek_eq_some_iff.mp hpeek
    exact ⟨hentering, hbefore.recorded.fresh _ _ taken hentering, hsame, origin, stored, hstored,
      hlive, rfl⟩
  found later turn earlier origin stored hturns hentering hopen hstored hlive := by
    obtain ⟨before, hbefore, -⟩ := history.until hturns
    have hpeek := hbefore.recorded.peek_eq_some_iff.mpr ⟨origin, hstored, hlive⟩
    exact ⟨_, returns_of_peek hentering hopen hpeek, rfl⟩
  held key entry hentry := by
    obtain ⟨origin, ⟨_, _, _, _, hstores, _⟩, -⟩ := history.recorded.kept key _ _ hentry
    exact hstores.asked

end Records

section Together

/-- One turn of every search, in order, is a history of its own. -/
theorem History.turnAll (before : List (SearchRun σ)) (now : Instant)
    (history : service.History turns (before ++ runs) shared) :
    ∃ later, service.History (later ++ turns)
      (before ++ (service.turnAll now runs shared).1) (service.turnAll now runs shared).2.1 := by
  induction runs generalizing before turns shared with
  | nil => exact ⟨[], history⟩
  | cons run rest ih =>
    have taken : (before ++ run :: rest)[before.length]? = some run := by simp
    have hturned := history.turns taken now
    rw [List.set_append_right _ _ (Nat.le_refl _), Nat.sub_self, List.set_cons_zero,
      List.append_cons] at hturned
    obtain ⟨later, hlater⟩ := ih _ hturned
    refine ⟨later ++ [⟨before.length, now, run, shared⟩], ?_⟩
    rw [List.append_assoc] at hlater
    rw [List.append_assoc, SearchService.turnAll]
    exact hlater

theorem History.runAll (fuel : ℕ) (before : List (SearchRun σ)) (now : Instant)
    (history : service.History turns (before ++ runs) shared) :
    ∃ later, service.History (later ++ turns)
      (before ++ (service.runAll fuel now runs shared).2.1)
      (service.runAll fuel now runs shared).2.2 := by
  induction fuel generalizing turns runs shared now with
  | zero => exact ⟨[], history⟩
  | succ fuel ih =>
    obtain ⟨first, hfirst⟩ := history.turnAll before now
    have hrest (now : Instant) := ih now hfirst
    simp only [← List.append_assoc] at hrest
    rw [SearchService.runAll]
    dsimp only
    split
    · obtain ⟨later, hlater⟩ := hrest now
      exact ⟨later ++ first, hlater⟩
    · split
      · exact ⟨first, hfirst⟩
      · obtain ⟨later, hlater⟩ := hrest _
        exact ⟨later ++ first, hlater⟩

theorem History.begin_all (history : service.History turns runs shared) (start : Instant)
    (searches : List (SearchCriteria × StopSignal)) :
    service.History turns
      (runs ++ searches.map fun (criteria, stop) ↦ ({ criteria, stop, start } : SearchRun σ))
      shared := by
  induction searches generalizing runs with
  | nil => simpa using history
  | cons search rest ih =>
    obtain ⟨criteria, stop⟩ := search
    have hbegun := ih (history.begins criteria stop start)
    simpa using hbegun

/-- Searches that are run together go on with the history they find. -/
theorem History.searchTogether (history : service.History turns runs shared) (start : Instant)
    (searches : List (SearchCriteria × StopSignal)) :
    ∃ later ended, List.Forall₂ (service.Follows start) searches ended ∧
      service.History (later ++ turns) (runs ++ ended)
        (service.searchTogether start searches shared).2.2 ∧
      (service.searchTogether start searches shared).2.1 = ended.map service.result := by
  unfold SearchService.searchTogether
  dsimp only
  obtain ⟨later, hlater⟩ := (history.begin_all start searches).runAll _ runs start
  exact ⟨later, _, follows_runAll _ (service.follows_entering start searches), hlater, rfl⟩

end Together

variable (service) in
/-- Hits replay what was stored, in every history, and searches that are run together go on with the
history they find. -/
theorem history_replays :
    (∀ turns runs shared, service.History turns runs shared →
      service.Replays turns runs shared) ∧
    ∀ turns runs shared start searches, service.History turns runs shared →
      ∃ later ended, List.Forall₂ (service.Follows start) searches ended ∧
        service.History (later ++ turns) (runs ++ ended)
          (service.searchTogether start searches shared).2.2 ∧
        (service.searchTogether start searches shared).2.1 = ended.map service.result := by
  constructor
  · intro turns runs shared history
    exact history.replays
  · intro turns runs shared start searches history
    exact history.searchTogether start searches

theorem history_replays_prompt :
    ∃ turn earlier runs shared outcome origin stored,
      promptService.History (turn :: earlier) runs shared ∧
      promptService.Returns turn (.ok outcome) ∧ outcome.metadata.cacheHit = true ∧
      promptService.LastStored earlier turn.key origin stored ∧ origin.search ≠ turn.search ∧
      outcome.returnFlights = stored.returnFlights := by
  have opened : promptService.History [] [] _ := .opens [(), ()] 0
  have begun := opened.begins tripCriteria none 0
  have first := begun.turns (show _[0]? = some _ from rfl) 0
  have second := first.turns (show _[0]? = some _ from rfl) 0
  have third := second.turns (show _[0]? = some _ from rfl) 0
  have elapsed := third.elapses (show 0 ≤ 5 from Nat.zero_le 5) [(), ()] []
  have history := (elapsed.begins tripCriteria none 5).turns (show _[1]? = some _ from rfl) 5
  obtain ⟨hreplays, -⟩ := history_replays promptService
  have hhit := (hreplays _ _ _ history).hit [] _ _ _ rfl ⟨by simp, rfl⟩ rfl
  obtain ⟨-, hfirst, -, origin, stored, hstored, -, houtcome⟩ := hhit
  refine ⟨_, _, _, _, _, origin, stored, history, ⟨by simp, rfl⟩, rfl, hstored, ?_, ?_⟩
  · obtain ⟨later, rest, hturns, -⟩ := hstored
    exact hfirst origin (by rw [hturns]; simp)
  · rw [houtcome]

end SearchService

end FareSearch
