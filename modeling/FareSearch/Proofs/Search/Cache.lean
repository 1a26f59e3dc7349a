import FareSearch.Search.Cache

/-!
# Entries of a cache

What every operation does to the entry under each key, and that a key never has two entries.
-/

namespace FareSearch.Cache

variable {V : Type} (cache : Cache V) (key other : String) (now : Instant)

theorem find_insertEntry (entry : CacheEntry V) (entries : List (String × CacheEntry V)) :
    ((insertEntry key entry entries).find? (·.1 == other)).map (·.2) =
      if key = other then some entry else (entries.find? (·.1 == other)).map (·.2) := by
  induction entries with
  | nil =>
    by_cases hkey : key = other
    · simp [insertEntry, hkey]
    · simp [insertEntry, hkey]
  | cons first rest ih =>
    obtain ⟨name, current⟩ := first
    rw [insertEntry]
    by_cases hname : name = key
    · by_cases hkey : key = other <;> simp [hname, hkey]
    · rw [if_neg hname]
      by_cases hother : name = other
      · have hkey : key ≠ other := by
          intro hkey
          exact hname (hother.trans hkey.symm)
        simp [hother, hkey]
      · simp only [List.find?_cons, beq_eq_false_iff_ne.mpr hother]
        exact ih

theorem lookup_set (value : V) (ttl : Duration) :
    (cache.set key value now ttl).lookup? other =
      if key = other then some ⟨value, expiryOf now ttl⟩ else cache.lookup? other :=
  find_insertEntry key other _ cache.entries

theorem lookup_erase :
    (cache.erase key).lookup? other = if key = other then none else cache.lookup? other := by
  unfold lookup? erase
  rw [List.find?_filter]
  by_cases hkey : key = other
  · subst hkey
    simp
  · rw [if_neg hkey]
    congr 2
    funext entry
    by_cases hentry : entry.1 = other
    · simp [hentry, Ne.symm hkey]
    · simp [hentry]

theorem lookup_evict :
    (cache.evict key now).lookup? other =
      if key = other then (cache.lookup? other).filter (isLive · now) else cache.lookup? other := by
  unfold evict
  cases hentry : cache.lookup? key with
  | none =>
    by_cases hkey : key = other
    · simp [← hkey, hentry]
    · rw [if_neg hkey]
  | some entry =>
    dsimp only
    by_cases hlive : isLive entry now = true
    · by_cases hkey : key = other
      · simp [← hkey, hentry, hlive, Option.filter]
      · rw [if_pos hlive, if_neg hkey]
    · rw [if_neg hlive, lookup_erase]
      by_cases hkey : key = other
      · simp [← hkey, hentry, hlive, Option.filter]
      · rw [if_neg hkey, if_neg hkey]

/-- Looking up leaves what evicting leaves. -/
theorem get_snd : (cache.get key now).2 = cache.evict key now := by
  unfold get evict peek?
  cases cache.lookup? key with
  | none => rfl
  | some entry => by_cases hlive : isLive entry now = true <;> simp [hlive]

theorem get_eq_some_iff {value : V} :
    (cache.get key now).1 = some value ↔
      ∃ expiry, cache.lookup? key = some ⟨value, expiry⟩ ∧ isLive ⟨value, expiry⟩ now = true := by
  unfold get peek?
  cases hentry : cache.lookup? key with
  | none => simp
  | some entry =>
    obtain ⟨stored, expiry⟩ := entry
    by_cases hlive : isLive ⟨stored, expiry⟩ now = true
    · simp only [hlive, if_true, Option.some.injEq, CacheEntry.mk.injEq]
      constructor
      · rintro rfl
        exact ⟨expiry, ⟨rfl, rfl⟩, hlive⟩
      · rintro ⟨_, ⟨rfl, -⟩, -⟩
        rfl
    · simp only [hlive, Bool.false_eq_true, if_false, Option.some.injEq, CacheEntry.mk.injEq,
        reduceCtorEq, false_iff, not_exists, not_and]
      rintro _ ⟨rfl, rfl⟩
      exact hlive

def keys : List String :=
  cache.entries.map (·.1)

theorem mem_keys_iff : key ∈ cache.keys ↔ (cache.lookup? key).isSome = true := by
  simp [keys, lookup?]

theorem keys_insertEntry (entry : CacheEntry V) (entries : List (String × CacheEntry V)) :
    (insertEntry key entry entries).map (·.1) =
      if key ∈ entries.map (·.1) then entries.map (·.1) else entries.map (·.1) ++ [key] := by
  induction entries with
  | nil => simp [insertEntry]
  | cons first rest ih =>
    obtain ⟨name, current⟩ := first
    rw [insertEntry]
    by_cases hname : name = key
    · simp [hname]
    · rw [if_neg hname, List.map_cons, ih]
      by_cases hmem : key ∈ rest.map (·.1)
      · simp only [hmem, if_true, List.map_cons, List.mem_cons, or_true]
      · simp only [hmem, if_false, List.map_cons, List.mem_cons, or_false, Ne.symm hname,
          List.cons_append]

theorem keys_set_nodup (h : cache.keys.Nodup) (value : V) (ttl : Duration) :
    (cache.set key value now ttl).keys.Nodup := by
  unfold keys set at *
  rw [keys_insertEntry]
  split
  next => exact h
  next hfresh =>
    rw [List.nodup_append]
    refine ⟨h, by simp, ?_⟩
    intro name hname other hother
    rw [List.mem_singleton] at hother
    intro hsame
    exact hfresh (hother ▸ hsame ▸ hname)

theorem keys_erase_nodup (h : cache.keys.Nodup) : (cache.erase key).keys.Nodup :=
  List.Sublist.nodup (List.filter_sublist.map _) h

theorem keys_evict_nodup (h : cache.keys.Nodup) : (cache.evict key now).keys.Nodup := by
  unfold evict
  split
  · split
    · exact h
    · exact cache.keys_erase_nodup key h
  · exact h

end FareSearch.Cache
