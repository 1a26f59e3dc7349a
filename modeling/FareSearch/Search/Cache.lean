import FareSearch.Timed.Task

/-!
# A cache with time to live

Values are kept under keys until their expiry. Looking up reads first and evicts afterwards: an
entry that was found expired is removed if it still is expired at the time that was read. Expired
entries that nobody looked up are still counted. An expiry that the clock cannot express never
comes.
-/

namespace FareSearch

structure CacheEntry (V : Type) where
  value : V
  expiry : Option Instant
  deriving DecidableEq

/-- Entries by key, in the order in which their keys were first stored. -/
structure Cache (V : Type) where
  entries : List (String × CacheEntry V) := []

namespace Cache

variable {V : Type}

instance : Inhabited (Cache V) :=
  ⟨{}⟩

/-- An entry is live before its expiry. -/
def isLive (entry : CacheEntry V) (now : Instant) : Bool :=
  entry.expiry.all (now < ·)

def lookup? (cache : Cache V) (key : String) : Option (CacheEntry V) :=
  (cache.entries.find? (·.1 == key)).map (·.2)

/-- The reading part of a look-up: the live value under a key. -/
def peek? (cache : Cache V) (key : String) (now : Instant) : Option V :=
  match cache.lookup? key with
  | some entry => if isLive entry now then some entry.value else none
  | none => none

def erase (cache : Cache V) (key : String) : Cache V :=
  ⟨cache.entries.filter (·.1 != key)⟩

/-- The evicting part of a look-up: removes the entry under a key if it is expired. -/
def evict (cache : Cache V) (key : String) (now : Instant) : Cache V :=
  match cache.lookup? key with
  | some entry => if isLive entry now then cache else cache.erase key
  | none => cache

/-- The live value under a key; an expired entry under it is removed. -/
def get (cache : Cache V) (key : String) (now : Instant) : Option V × Cache V :=
  match cache.peek? key now with
  | some value => (some value, cache)
  | none => (none, cache.evict key now)

/-- The end of a time to live, if the seconds of the clock reach that far. -/
def expiryOf (now : Instant) (ttl : Duration) : Option Instant :=
  if now + ttl < Number.twoPow 63 * 1000000000 then some (now + ttl) else none

/-- Puts an entry under a key in place of the one that is there. -/
def insertEntry (key : String) (entry : CacheEntry V) :
    List (String × CacheEntry V) → List (String × CacheEntry V)
  | [] => [(key, entry)]
  | (other, current) :: rest =>
    if other = key then (key, entry) :: rest
    else (other, current) :: insertEntry key entry rest

/-- Stores a value for a time to live. -/
def set (cache : Cache V) (key : String) (value : V) (now : Instant) (ttl : Duration) : Cache V :=
  ⟨insertEntry key ⟨value, expiryOf now ttl⟩ cache.entries⟩

/-- Removes the entry under a key, and tells whether there was one. -/
def remove (cache : Cache V) (key : String) : Bool × Cache V :=
  ((cache.lookup? key).isSome, cache.erase key)

def clear (_cache : Cache V) : Cache V :=
  {}

/-- The number of entries, expired ones included. -/
def size (cache : Cache V) : Nat :=
  cache.entries.length

def isEmpty (cache : Cache V) : Bool :=
  cache.size = 0

end Cache

end FareSearch
