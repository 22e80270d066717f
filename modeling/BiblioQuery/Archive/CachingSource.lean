import BiblioQuery.Archive.Cache
import BiblioQuery.Archive.Failure

/-!
# Caching sources

A caching source stands before another source and keeps the snapshots that it answered with.  A
fresh snapshot that had been taken by the instant asked for is served from the cache; else the other
source is asked.  If that fails for now only, a cached snapshot may be served although it is not
fresh.

What the other source would answer is given to each operation, which uses it only if it has to ask.

## Main definitions

* `CachingSource` : a cache with the rule about stale snapshots.
* `CachingSource.asks` : the other source has to be asked.
* `CachingSource.fetch`, `CachingSource.refresh`, `CachingSource.warm` : the operations.

## Main results

* `CachingSource.fetch_eq_of_not_asks` : an answer that is not asked for does not matter.
-/

namespace BiblioQuery

/-- How a caching source is set up. -/
structure CacheConfig where
  /-- The greatest number of entries. -/
  maxEntries : Nat
  /-- How long an entry is fresh. -/
  ttl : Duration
  /-- A snapshot that is not fresh is better than none. -/
  serveStale : Bool
  deriving DecidableEq

/-- A thousand and twenty-four entries, fresh for five minutes and never served afterwards. -/
def CacheConfig.standard : CacheConfig := ⟨1024, .ofSeconds 300, false⟩

/-- A cache before another source. -/
structure CachingSource where
  /-- The cache. -/
  cache : Cache
  /-- A snapshot that is not fresh is served if the other source fails for now. -/
  serveStale : Bool
  deriving DecidableEq

namespace CachingSource

/-- The caching source of a configuration, with nothing cached. -/
def ofConfig (g : CacheConfig) : CachingSource := ⟨.empty g.maxEntries g.ttl, g.serveStale⟩

/-- The cached snapshot of a key that had been taken by an instant, and whether it is fresh. -/
def usable? (c : CachingSource) (now : Duration) (key : Key) (asOf : Instant) :
    Option (Snapshot × Bool) :=
  (c.cache.lookup? now key).1.filter fun p => p.1.capturedAt.atMost asOf

/-- The other source has to be asked. -/
def asks (c : CachingSource) (now : Duration) (key : Key) (asOf : Instant) : Bool :=
  match c.usable? now key asOf with
  | some (_, true) => false
  | _ => true

/-- The caching source with other counters. -/
def count (c : CachingSource) (f : CacheStats → CacheStats) : CachingSource :=
  { c with cache := c.cache.count f }

/-- The answer and the caching source after the other source was asked, where `found` is a cached
snapshot that is not fresh. -/
def settle (c : CachingSource) (now : Duration) (found : Option Snapshot) :
    Fetch → Fetch × CachingSource
  | .ok s => (.ok s, { c with cache := (c.cache.insertIfNewer? now s).getD c.cache })
  | .error e =>
    let failed := c.count fun n => { n with loaderFailures := n.loaderFailures + 1 }
    match found with
    | some stale =>
      if c.serveStale && e.isTransient then
        (.ok stale, failed.count fun n => { n with staleServed := n.staleServed + 1 })
      else (.error e, failed)
    | none => (.error e, failed)

/-- The answer for a key at an instant, and the caching source afterwards. -/
def fetch (c : CachingSource) (now : Duration) (key : Key) (asOf : Instant) (answer : Fetch) :
    Fetch × CachingSource :=
  let used : CachingSource := { c with cache := (c.cache.lookup? now key).2 }
  match c.usable? now key asOf with
  | some (s, true) => (.ok s, used.count fun n => { n with hits := n.hits + 1 })
  | some (s, false) =>
    (used.count fun n => { n with expired := n.expired + 1 }).settle now (some s) answer
  | none => (used.count fun n => { n with misses := n.misses + 1 }).settle now none answer

/-- An answer that is not asked for does not matter. -/
theorem fetch_eq_of_not_asks {c : CachingSource} {now : Duration} {key : Key} {asOf : Instant}
    (h : c.asks now key asOf = false) (a b : Fetch) :
    c.fetch now key asOf a = c.fetch now key asOf b := by
  unfold asks at h
  unfold fetch
  split at h
  · rename_i hu
    rw [hu]
  · cases h

/-- The caching source after a key was asked for again, whatever was cached. -/
def refresh (c : CachingSource) (now : Duration) (key : Key) :
    Fetch → Except ArchiveError Snapshot × CachingSource
  | .ok s =>
    let stored : CachingSource := { c with cache := (c.cache.insert now s).2 }
    (.ok s, stored.count fun n => { n with refreshes := n.refreshes + 1 })
  | .error e =>
    (.error (.source key e),
      c.count fun n => { n with loaderFailures := n.loaderFailures + 1 })

/-- How many of the keys could be refreshed, and the caching source afterwards. -/
def warm (c : CachingSource) (now : Duration) (answer : Key → Fetch) :
    List Key → Nat × CachingSource
  | [] => (0, c)
  | key :: r =>
    let (result, c') := c.refresh now key (answer key)
    let (n, c'') := c'.warm now answer r
    match result with
    | .ok _ => (n + 1, c'')
    | .error _ => (n, c'')

/-- The caching source without the snapshot of a key, and whether there was one. -/
def invalidate (c : CachingSource) (key : Key) : Bool × CachingSource :=
  (c.cache.contains key, { c with cache := c.cache.erase key })

/-- The caching source without snapshots. -/
def invalidateAll (c : CachingSource) : CachingSource := { c with cache := c.cache.clear }

end CachingSource

end BiblioQuery
