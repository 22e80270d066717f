import BiblioQuery.Calendar.Duration
import BiblioQuery.Provider.Snapshot

/-!
# Caches of snapshots

A cache holds at most one snapshot of a key and a limited number of snapshots in all.  When it is
full, a snapshot of a new key drives out the one that was used longest ago.  A snapshot is fresh for
some time after it was stored; what counts as time is the reading of a clock that each operation is
given.

## Main definitions

* `CacheStats` : counters of what happened.
* `Cache` : the caches, with the entries from the latest to the earliest used.
* `Cache.lookup?`, `Cache.get?` : reading, where `get?` counts and drops what is not fresh.
* `Cache.insert`, `Cache.insertIfNewer?`, `Cache.remove`, `Cache.cleanup` : changes.

## Main results

* `Cache.peek?_push` : an entry that is put in front is found under its key.
-/

namespace BiblioQuery

/-! ### Counters -/

/-- Counters of what happened in a cache. -/
structure CacheStats where
  /-- How often a fresh snapshot was found. -/
  hits : Nat
  /-- How often no usable snapshot was found. -/
  misses : Nat
  /-- How often a snapshot was found that was not fresh. -/
  expired : Nat
  /-- How often a snapshot was driven out. -/
  evictions : Nat
  /-- How often a snapshot was refreshed. -/
  refreshes : Nat
  /-- How often a snapshot was served that was not fresh. -/
  staleServed : Nat
  /-- How often the source behind the cache failed. -/
  loaderFailures : Nat
  /-- How many snapshots there are. -/
  entries : Nat
  deriving DecidableEq

namespace CacheStats

/-- All counters at zero. -/
def zero : CacheStats := ⟨0, 0, 0, 0, 0, 0, 0, 0⟩

/-- The number of all lookups, as a counter of 64 bits shows it. -/
def lookups (s : CacheStats) : Nat := (s.hits + s.misses + s.expired) % UInt64.size

/-- The rank of the percentage of hits among all lookups, each step rounded to the nearest binary
number; zero where there were no lookups. -/
def hitRateRank (s : CacheStats) : Nat :=
  if s.lookups = 0 then 0
  else
    let hits := Number.ratioRank s.hits 1
    let all := Number.ratioRank s.lookups 1
    Number.mulRank (Number.divRank hits all) (Number.ratioRank 100 1)

/-- The percentage of hits among all lookups with the given number of places. -/
def hitRateText (s : CacheStats) (places : Nat) : String :=
  String.ofList (Number.fixedPlaces places (Number.units s.hitRateRank) Number.unitsPerOne)

/-- The text of the counters, a line each. -/
def text (s : CacheStats) : String :=
  "Snapshot Cache Statistics:" ++
  "\n  Entries:         " ++ toString s.entries ++
  "\n  Hits:            " ++ toString s.hits ++
  "\n  Misses:          " ++ toString s.misses ++
  "\n  Expired:         " ++ toString s.expired ++
  "\n  Hit rate:        " ++ s.hitRateText 1 ++ "%" ++
  "\n  Evictions:       " ++ toString s.evictions ++
  "\n  Refreshes:       " ++ toString s.refreshes ++
  "\n  Stale served:    " ++ toString s.staleServed ++
  "\n  Loader failures: " ++ toString s.loaderFailures

end CacheStats

/-! ### Entries -/

/-- A snapshot with the time at which it was stored. -/
structure CacheEntry where
  /-- The snapshot. -/
  snapshot : Snapshot
  /-- The reading of the clock when it was stored. -/
  storedAt : Duration
  deriving DecidableEq

namespace CacheEntry

/-- What the entry is filed under. -/
def key (e : CacheEntry) : Key := e.snapshot.key

/-- The entry has been stored for less than the given time. -/
def isFresh (ttl now : Duration) (e : CacheEntry) : Bool :=
  decide (now.nanos - e.storedAt.nanos < ttl.nanos)

/-- Entries without those of a key. -/
def without (key : Key) (es : List CacheEntry) : List CacheEntry := es.filter fun e => e.key != key

theorem without_sublist (key : Key) (es : List CacheEntry) : (without key es).Sublist es :=
  List.filter_sublist

theorem key_notMem_without (key : Key) (es : List CacheEntry) :
    key ∉ (without key es).map CacheEntry.key := by
  simp [without]

theorem nodup_of_sublist {es fs : List CacheEntry} (h : es.Sublist fs)
    (hf : (fs.map CacheEntry.key).Nodup) : (es.map CacheEntry.key).Nodup :=
  hf.sublist (h.map _)

theorem nodup_cons_without {e : CacheEntry} {es : List CacheEntry}
    (h : (es.map CacheEntry.key).Nodup) :
    ((e :: without e.key es).map CacheEntry.key).Nodup :=
  List.nodup_cons.2 ⟨key_notMem_without e.key es, nodup_of_sublist (without_sublist e.key es) h⟩

end CacheEntry

/-! ### Caches -/

/-- A cache of snapshots. -/
structure Cache where
  /-- The greatest number of entries. -/
  capacity : Nat
  /-- How long an entry is fresh. -/
  ttl : Duration
  /-- The entries, the one that was used last in front. -/
  entries : List CacheEntry
  /-- The counters; the number of entries is not kept there. -/
  counters : CacheStats
  /-- There is room for an entry. -/
  capacity_pos : 0 < capacity
  /-- There are no more entries than there is room. -/
  length_le : entries.length ≤ capacity
  /-- No key has two entries. -/
  nodup : (entries.map CacheEntry.key).Nodup
  deriving DecidableEq

namespace Cache

open CacheEntry

/-- The cache without entries; there is room for one entry at least. -/
def empty (maxEntries : Nat) (ttl : Duration) : Cache where
  capacity := max 1 maxEntries
  ttl := ttl
  entries := []
  counters := .zero
  capacity_pos := by omega
  length_le := by simp
  nodup := by simp

/-- The cache with other counters. -/
def count (c : Cache) (f : CacheStats → CacheStats) : Cache :=
  { c with counters := f c.counters }

/-- The counters with the number of entries. -/
def stats (c : Cache) : CacheStats := { c.counters with entries := c.entries.length }

/-- The cache with all counters at zero. -/
def resetStats (c : Cache) : Cache := c.count fun _ => .zero

/-- The entry of a key; looking is not using. -/
def peek? (c : Cache) (key : Key) : Option CacheEntry := c.entries.find? fun e => e.key == key

/-- There is an entry of the key. -/
def contains (c : Cache) (key : Key) : Bool := (c.peek? key).isSome

/-- The cache without the entry of a key. -/
def erase (c : Cache) (key : Key) : Cache where
  capacity := c.capacity
  ttl := c.ttl
  entries := without key c.entries
  counters := c.counters
  capacity_pos := c.capacity_pos
  length_le := Nat.le_trans (without_sublist key c.entries).length_le c.length_le
  nodup := nodup_of_sublist (without_sublist key c.entries) c.nodup

/-- The cache with an entry in front; the last one is driven out where there is no room. -/
def push (c : Cache) (e : CacheEntry) : Cache where
  capacity := c.capacity
  ttl := c.ttl
  entries := (e :: without e.key c.entries).take c.capacity
  counters := c.counters
  capacity_pos := c.capacity_pos
  length_le := List.length_take_le _ _
  nodup := nodup_of_sublist (List.take_sublist _ _) (nodup_cons_without c.nodup)

/-- The cache after the entry of a key was used. -/
def touch (c : Cache) (key : Key) : Cache :=
  match c.peek? key with
  | none => c
  | some e => c.push e

/-! ### Reading -/

/-- The entry of a key, and whether it is fresh; this is a use. -/
def lookup? (c : Cache) (now : Duration) (key : Key) : Option (Snapshot × Bool) × Cache :=
  ((c.peek? key).map fun e => (e.snapshot, e.isFresh c.ttl now), c.touch key)

/-- The fresh snapshot of a key; an entry that is not fresh is dropped. -/
def get? (c : Cache) (now : Duration) (key : Key) : Option Snapshot × Cache :=
  match c.peek? key with
  | none => (none, c.count fun s => { s with misses := s.misses + 1 })
  | some e =>
    if e.isFresh c.ttl now then
      (some e.snapshot, (c.touch key).count fun s => { s with hits := s.hits + 1 })
    else (none, (c.erase key).count fun s => { s with expired := s.expired + 1 })

/-! ### Changes -/

/-- The cache with a snapshot stored; driving out another one is counted. -/
def store (c : Cache) (now : Duration) (s : Snapshot) : Cache :=
  let c' := c.push ⟨s, now⟩
  if (without s.key c.entries).length < c.capacity then c'
  else c'.count fun n => { n with evictions := n.evictions + 1 }

/-- The cache with a snapshot stored, and the snapshot that it replaces. -/
def insert (c : Cache) (now : Duration) (s : Snapshot) : Option Snapshot × Cache :=
  ((c.peek? s.key).map CacheEntry.snapshot, c.store now s)

/-- The cache with a snapshot stored; `none` if there is one of its key with a higher version. -/
def insertIfNewer? (c : Cache) (now : Duration) (s : Snapshot) : Option Cache :=
  match c.peek? s.key with
  | none => some (c.store now s)
  | some e => if s.version < e.snapshot.version then none else some (c.store now s)

/-- The cache without the entry of a key, and its snapshot. -/
def remove (c : Cache) (key : Key) : Option Snapshot × Cache :=
  ((c.peek? key).map CacheEntry.snapshot, c.erase key)

/-- The cache without entries. -/
def clear (c : Cache) : Cache where
  capacity := c.capacity
  ttl := c.ttl
  entries := []
  counters := c.counters
  capacity_pos := c.capacity_pos
  length_le := by simp
  nodup := by simp

/-- The cache without the entries that are not fresh, and their number. -/
def cleanup (c : Cache) (now : Duration) : Nat × Cache :=
  let fresh := c.entries.filter (isFresh c.ttl now)
  (c.entries.length - fresh.length,
    { capacity := c.capacity
      ttl := c.ttl
      entries := fresh
      counters := c.counters
      capacity_pos := c.capacity_pos
      length_le := Nat.le_trans List.filter_sublist.length_le c.length_le
      nodup := nodup_of_sublist List.filter_sublist c.nodup })

/-! ### Stored entries are found -/

/-- The entry in front is found under its key. -/
theorem peek?_push (c : Cache) (e : CacheEntry) : (c.push e).peek? e.key = some e := by
  have := c.capacity_pos
  rw [peek?, push]
  obtain ⟨n, hn⟩ : ∃ n, c.capacity = n + 1 := ⟨c.capacity - 1, by omega⟩
  simp [hn]

end Cache

end BiblioQuery
