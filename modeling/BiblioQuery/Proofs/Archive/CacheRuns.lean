import BiblioQuery.Proofs.Archive.CachedReads

/-!
# Caches in use

A cache and a caching source are used by operations in any order, each with the reading of the clock
at its time.  Whatever is done, an entry is there because some operation put it there, and its time
is the reading of the clock at that operation: looking, dropping and counting make no entry and give
none another time.  Operations that only look and do not count as a use, as `Cache.contains` and
`Cache.stats`, leave the cache as it is and do not appear.

## Main definitions

* `Cache.admits` : the cache takes a snapshot of a version that is no lower.
* `Cache.Action`, `Cache.act` : what is done to a cache.
* `CachingSource.Action`, `CachingSource.Event` : what is done to a caching source, and when.
* `CachingSource.step`, `CachingSource.afterRun` : a caching source in use.
* `CachingSource.stored?` : the snapshot that an operation puts into the cache.

## Main results

* `Cache.perm_entries_touch` : a use of an entry changes the order of the entries only.
* `CachingSource.entries_fetch` : the entries after a question.
* `CachingSource.mem_entries_step` : an operation adds the entry that it puts there and no other.
* `CachingSource.exists_stored_of_mem` : where the entries come from that are there after a run.
* `CachingSource.setup_afterRun` : no run changes how a caching source is set up.
-/

namespace BiblioQuery

namespace CacheEntry

/-- An entry put in front of the others changes the order only. -/
theorem perm_cons_without {es : List CacheEntry} {e : CacheEntry}
    (hnodup : (es.map CacheEntry.key).Nodup) (he : e ∈ es) : (e :: without e.key es).Perm es := by
  have hfront : ((e :: without e.key es).map CacheEntry.key).Nodup := nodup_cons_without hnodup
  refine (List.perm_ext_iff_of_nodup hfront.of_map hnodup.of_map).2 fun e' => ?_
  rw [List.mem_cons, without, List.mem_filter, bne_iff_ne]
  constructor
  · rintro (rfl | ⟨he', -⟩)
    · exact he
    · exact he'
  · intro he'
    by_cases hkey : e'.key = e.key
    · exact .inl (List.inj_on_of_nodup_map hnodup he' he hkey)
    · exact .inr ⟨he', hkey⟩

end CacheEntry

/-! ### Operations on a cache -/

namespace Cache

open CacheEntry

variable {c : Cache} {e : CacheEntry} {key : Key} {now : Duration} {s : Snapshot}

/-- The cache has no snapshot of the key with a higher version. -/
def admits (c : Cache) (s : Snapshot) : Bool :=
  match c.peek? s.key with
  | none => true
  | some e => decide (e.snapshot.version ≤ s.version)

/-- What is done to a cache. -/
inductive Action where
  /-- The entry of a key is looked up. -/
  | lookup (key : Key)
  /-- The fresh snapshot of a key is asked for. -/
  | get (key : Key)
  /-- A snapshot is stored. -/
  | insert (s : Snapshot)
  /-- A snapshot is stored if there is none of a higher version. -/
  | insertIfNewer (s : Snapshot)
  /-- The entry of a key is removed. -/
  | remove (key : Key)
  /-- All entries are removed. -/
  | clear
  /-- The entries that are not fresh are removed. -/
  | cleanup
  /-- The counters are set to zero. -/
  | resetStats

/-- The cache after an operation. -/
def act (c : Cache) (now : Duration) : Action → Cache
  | .lookup key => (c.lookup? now key).2
  | .get key => (c.get? now key).2
  | .insert s => (c.insert now s).2
  | .insertIfNewer s => (c.insertIfNewer? now s).getD c
  | .remove key => (c.remove key).2
  | .clear => c.clear
  | .cleanup => (c.cleanup now).2
  | .resetStats => c.resetStats

/-- The snapshot that an operation puts into the cache, if it does. -/
def stored? (c : Cache) : Action → Option Snapshot
  | .insert s => some s
  | .insertIfNewer s => if c.admits s then some s else none
  | _ => none

/-- The entry of a key is the only one that is filed under the key. -/
theorem peek?_eq_some_iff : c.peek? key = some e ↔ e ∈ c.entries ∧ e.key = key := by
  refine ⟨mem_of_peek?, fun ⟨he, hkey⟩ => ?_⟩
  cases hpeek : c.peek? key with
  | none => exact absurd (List.find?_eq_none.1 hpeek e he) (by simp [hkey])
  | some e' =>
    obtain ⟨he', hkey'⟩ := mem_of_peek? hpeek
    rw [List.inj_on_of_nodup_map c.nodup he' he (hkey'.trans hkey.symm)]

/-- Caches with the same entries have the same entry of each key. -/
theorem peek?_congr {c' : Cache} (h : ∀ e, e ∈ c.entries ↔ e ∈ c'.entries) (key : Key) :
    c.peek? key = c'.peek? key :=
  Option.ext fun e => by rw [peek?_eq_some_iff, peek?_eq_some_iff, h]

theorem entries_push (c : Cache) (e : CacheEntry) :
    (c.push e).entries = (e :: without e.key c.entries).take c.capacity := rfl

/-- A use of an entry changes the order of the entries only. -/
theorem perm_entries_touch (c : Cache) (key : Key) : (c.touch key).entries.Perm c.entries := by
  rw [touch]
  split
  · exact .refl _
  · next e he =>
    have hperm := perm_cons_without c.nodup (mem_of_peek? he).1
    have hroom : (e :: without e.key c.entries).length ≤ c.capacity :=
      hperm.length_eq ▸ c.length_le
    rw [entries_push, List.take_of_length_le hroom]
    exact hperm

@[simp]
theorem admits_touch (c : Cache) (key : Key) (s : Snapshot) :
    (c.touch key).admits s = c.admits s := by
  rw [admits, peek?_congr (fun _ => (c.perm_entries_touch key).mem_iff), admits]

@[simp]
theorem admits_count (c : Cache) (f : CacheStats → CacheStats) (s : Snapshot) :
    (c.count f).admits s = c.admits s := rfl

@[simp]
theorem entries_store (c : Cache) (now : Duration) (s : Snapshot) :
    (c.store now s).entries = (c.push ⟨s, now⟩).entries := by
  rw [store]
  split <;> rfl

/-- A snapshot is stored if it is admitted. -/
theorem insertIfNewer?_eq (c : Cache) (now : Duration) (s : Snapshot) :
    c.insertIfNewer? now s = if c.admits s then some (c.store now s) else none := by
  rw [insertIfNewer?, admits]
  cases c.peek? s.key with
  | none => rfl
  | some e =>
    simp only [decide_eq_true_eq]
    by_cases hlt : s.version < e.snapshot.version
    · rw [if_pos hlt, if_neg (UInt64.not_le.2 hlt)]
    · rw [if_neg hlt, if_pos (UInt64.not_lt.1 hlt)]

/-- The entries after a snapshot was stored if it was admitted. -/
theorem entries_insertIfNewer? (c : Cache) (now : Duration) (s : Snapshot) :
    ((c.insertIfNewer? now s).getD c).entries =
      if c.admits s then (c.push ⟨s, now⟩).entries else c.entries := by
  rw [insertIfNewer?_eq]
  split
  · exact entries_store c now s
  · rfl

/-- An operation adds the entry that it puts there and no other. -/
theorem mem_entries_act {a : Action} (h : e ∈ (c.act now a).entries) :
    e ∈ c.entries ∨ ∃ s, c.stored? a = some s ∧ e = ⟨s, now⟩ := by
  cases a with
  | lookup key => exact .inl (mem_entries_touch h)
  | get key =>
    rw [act, get?] at h
    split at h
    · exact .inl h
    · split at h
      · exact .inl (mem_entries_touch h)
      · exact .inl ((without_sublist _ _).subset h)
  | insert s => exact (mem_entries_store h).symm.imp_right fun h => ⟨s, rfl, h⟩
  | insertIfNewer s =>
    rw [act, entries_insertIfNewer?] at h
    rw [stored?]
    split at h
    · next hadmits =>
      rw [if_pos hadmits]
      exact (mem_entries_push h).symm.imp_right fun h => ⟨s, rfl, h⟩
    · exact .inl h
  | remove key => exact .inl ((without_sublist _ _).subset h)
  | clear => cases h
  | cleanup => exact .inl (List.filter_sublist.subset h)
  | resetStats => exact .inl h

/-- No operation changes the limits. -/
@[simp]
theorem limits_act (c : Cache) (now : Duration) (a : Action) :
    (c.act now a).limits = c.limits := by
  cases a with
  | lookup key => exact c.limits_touch key
  | get key =>
    rw [act, get?]
    split
    · rfl
    · split
      · exact c.limits_touch key
      · rfl
  | insert s => exact c.limits_store now s
  | insertIfNewer s => exact c.limits_insertIfNewer? now s
  | _ => rfl

end Cache

/-! ### Operations on a caching source -/

namespace CachingSource

variable {c : CachingSource} {now : Duration} {key : Key} {asOf : Instant} {answer : Fetch}
variable {s : Snapshot} {e : CacheEntry}

/-- What is done to a caching source. -/
inductive Action where
  /-- A key is asked for at an instant; this is what the source behind would answer. -/
  | fetch (key : Key) (asOf : Instant) (answer : Fetch)
  /-- A key is asked for again, whatever is cached; this is what the source behind answers. -/
  | refresh (key : Key) (answer : Fetch)
  /-- The snapshot of a key is dropped. -/
  | invalidate (key : Key)
  /-- All snapshots are dropped. -/
  | invalidateAll
  /-- The cache is used directly. -/
  | direct (a : Cache.Action)

/-- An operation on a caching source at its time. -/
structure Event where
  /-- The reading of the clock. -/
  now : Duration
  /-- The operation. -/
  action : Action

/-- The caching source after an operation. -/
def step (c : CachingSource) (x : Event) : CachingSource :=
  match x.action with
  | .fetch key asOf answer => (c.fetch x.now key asOf answer).2
  | .refresh key answer => (c.refresh x.now key answer).2
  | .invalidate key => (c.invalidate key).2
  | .invalidateAll => c.invalidateAll
  | .direct a => { c with cache := c.cache.act x.now a }

/-- The caching source after operations one after the other. -/
def afterRun (c : CachingSource) (run : List Event) : CachingSource := run.foldl step c

/-- The snapshot that a question puts into the cache: the answer of the source behind, if that is
asked, has one, and the cache has none of a higher version. -/
def fetched? (c : CachingSource) (now : Duration) (key : Key) (asOf : Instant) (answer : Fetch) :
    Option Snapshot :=
  if c.asks now key asOf then answer.toOption.filter c.cache.admits else none

/-- The snapshot that an operation puts into the cache, if it does. -/
def stored? (c : CachingSource) (x : Event) : Option Snapshot :=
  match x.action with
  | .fetch key asOf answer => c.fetched? x.now key asOf answer
  | .refresh _ answer => answer.toOption
  | .invalidate _ | .invalidateAll => none
  | .direct a => c.cache.stored? a

/-- The entries after the source behind was asked. -/
theorem entries_settle (c : CachingSource) (now : Duration) (found : Option Snapshot)
    (answer : Fetch) :
    (c.settle now found answer).2.cache.entries =
      match answer.toOption.filter c.cache.admits with
      | some s => (c.cache.push ⟨s, now⟩).entries
      | none => c.cache.entries := by
  cases answer with
  | ok s =>
    rw [settle, Cache.entries_insertIfNewer?]
    cases hadmits : c.cache.admits s <;> simp [Except.toOption, Option.filter, hadmits]
  | error x =>
    have hfailed : (c.settle now found (.error x)).2.cache.entries = c.cache.entries := by
      cases found with
      | none => rfl
      | some s =>
        rw [settle]
        split <;> rfl
    rw [hfailed]
    rfl

/-- The entries after the source behind was asked, where the entry of a key has been used. -/
theorem entries_settle_used (c : CachingSource) (f : CacheStats → CacheStats) (now : Duration)
    (key : Key) (found : Option Snapshot) (answer : Fetch) :
    ((count { c with cache := c.cache.touch key } f).settle now found answer).2.cache.entries =
      match answer.toOption.filter c.cache.admits with
      | some s => ((c.cache.touch key).push ⟨s, now⟩).entries
      | none => (c.cache.touch key).entries := by
  have hadmits : (count { c with cache := c.cache.touch key } f).cache.admits = c.cache.admits :=
    funext (c.cache.admits_touch key)
  rw [entries_settle, hadmits]
  rfl

/-- The entries after a question: the one that was found is used, and what was answered is put in
front. -/
theorem entries_fetch (c : CachingSource) (now : Duration) (key : Key) (asOf : Instant)
    (answer : Fetch) :
    (c.fetch now key asOf answer).2.cache.entries =
      match c.fetched? now key asOf answer with
      | some s => ((c.cache.touch key).push ⟨s, now⟩).entries
      | none => (c.cache.touch key).entries := by
  rw [fetch, fetched?, asks]
  rcases c.usable? now key asOf with _ | ⟨s, _ | _⟩
  · exact c.entries_settle_used _ now key none answer
  · exact c.entries_settle_used _ now key (some s) answer
  · rfl

/-- An operation adds the entry that it puts there and no other. -/
theorem mem_entries_step {x : Event} (h : e ∈ (c.step x).cache.entries) :
    e ∈ c.cache.entries ∨ ∃ s, c.stored? x = some s ∧ e = ⟨s, x.now⟩ := by
  obtain ⟨now, a⟩ := x
  cases a with
  | fetch key asOf answer =>
    rw [step, entries_fetch] at h
    rw [stored?]
    dsimp only at h ⊢
    split at h
    · next s hs =>
      refine (Cache.mem_entries_push h).symm.imp Cache.mem_entries_touch fun h => ⟨s, hs, h⟩
    · exact .inl (Cache.mem_entries_touch h)
  | refresh key answer =>
    cases answer with
    | ok s => exact (Cache.mem_entries_store h).symm.imp_right fun h => ⟨s, rfl, h⟩
    | error x => exact .inl h
  | invalidate key => exact .inl ((CacheEntry.without_sublist _ _).subset h)
  | invalidateAll => cases h
  | direct a => exact Cache.mem_entries_act h

/-- What is there after a run was there before, or some operation put it there at its time. -/
theorem exists_stored_of_mem {run : List Event} (h : e ∈ (c.afterRun run).cache.entries) :
    e ∈ c.cache.entries ∨ ∃ before x later, run = before ++ x :: later ∧
      (c.afterRun before).stored? x = some e.snapshot ∧ x.now = e.storedAt := by
  induction run generalizing c with
  | nil => exact .inl h
  | cons x run ih =>
    rcases ih h with h | ⟨before, y, later, rfl, hstored, hnow⟩
    · rcases mem_entries_step h with h | ⟨s, hs, rfl⟩
      · exact .inl h
      · exact .inr ⟨[], x, run, rfl, hs, rfl⟩
    · exact .inr ⟨x :: before, y, later, rfl, hstored, hnow⟩

/-- No operation changes how a caching source is set up. -/
@[simp]
theorem setup_step (c : CachingSource) (x : Event) : (c.step x).setup = c.setup := by
  obtain ⟨now, a⟩ := x
  cases a with
  | fetch key asOf answer => exact c.setup_fetch now key asOf answer
  | refresh key answer =>
    cases answer with
    | ok s => exact congrArg (·, c.serveStale) (c.cache.limits_store now s)
    | error x => rfl
  | direct a => exact congrArg (·, c.serveStale) (c.cache.limits_act now a)
  | _ => rfl

/-- A caching source is set up as its configuration says after every run. -/
theorem setup_afterRun (g : CacheConfig) (run : List Event) :
    ((ofConfig g).afterRun run).setup = ((max 1 g.maxEntries, g.ttl), g.serveStale) := by
  have hrun (c : CachingSource) : (c.afterRun run).setup = c.setup := by
    induction run generalizing c with
    | nil => rfl
    | cons x run ih => exact (ih _).trans (setup_step c x)
  exact hrun _

/-- The rules are those of the configuration after every run. -/
theorem rules_afterRun (g : CacheConfig) (run : List Event) :
    ((ofConfig g).afterRun run).rules = (g.ttl, g.serveStale) :=
  congrArg (fun p => (p.1.2, p.2)) (setup_afterRun g run)

end CachingSource

end BiblioQuery
