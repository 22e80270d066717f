import BiblioQuery.Proofs.Archive.Recency
import BiblioQuery.Proofs.Archive.ServedSnapshots

/-!
# What the counters of a cache count

A question to a caching source is counted by what it finds in the cache, before the source behind is
asked, and once more by what becomes of asking.  Getting a snapshot from the cache directly is
counted in the same counters, and looking its entry up is not.  All counters together are those of
the operations since they were last set to zero, each counted by what it found, by what was
answered, and by whether it drove an entry out.

So nothing is counted twice and nothing is passed over: every question and every snapshot that is
got is a hit, a miss, or found expired; a question asks the source behind unless it is a hit; and
each time the source behind is asked, it fails, or a key is refreshed, or a question is answered.

## Main definitions

* `CachingSource.Moment` : an operation with the caching source that it is done to.
* `CachingSource.Moment.finding?`, `CachingSource.Moment.answer?` : what is found in the cache, and
  what the source behind answers if it is asked.
* `CachingSource.counts` : the counters of some operations.
* `CachingSource.countedSince` : the operations since the counters were last set to zero.
* `CachingSource.Call`, `CachingSource.afterCalls` : a caching source in use, where several keys can
  be asked for again in one call.

## Main results

* `CachingSource.asks_iff_exists_ne` : the source behind is asked if its answer matters.
* `CachingSource.counters_step` : what one operation counts.
* `CachingSource.counters_afterRun` : what is counted in a run.
* `CachingSource.counters_after_calls` : how the counters are related after any calls.
-/

namespace BiblioQuery

/-! ### Caches -/

namespace Cache

/-- A use of an entry makes no room. -/
@[simp]
theorem isFullFor_touch (c : Cache) (key k : Key) :
    (c.touch key).isFullFor k = c.isFullFor k := by
  have hperm := c.perm_entries_touch key
  have hcapacity : (c.touch key).capacity = c.capacity := congrArg Prod.fst (c.limits_touch key)
  rw [isFullFor, contains, peek?_congr fun _ => hperm.mem_iff, hperm.length_eq, hcapacity]
  rfl

@[simp]
theorem isFullFor_count (c : Cache) (f : CacheStats → CacheStats) (key : Key) :
    (c.count f).isFullFor key = c.isFullFor key := rfl

@[simp]
theorem counters_count (c : Cache) (f : CacheStats → CacheStats) :
    (c.count f).counters = f c.counters := rfl

end Cache

/-- What is counted in two runs, from what is counted in each. -/
@[simp]
def CacheStats.add (m n : CacheStats) : CacheStats where
  hits := m.hits + n.hits
  misses := m.misses + n.misses
  expired := m.expired + n.expired
  evictions := m.evictions + n.evictions
  refreshes := m.refreshes + n.refreshes
  staleServed := m.staleServed + n.staleServed
  loaderFailures := m.loaderFailures + n.loaderFailures
  entries := m.entries + n.entries

namespace CachingSource

variable {c : CachingSource} {now : Duration} {key : Key} {asOf : Instant} {x : Event}

/-! ### Asking the source behind -/

/-- A question asks the source behind exactly if what it comes to depends on the answer. -/
theorem asks_iff_exists_ne :
    c.asks now key asOf = true ↔ ∃ a b, c.fetch now key asOf a ≠ c.fetch now key asOf b := by
  constructor
  · intro hasks
    have hpassed (m : String) :
        (c.fetch now key asOf (.error (.invalid m))).1 = .error (.invalid m) :=
      (fetch_fst_of_error hasks).resolve_right fun h => nomatch h.1
    refine ⟨.error (.invalid ""), .error (.invalid "?"), fun hsame => ?_⟩
    have hfailed := (hpassed "").symm.trans ((congrArg Prod.fst hsame).trans (hpassed "?"))
    exact absurd hfailed (by simp)
  · rintro ⟨a, b, hne⟩
    by_contra hasks
    exact hne (fetch_eq_of_not_asks (Bool.eq_false_iff.2 hasks) a b)

/-! ### Operations that count -/

namespace Event

/-- The operation is a question. -/
@[simp]
def isQuestion (x : Event) : Bool :=
  match x.action with
  | .fetch _ _ _ => true
  | _ => false

/-- A key is asked for again. -/
@[simp]
def isRefresh (x : Event) : Bool :=
  match x.action with
  | .refresh _ _ => true
  | _ => false

/-- A snapshot is got from the cache directly. -/
@[simp]
def isGet (x : Event) : Bool :=
  match x.action with
  | .direct (.get _) => true
  | _ => false

/-- The counters are set to zero. -/
@[simp]
def isReset (x : Event) : Bool :=
  match x.action with
  | .direct .resetStats => true
  | _ => false

end Event

/-- An operation with the caching source that it is done to. -/
structure Moment where
  /-- The caching source before the operation. -/
  source : CachingSource
  /-- The operation. -/
  event : Event

namespace Moment

/-- What a question, or getting a snapshot, finds.  For a question, a snapshot that had not been
taken by its instant is not usable. -/
@[simp]
def finding? (m : Moment) : Option Cache.Finding :=
  match m.event.action with
  | .fetch key asOf _ =>
    some (.ofFresh? ((m.source.usable? m.event.now key asOf).map Prod.snd))
  | .direct a => m.source.cache.finding? m.event.now a
  | _ => none

/-- The answer of the source behind, if it is asked. -/
@[simp]
def answer? (m : Moment) : Option Fetch :=
  match m.event.action with
  | .fetch key asOf answer => if m.source.asks m.event.now key asOf then some answer else none
  | .refresh _ answer => some answer
  | _ => none

/-- The source behind is asked and answers with a snapshot. -/
@[simp]
def isLoaded (m : Moment) : Bool :=
  match m.answer? with
  | some (.ok _) => true
  | _ => false

/-- The source behind is asked and fails. -/
@[simp]
def isFailed (m : Moment) : Bool :=
  match m.answer? with
  | some (.error _) => true
  | _ => false

/-- A snapshot that is not fresh is served, as the source behind fails for now. -/
@[simp]
def servesStale (m : Moment) : Bool :=
  (match m.answer? with
    | some (.error e) => m.source.serveStale && e.isTransient
    | _ => false) &&
  m.finding? == some .expired

/-- A snapshot is stored in a cache that is full for its key. -/
def drivesOut (m : Moment) : Bool :=
  (m.source.stored? m.event).any fun s => m.source.cache.isFullFor s.key

end Moment

/-- The counters of some operations. -/
def counts (ms : List Moment) : CacheStats where
  hits := ms.countP fun m => m.finding? == some .fresh
  misses := ms.countP fun m => m.finding? == some .nothing
  expired := ms.countP fun m => m.finding? == some .expired
  evictions := ms.countP Moment.drivesOut
  refreshes := ms.countP fun m => m.event.isRefresh && m.isLoaded
  staleServed := ms.countP Moment.servesStale
  loaderFailures := ms.countP Moment.isFailed
  entries := 0

theorem counts_append (ms ms' : List Moment) :
    counts (ms ++ ms') = (counts ms).add (counts ms') := by
  simp only [counts, CacheStats.add, List.countP_append]

theorem counts_singleton (m : Moment) :
    counts [m] =
      { hits := if m.finding? == some .fresh then 1 else 0
        misses := if m.finding? == some .nothing then 1 else 0
        expired := if m.finding? == some .expired then 1 else 0
        evictions := if m.drivesOut then 1 else 0
        refreshes := if m.event.isRefresh && m.isLoaded then 1 else 0
        staleServed := if m.servesStale then 1 else 0
        loaderFailures := if m.isFailed then 1 else 0
        entries := 0 } := by
  simp only [counts, List.countP_singleton]

/-! ### What one operation counts -/

/-- The counters after the source behind was asked, where the entry of a key has been used. -/
theorem counters_settle_used (c : CachingSource) (f : CacheStats → CacheStats) (now : Duration)
    (key : Key) (found : Option Snapshot) (answer : Fetch) :
    ((count { c with cache := c.cache.touch key } f).settle now found answer).2.cache.counters =
      match answer with
      | .ok s =>
        { f c.cache.counters with
          evictions := (f c.cache.counters).evictions +
            if c.cache.admits s && c.cache.isFullFor s.key then 1 else 0 }
      | .error e =>
        { f c.cache.counters with
          staleServed := (f c.cache.counters).staleServed +
            if found.isSome && (c.serveStale && e.isTransient) then 1 else 0
          loaderFailures := (f c.cache.counters).loaderFailures + 1 } := by
  cases answer with
  | ok s =>
    refine (((c.cache.touch key).count f).counters_insertIfNewer? now s).trans ?_
    simp
  | error e =>
    cases found with
    | none => simp [settle, count, Cache.count]
    | some s =>
      rw [settle]
      cases hserve : c.serveStale && e.isTransient <;> simp [hserve, count, Cache.count]

/-- A question that asks the source behind drives an entry out if it stores what is answered. -/
theorem drivesOut_of_asks (answer : Fetch) (h : c.asks now key asOf = true) :
    (⟨c, ⟨now, .fetch key asOf answer⟩⟩ : Moment).drivesOut =
      answer.toOption.any fun s => c.cache.admits s && c.cache.isFullFor s.key := by
  have hstored : c.stored? ⟨now, .fetch key asOf answer⟩ =
      answer.toOption.filter c.cache.admits := if_pos h
  rw [Moment.drivesOut, hstored, Option.any_filter]

/-- What a question counts. -/
theorem counters_fetch (c : CachingSource) (now : Duration) (key : Key) (asOf : Instant)
    (answer : Fetch) :
    (c.fetch now key asOf answer).2.cache.counters =
      c.cache.counters.add (counts [⟨c, ⟨now, .fetch key asOf answer⟩⟩]) := by
  rw [fetch, counts_singleton]
  rcases hu : c.usable? now key asOf with _ | ⟨s, _ | _⟩
  · have hasks : c.asks now key asOf = true := by rw [asks, hu]
    refine (c.counters_settle_used _ now key none answer).trans ?_
    rw [drivesOut_of_asks answer hasks]
    cases answer <;> simp [hu, hasks, Except.toOption]
  · have hasks : c.asks now key asOf = true := by rw [asks, hu]
    refine (c.counters_settle_used _ now key (some s) answer).trans ?_
    rw [drivesOut_of_asks answer hasks]
    cases answer <;> simp [hu, hasks, Except.toOption]
  · have hasks : c.asks now key asOf = false := by rw [asks, hu]
    simp [hu, hasks, Moment.drivesOut, stored?, fetched?, count, Cache.lookup?]

/-- What one operation counts, unless it sets the counters to zero. -/
theorem counters_step (hreset : x.isReset = false) :
    (c.step x).cache.counters = c.cache.counters.add (counts [⟨c, x⟩]) := by
  obtain ⟨now, a⟩ := x
  cases a with
  | fetch key asOf answer => exact c.counters_fetch now key asOf answer
  | refresh key answer =>
    rw [counts_singleton]
    cases answer with
    | ok s =>
      exact congrArg (fun n : CacheStats => { n with refreshes := n.refreshes + 1 })
        (c.cache.counters_store now s)
    | error e => simp [step, refresh, count, Moment.drivesOut, stored?, Except.toOption]
  | direct a =>
    have hact : a ≠ .resetStats := by
      rintro rfl
      cases hreset
    rw [counts_singleton]
    exact c.cache.counters_act now hact
  | _ => rw [counts_singleton]; rfl

/-- Setting the counters to zero leaves nothing counted. -/
theorem counters_step_of_isReset (hreset : x.isReset = true) :
    (c.step x).cache.counters = counts [] := by
  rw [Event.isReset] at hreset
  split at hreset
  · next h => rw [step, h]; rfl
  · cases hreset

/-! ### In a run -/

/-- The operations since the counters were last set to zero, where some were before. -/
def countedSince (c : CachingSource) (before : List Moment) : List Event → List Moment
  | [] => before
  | x :: run => (c.step x).countedSince (if x.isReset then [] else before ++ [⟨c, x⟩]) run

/-- The counters after a run are those of the operations since they were last set to zero. -/
theorem counters_afterRun {before : List Moment} (run : List Event)
    (h : c.cache.counters = counts before) :
    (c.afterRun run).cache.counters = counts (c.countedSince before run) := by
  induction run generalizing c before with
  | nil => exact h
  | cons x run ih =>
    refine ih ?_
    cases hreset : x.isReset with
    | false =>
      rw [counters_step hreset, h, ← counts_append]
      rfl
    | true => exact counters_step_of_isReset hreset

/-! ### Calls -/

/-- A call of a caching source. -/
inductive Call where
  /-- One operation. -/
  | one (x : Event)
  /-- Several keys are asked for again, one after the other; this is what the source behind
  answers. -/
  | warm (now : Duration) (answer : Key → Fetch) (keys : List Key)

/-- The operations of a call, one after the other. -/
def Call.events : Call → List Event
  | .one x => [x]
  | .warm now answer keys => keys.map fun key => ⟨now, .refresh key (answer key)⟩

/-- The caching source after a call. -/
def afterCall (c : CachingSource) : Call → CachingSource
  | .one x => c.step x
  | .warm now answer keys => (c.warm now answer keys).2

/-- The caching source after calls one after the other. -/
def afterCalls (c : CachingSource) (calls : List Call) : CachingSource := calls.foldl afterCall c

/-- Asking for several keys again is asking for each of them. -/
theorem snd_warm (c : CachingSource) (now : Duration) (answer : Key → Fetch) (keys : List Key) :
    (c.warm now answer keys).2 =
      c.afterRun (keys.map fun key => ⟨now, .refresh key (answer key)⟩) := by
  induction keys generalizing c with
  | nil => rfl
  | cons key keys ih =>
    have hfirst : (c.warm now answer (key :: keys)).2 =
        ((c.refresh now key (answer key)).2.warm now answer keys).2 := by
      rw [warm]
      rcases c.refresh now key (answer key) with ⟨_ | _, c'⟩ <;> rfl
    exact hfirst.trans (ih _)

/-- Calls do what their operations do. -/
theorem afterCalls_eq_afterRun (c : CachingSource) (calls : List Call) :
    c.afterCalls calls = c.afterRun (calls.flatMap Call.events) := by
  induction calls generalizing c with
  | nil => rfl
  | cons call calls ih =>
    have hcall : c.afterCall call = c.afterRun call.events := by
      cases call with
      | one x => rfl
      | warm now answer keys => exact c.snd_warm now answer keys
    rw [List.flatMap_cons, afterRun, List.foldl_append, ← afterRun, ← afterRun, ← hcall]
    exact ih _

/-! ### How the counters are related -/

namespace Moment

/-- Every question, and every snapshot that is got, is one of a hit, a miss, or found expired. -/
theorem lookups_eq (m : Moment) :
    (if m.finding? == some .fresh then 1 else 0) + (if m.finding? == some .nothing then 1 else 0) +
        (if m.finding? == some .expired then 1 else 0) =
      (if m.event.isQuestion then 1 else 0) + if m.event.isGet then 1 else 0 := by
  have hfound (fresh? : Option Bool) :
      (if some (Cache.Finding.ofFresh? fresh?) == some .fresh then 1 else 0) +
          (if some (Cache.Finding.ofFresh? fresh?) == some .nothing then 1 else 0) +
          (if some (Cache.Finding.ofFresh? fresh?) == some .expired then 1 else 0) = 1 := by
    rcases fresh? with _ | _ | _ <;> rfl
  obtain ⟨c, now, a⟩ := m
  cases a with
  | fetch key asOf answer => exact hfound _
  | direct a =>
    cases a with
    | get key => exact hfound _
    | _ => rfl
  | _ => rfl

/-- Each time the source behind is asked, a key is refreshed, or it fails, or a question is
answered. -/
theorem answers_eq (m : Moment) :
    (if m.event.isRefresh && m.isLoaded then 1 else 0) + (if m.isFailed then 1 else 0) +
        (if m.event.isQuestion && m.isLoaded then 1 else 0) =
      if m.answer?.isSome then 1 else 0 := by
  obtain ⟨c, now, a⟩ := m
  cases a with
  | fetch key asOf answer =>
    cases hasks : c.asks now key asOf <;> cases answer <;> simp [hasks]
  | refresh key answer => cases answer <;> rfl
  | _ => rfl

/-- A question asks the source behind unless it is a hit. -/
theorem asks_eq (m : Moment) :
    (m.event.isQuestion && m.answer?.isSome) =
      (m.event.isQuestion && m.finding? != some .fresh) := by
  obtain ⟨c, now, a⟩ := m
  cases a with
  | fetch key asOf answer =>
    rcases hu : c.usable? now key asOf with _ | ⟨s, _ | _⟩ <;> simp [hu, asks]
  | _ => rfl

/-- A snapshot that is not fresh was found, and the source behind failed, if it is served. -/
theorem expired_and_failed_of_servesStale {m : Moment} (h : m.servesStale = true) :
    (m.finding? == some .expired) = true ∧ m.isFailed = true := by
  obtain ⟨hfailed, hfound⟩ := Bool.and_eq_true_iff.1 h
  refine ⟨hfound, ?_⟩
  rw [isFailed]
  split at hfailed
  · rfl
  · cases hfailed

end Moment

/-- Every question and every snapshot that is got is counted once. -/
theorem lookups_counts (ms : List Moment) :
    (counts ms).hits + (counts ms).misses + (counts ms).expired =
      ms.countP (·.event.isQuestion) + ms.countP (·.event.isGet) := by
  simp only [counts]
  induction ms with
  | nil => rfl
  | cons m ms ih =>
    have hone := m.lookups_eq
    simp only [List.countP_cons]
    omega

/-- Each time the source behind is asked is counted once, unless it answers a question. -/
theorem answers_counts (ms : List Moment) :
    (counts ms).refreshes + (counts ms).loaderFailures +
        (ms.countP fun m => m.event.isQuestion && m.isLoaded) =
      ms.countP (·.answer?.isSome) := by
  simp only [counts]
  induction ms with
  | nil => rfl
  | cons m ms ih =>
    have hone := m.answers_eq
    simp only [List.countP_cons]
    omega

theorem staleServed_counts_le (ms : List Moment) :
    (counts ms).staleServed ≤ (counts ms).loaderFailures ∧
      (counts ms).staleServed ≤ (counts ms).expired :=
  ⟨List.countP_mono_left fun _ _ h => (Moment.expired_and_failed_of_servesStale h).2,
    List.countP_mono_left fun _ _ h => (Moment.expired_and_failed_of_servesStale h).1⟩

/-- After any calls the counters are those of the operations since they were last set to zero, and
with the number of entries they are what is shown.  Hits, misses and what was found expired are as
many as questions and snapshots that were got; a question asked the source behind unless it was a
hit; the source behind was asked once for each refresh, for each failure, and for each question that
it answered; snapshots that are not fresh were served no more often than the source behind failed,
and no more often than they were found; and the entries are no more than there is room for. -/
theorem counters_after_calls (g : CacheConfig) (calls : List Call) :
    let c := (ofConfig g).afterCalls calls
    let stats := c.cache.stats
    let lately := (ofConfig g).countedSince [] (calls.flatMap Call.events)
    stats = { counts lately with entries := c.cache.entries.length } ∧
    stats.hits + stats.misses + stats.expired =
      lately.countP (·.event.isQuestion) + lately.countP (·.event.isGet) ∧
    (lately.countP fun m => m.event.isQuestion && m.answer?.isSome) =
      (lately.countP fun m => m.event.isQuestion && m.finding? != some .fresh) ∧
    (∀ now key asOf, c.asks now key asOf = true ↔
      ∃ a b, c.fetch now key asOf a ≠ c.fetch now key asOf b) ∧
    stats.refreshes + stats.loaderFailures +
        (lately.countP fun m => m.event.isQuestion && m.isLoaded) =
      lately.countP (·.answer?.isSome) ∧
    (stats.staleServed ≤ stats.loaderFailures ∧ stats.staleServed ≤ stats.expired) ∧
    stats.entries = c.cache.entries.length ∧ c.cache.entries.length ≤ max 1 g.maxEntries := by
  intro c stats lately
  have hcalls : c = (ofConfig g).afterRun (calls.flatMap Call.events) :=
    (ofConfig g).afterCalls_eq_afterRun calls
  have hcounters : c.cache.counters = counts lately := by
    rw [hcalls]
    exact counters_afterRun _ rfl
  have hstats : stats = { counts lately with entries := c.cache.entries.length } :=
    congrArg (fun n : CacheStats => { n with entries := c.cache.entries.length }) hcounters
  have hcapacity : c.cache.capacity = max 1 g.maxEntries := by
    rw [hcalls]
    exact congrArg (·.1.1) (setup_afterRun g _)
  have hroom : c.cache.entries.length ≤ max 1 g.maxEntries := hcapacity ▸ c.cache.length_le
  rw [hstats]
  exact ⟨rfl, lookups_counts lately, List.countP_congr fun m _ => by rw [m.asks_eq],
    fun _ _ _ => asks_iff_exists_ne, answers_counts lately, staleServed_counts_le lately, rfl,
    hroom⟩

end CachingSource

end BiblioQuery
