import BiblioQuery.Archive.CachingSource
import BiblioQuery.Proofs.Archive.MemoryHistory
import Mathlib.Data.List.Permutation

/-!
# Reading through a cache

A caching source is asked again and again, while the source behind it answers one question always
in one way.  One would like every answer to be that of the source behind.  It is not: a snapshot
that was loaded for an instant in the past stays in the cache, and as long as it is fresh it is
served for every instant after it was taken, also where a later snapshot holds.  A snapshot that is
no longer fresh is served where that is allowed and the source behind fails for now.

There is no other difference, whatever the readings of the clock are and whatever was driven out of
the cache in between.

## Main definitions

* `CachedRead`, `CachingSource.read`, `CachingSource.afterReads` : questions one after the other.
* `CachingSource.Outlived` : a cached snapshot of an earlier question is served in place of the
  answer.

## Main results

* `CachingSource.mem_entries_fetch` : a question adds what was answered, and nothing else.
* `CachingSource.loaded_afterReads` : what is cached was answered to an earlier question.
* `CachingSource.read_eq_source_iff` : when the answer is that of the source behind.
* `CachingSource.read_after_past_read` : a current question after one about the past.
-/

namespace BiblioQuery

/-! ### What the cache holds after a change -/

namespace Cache

variable {c : Cache} {e e' : CacheEntry} {key : Key} {now : Duration} {s : Snapshot}

/-- The entry of a key is one of the entries, and it is filed under the key. -/
theorem mem_of_peek? (h : c.peek? key = some e) : e ∈ c.entries ∧ e.key = key :=
  ⟨List.mem_of_find?_eq_some h, by simpa using List.find?_some h⟩

theorem mem_entries_push (h : e' ∈ (c.push e).entries) : e' = e ∨ e' ∈ c.entries := by
  rcases List.mem_cons.1 (List.mem_of_mem_take h) with h | h
  · exact .inl h
  · exact .inr ((CacheEntry.without_sublist _ _).subset h)

/-- A use adds no entry. -/
theorem mem_entries_touch (h : e' ∈ (c.touch key).entries) : e' ∈ c.entries := by
  rw [touch] at h
  split at h
  · exact h
  · rename_i e he
    rcases mem_entries_push h with rfl | h
    · exact (mem_of_peek? he).1
    · exact h

theorem mem_entries_store (h : e' ∈ (c.store now s).entries) :
    e' = ⟨s, now⟩ ∨ e' ∈ c.entries := by
  unfold store at h
  split at h
  · exact mem_entries_push h
  · exact mem_entries_push h

theorem mem_entries_insertIfNewer?
    (h : e' ∈ ((c.insertIfNewer? now s).getD c).entries) : e' = ⟨s, now⟩ ∨ e' ∈ c.entries := by
  unfold insertIfNewer? at h
  split at h
  · exact mem_entries_store h
  · split at h
    · exact .inr h
    · exact mem_entries_store h

/-- The limits of a cache: how many entries there is room for, and how long they are fresh. -/
def limits (c : Cache) : Nat × Duration := (c.capacity, c.ttl)

@[simp]
theorem limits_touch (c : Cache) (key : Key) : (c.touch key).limits = c.limits := by
  unfold touch
  split <;> rfl

@[simp]
theorem limits_store (c : Cache) (now : Duration) (s : Snapshot) :
    (c.store now s).limits = c.limits := by
  unfold store
  split <;> rfl

@[simp]
theorem limits_insertIfNewer? (c : Cache) (now : Duration) (s : Snapshot) :
    ((c.insertIfNewer? now s).getD c).limits = c.limits := by
  unfold insertIfNewer?
  split
  · exact c.limits_store now s
  · split
    · rfl
    · exact c.limits_store now s

end Cache

/-! ### One question -/

namespace CachingSource

variable {c : CachingSource} {now : Duration} {key : Key} {asOf : Instant} {answer : Fetch}

theorem usable?_eq_some_iff {s : Snapshot} {fresh : Bool} :
    c.usable? now key asOf = some (s, fresh) ↔
      ∃ e, c.cache.peek? key = some e ∧ e.snapshot.capturedAt.atMost asOf = true ∧
        e.snapshot = s ∧ e.isFresh c.cache.ttl now = fresh := by
  rw [usable?, Cache.lookup?, Option.filter_eq_some_iff]
  constructor
  · rintro ⟨hp, hs⟩
    obtain ⟨e, he, hse⟩ := Option.map_eq_some_iff.1 hp
    obtain ⟨rfl, rfl⟩ := Prod.mk.inj hse
    exact ⟨e, he, hs, rfl, rfl⟩
  · rintro ⟨e, he, hs, rfl, rfl⟩
    exact ⟨Option.map_eq_some_iff.2 ⟨e, he, rfl⟩, hs⟩

theorem usable?_eq_none_iff :
    c.usable? now key asOf = none ↔
      ∀ e, c.cache.peek? key = some e → e.snapshot.capturedAt.atMost asOf = false := by
  rw [usable?, Cache.lookup?]
  cases c.cache.peek? key with
  | none => simp
  | some e => simp

/-- The answer is kept, unless a cached snapshot is better than a failure for now. -/
theorem settle_fst_eq_iff {found : Option Snapshot} :
    (c.settle now found answer).1 = answer ↔
      ¬∃ s x, found = some s ∧ c.serveStale = true ∧ answer = .error x ∧ x.isTransient = true := by
  cases answer with
  | ok s => simp [settle]
  | error x =>
    cases found with
    | none => simp [settle]
    | some s =>
      rw [settle]
      split
      · rename_i h
        rw [Bool.and_eq_true] at h
        simp [h.1, h.2]
      · rename_i h
        rw [Bool.and_eq_true] at h
        simp only [true_iff]
        rintro ⟨_, x', _, hstale, hx, ht⟩
        rw [Except.error.inj hx] at h
        exact h ⟨hstale, ht⟩

/-- A cached snapshot that had been taken is served in place of another answer: it is fresh, or it
may be served stale and the answer is a failure for now. -/
theorem fetch_fst_eq_iff : (c.fetch now key asOf answer).1 = answer ↔
    ¬∃ e, c.cache.peek? key = some e ∧ e.snapshot.capturedAt.atMost asOf = true ∧
      answer ≠ .ok e.snapshot ∧
      (e.isFresh c.cache.ttl now = true ∨
        c.serveStale = true ∧ ∃ x, answer = .error x ∧ x.isTransient = true) := by
  cases hu : c.usable? now key asOf with
  | none =>
    have hlate := usable?_eq_none_iff.1 hu
    have hkept : (c.fetch now key asOf answer).1 = answer := by
      rw [fetch, hu]
      exact settle_fst_eq_iff.2 (by simp)
    refine iff_of_true hkept ?_
    rintro ⟨e, he, htaken, -⟩
    rw [hlate e he] at htaken
    cases htaken
  | some p =>
    obtain ⟨s, fresh⟩ := p
    obtain ⟨e, he, htaken, rfl, hfresh⟩ := usable?_eq_some_iff.1 hu
    have honly (e') (he' : c.cache.peek? key = some e') : e' = e :=
      Option.some.inj (he'.symm.trans he)
    cases fresh with
    | true =>
      have hserved : (c.fetch now key asOf answer).1 = .ok e.snapshot := by rw [fetch, hu]
      rw [hserved]
      constructor
      · rintro hs ⟨e', he', -, hne, -⟩
        exact hne (honly e' he' ▸ hs.symm)
      · intro h
        by_cases hs : answer = .ok e.snapshot
        · exact hs.symm
        · exact absurd ⟨e, he, htaken, hs, .inl hfresh⟩ h
    | false =>
      rw [fetch, hu, settle_fst_eq_iff]
      refine not_congr ⟨?_, ?_⟩
      · rintro ⟨s, x, -, hstale, hx, ht⟩
        exact ⟨e, he, htaken, by simp [hx], .inr ⟨hstale, x, hx, ht⟩⟩
      · rintro ⟨e', he', -, -, hf | ⟨hstale, x, hx, ht⟩⟩
        · rw [honly e' he', hfresh] at hf
          cases hf
        · exact ⟨e.snapshot, x, rfl, hstale, hx, ht⟩

theorem mem_entries_settle {found : Option Snapshot} {e : CacheEntry}
    (h : e ∈ (c.settle now found answer).2.cache.entries) :
    e ∈ c.cache.entries ∨ ∃ s, answer = .ok s ∧ e = ⟨s, now⟩ := by
  cases answer with
  | ok s => exact (Cache.mem_entries_insertIfNewer? h).symm.imp_right fun h => ⟨s, rfl, h⟩
  | error x =>
    cases found with
    | none => exact .inl h
    | some s =>
      rw [settle] at h
      split at h
      · exact .inl h
      · exact .inl h

/-- A question adds an entry with what was answered, at the time of the question, and no other. -/
theorem mem_entries_fetch {e : CacheEntry}
    (h : e ∈ (c.fetch now key asOf answer).2.cache.entries) :
    e ∈ c.cache.entries ∨ ∃ s, answer = .ok s ∧ e = ⟨s, now⟩ := by
  have touched (he : e ∈ (c.cache.lookup? now key).2.entries) : e ∈ c.cache.entries :=
    Cache.mem_entries_touch he
  rw [fetch] at h
  split at h
  · exact .inl (touched h)
  · exact (mem_entries_settle h).imp_left touched
  · exact (mem_entries_settle h).imp_left touched

/-- The rules of a caching source: how long an entry is fresh, and whether it may be served
later. -/
def rules (c : CachingSource) : Duration × Bool := (c.cache.ttl, c.serveStale)

/-- How a caching source is set up: the limits of its cache, and whether an entry may be served that
is not fresh. -/
def setup (c : CachingSource) : (Nat × Duration) × Bool := (c.cache.limits, c.serveStale)

theorem setup_settle (c : CachingSource) (now : Duration) (found : Option Snapshot)
    (answer : Fetch) : (c.settle now found answer).2.setup = c.setup := by
  cases answer with
  | ok s => simp [settle, setup]
  | error x =>
    cases found with
    | none => rfl
    | some s =>
      rw [settle]
      split <;> rfl

/-- A question does not change how a caching source is set up. -/
@[simp]
theorem setup_fetch (c : CachingSource) (now : Duration) (key : Key) (asOf : Instant)
    (answer : Fetch) : (c.fetch now key asOf answer).2.setup = c.setup := by
  have touched : setup { c with cache := (c.cache.lookup? now key).2 } = c.setup := by
    simp [setup, Cache.lookup?]
  rw [fetch]
  split
  · exact touched
  · rw [setup_settle]; exact touched
  · rw [setup_settle]; exact touched

end CachingSource

/-! ### Questions one after the other -/

/-- A question to a caching source. -/
structure CachedRead where
  /-- The reading of the clock when the question is asked. -/
  now : Duration
  /-- The key that is asked for. -/
  key : Key
  /-- The instant that is asked for. -/
  asOf : Instant

namespace CachingSource

variable (source : Key → Instant → Fetch)

/-- The answer to a question before the given source, and the caching source afterwards. -/
def read (c : CachingSource) (r : CachedRead) : Fetch × CachingSource :=
  c.fetch r.now r.key r.asOf (source r.key r.asOf)

/-- The caching source after questions one after the other. -/
def afterReads (c : CachingSource) (reads : List CachedRead) : CachingSource :=
  reads.foldl (fun c r => (c.read source r).2) c

/-- What is cached was cached before, or it was answered to one of the questions at its time. -/
theorem mem_entries_afterReads {reads : List CachedRead} {c : CachingSource} {e : CacheEntry}
    (h : e ∈ (c.afterReads source reads).cache.entries) :
    e ∈ c.cache.entries ∨
      ∃ q ∈ reads, source q.key q.asOf = .ok e.snapshot ∧ e.storedAt = q.now := by
  induction reads generalizing c with
  | nil => exact .inl h
  | cons r reads ih =>
    rcases ih h with h | ⟨q, hq, hs, hat⟩
    · rcases mem_entries_fetch h with h | ⟨s, hs, rfl⟩
      · exact .inl h
      · exact .inr ⟨r, List.mem_cons_self, hs, rfl⟩
    · exact .inr ⟨q, List.mem_cons_of_mem r hq, hs, hat⟩

/-- What is cached after questions to a new caching source was answered to one of them. -/
theorem loaded_afterReads {g : CacheConfig} {reads : List CachedRead} {e : CacheEntry}
    (h : e ∈ ((ofConfig g).afterReads source reads).cache.entries) :
    ∃ q ∈ reads, source q.key q.asOf = .ok e.snapshot ∧ e.storedAt = q.now :=
  (mem_entries_afterReads source h).resolve_left (List.not_mem_nil)

theorem rules_afterReads (g : CacheConfig) (reads : List CachedRead) :
    ((ofConfig g).afterReads source reads).rules = (g.ttl, g.serveStale) := by
  have run (c : CachingSource) : (c.afterReads source reads).setup = c.setup := by
    induction reads generalizing c with
    | nil => rfl
    | cons r reads ih => exact (ih _).trans (setup_fetch ..)
  exact congrArg (fun p => (p.1.2, p.2)) (run (ofConfig g))

/-- In place of the answer to a question, a snapshot is served that was loaded for an earlier one:
it is still cached under the key, it had been taken by the instant asked for, and either it is fresh
or it may be served stale and the source fails for now. -/
def Outlived (g : CacheConfig) (earlier : List CachedRead) (r : CachedRead) : Prop :=
  ∃ q ∈ earlier, ∃ s, source q.key q.asOf = .ok s ∧
    ((ofConfig g).afterReads source earlier).cache.peek? r.key = some ⟨s, q.now⟩ ∧
    s.capturedAt.atMost r.asOf = true ∧ source r.key r.asOf ≠ .ok s ∧
    (CacheEntry.isFresh g.ttl r.now ⟨s, q.now⟩ = true ∨
      g.serveStale = true ∧ ∃ x, source r.key r.asOf = .error x ∧ x.isTransient = true)

/-- A new caching source answers after earlier questions as the source behind it would, unless a
snapshot of an earlier question is served. -/
theorem read_fst_eq_iff (g : CacheConfig) (earlier : List CachedRead) (r : CachedRead) :
    (((ofConfig g).afterReads source earlier).read source r).1 = source r.key r.asOf ↔
      ¬Outlived source g earlier r := by
  obtain ⟨httl, hstale⟩ := Prod.mk.inj (rules_afterReads source g earlier)
  rw [read, fetch_fst_eq_iff, httl, hstale]
  refine not_congr ⟨?_, ?_⟩
  · rintro ⟨⟨s, storedAt⟩, he, htaken, hne, hserved⟩
    obtain ⟨q, hq, hs, rfl⟩ := loaded_afterReads source (Cache.mem_of_peek? he).1
    exact ⟨q, hq, s, hs, he, htaken, hne, hserved⟩
  · rintro ⟨q, -, s, -, he, htaken, hne, hserved⟩
    exact ⟨⟨s, q.now⟩, he, htaken, hne, hserved⟩

/-! ### Before an archive in memory -/

/-- A fresh snapshot of an earlier question is served, although the archive holds a later one that
was taken between the two instants asked for. -/
def Overtaken (m : Memory) (g : CacheConfig) (earlier : List CachedRead) (r : CachedRead) : Prop :=
  ∃ q ∈ earlier, q.key = r.key ∧ ∃ s t,
    m.fetch q.key q.asOf = .ok s ∧ m.fetch r.key r.asOf = .ok t ∧
    s.capturedAt.atMost r.asOf = true ∧ t.capturedAt.atMost q.asOf = false ∧
    ((ofConfig g).afterReads m.fetch earlier).cache.peek? r.key = some ⟨s, q.now⟩ ∧
    CacheEntry.isFresh g.ttl r.now ⟨s, q.now⟩ = true

/-- An archive in memory never fails for now, so nothing stale is served. -/
theorem outlived_iff_overtaken {m : Memory} (hm : m.Filed) (g : CacheConfig)
    (earlier : List CachedRead) (r : CachedRead) :
    Outlived m.fetch g earlier r ↔ Overtaken m g earlier r := by
  constructor
  · rintro ⟨q, hq, s, hs, he, htaken, hne, hserved⟩
    have hkey : q.key = r.key := (hm.key_of_fetch hs).symm.trans (Cache.mem_of_peek? he).2
    obtain ⟨t, ht, hlater⟩ := (Memory.fetch_ne_ok_iff (hkey ▸ hs) htaken).1 hne
    refine ⟨q, hq, hkey, s, t, hs, ht, htaken, hlater, he, ?_⟩
    rcases hserved with hfresh | ⟨-, x, hx, -⟩
    · exact hfresh
    · rw [ht] at hx
      cases hx
  · rintro ⟨q, hq, hkey, s, t, hs, ht, htaken, hlater, he, hfresh⟩
    have hne := (Memory.fetch_ne_ok_iff (hkey ▸ hs) htaken).2 ⟨t, ht, hlater⟩
    exact ⟨q, hq, s, hs, he, htaken, hne, .inl hfresh⟩

/-- After any questions a caching source answers as the source behind it would, unless a snapshot of
an earlier question has outlived its time in the cache.  Before an archive in memory, whatever its
history, this is a fresh snapshot that a later one has overtaken. -/
theorem read_eq_source_iff (g : CacheConfig) (earlier : List CachedRead) (r : CachedRead) :
    (∀ source : Key → Instant → Fetch,
      (((ofConfig g).afterReads source earlier).read source r).1 = source r.key r.asOf ↔
        ¬Outlived source g earlier r) ∧
    ∀ changes : List Memory.Change,
      let m := Memory.empty.after changes
      (((ofConfig g).afterReads m.fetch earlier).read m.fetch r).1 = m.fetch r.key r.asOf ↔
        ¬Overtaken m g earlier r := by
  refine ⟨fun source => read_fst_eq_iff source g earlier r, fun changes => ?_⟩
  have hm : (Memory.empty.after changes).Filed := Memory.filed_after changes
  exact (read_fst_eq_iff _ g earlier r).trans (not_congr (outlived_iff_overtaken hm g earlier r))

/-- A version of the snapshot of one provider, taken on a day of June 2024. -/
def juneVersion (version : UInt64) (day : Nat) (h : 1 ≤ day ∧ day ≤ 30) : Snapshot where
  provenanceId := 1
  code := "a"
  taskType := "harvest"
  operation := "search"
  version := version
  capturedAt := ⟨⟨⟨2024, 6, day, by decide, by decide, h⟩, .midnight⟩⟩
  declarations := []
  dialect := .standard
  rules := []

/-- Two versions were taken on the first and on the tenth.  A question about the fifth is answered
with the first version; asked then about the fifteenth, the caching source gives the first version
again, and the archive would have given the second. -/
theorem read_after_past_read :
    let first := juneVersion 1 1 (by decide)
    let second := juneVersion 2 10 (by decide)
    let m := Memory.empty.after [.insert first, .insert second]
    let fifth : CachedRead := ⟨.zero, first.key, (juneVersion 1 5 (by decide)).capturedAt⟩
    let fifteenth : CachedRead := ⟨.zero, first.key, (juneVersion 1 15 (by decide)).capturedAt⟩
    let answer := (((ofConfig .standard).afterReads m.fetch [fifth]).read m.fetch fifteenth).1
    answer = .ok first ∧ m.fetch fifteenth.key fifteenth.asOf = .ok second ∧
      answer ≠ m.fetch fifteenth.key fifteenth.asOf := by
  intro first second m fifth fifteenth answer
  have hserved : answer = .ok first := by
    simp only [answer]
    cbv
  have hheld : m.fetch fifteenth.key fifteenth.asOf = .ok second := by cbv
  refine ⟨hserved, hheld, ?_⟩
  rw [hserved, hheld, ne_eq, Except.ok.injEq]
  decide

end CachingSource

end BiblioQuery
