import BiblioQuery.Proofs.Archive.CacheRuns

/-!
# What a caching source serves

Whatever was done to a caching source and to its cache before, a question is never answered with a
snapshot of another key, or with one that was taken after the instant asked for.  This takes nothing
but that the source behind keeps to it: an entry is filed under the key of its snapshot, and one
that was taken too late is passed over.  If the source behind is not asked, the snapshot was stored
no longer ago than entries are fresh.  If it fails, the cached snapshot is served only where that is
allowed and the failure is passing, and the entries stay as they are.

## Main results

* `CachingSource.exists_fresh_of_not_asks` : what is served without asking.
* `CachingSource.fetch_fst_of_error` : what is answered after a failure.
* `CachingSource.perm_entries_fetch_error` : a failure leaves the entries as they are.
* `CachingSource.served_after_run` : what is served after any run.
-/

namespace BiblioQuery

/-- A failure is passing if the source could not be reached or did not answer in time. -/
theorem SourceError.isTransient_iff {x : SourceError} : x.isTransient = true ↔
    (∃ message, x = .unavailable message) ∨ ∃ after, x = .timeout after := by
  cases x <;> simp [isTransient]

namespace CacheEntry

/-- An entry is fresh if it was stored less than the given time ago. -/
theorem isFresh_iff {ttl now : Duration} {e : CacheEntry} (h : e.storedAt.nanos ≤ now.nanos) :
    e.isFresh ttl now = true ↔ now.nanos < e.storedAt.nanos + ttl.nanos := by
  rw [isFresh, decide_eq_true_eq]
  omega

end CacheEntry

namespace CachingSource

variable {c : CachingSource} {now : Duration} {key : Key} {asOf : Instant} {answer : Fetch}
variable {s : Snapshot} {x : SourceError}

/-! ### One question -/

/-- Without asking, the fresh entry of the key is served, if its snapshot had been taken. -/
theorem exists_fresh_of_not_asks (answer : Fetch) (h : c.asks now key asOf = false) :
    ∃ e, c.cache.peek? key = some e ∧ e.isFresh c.cache.ttl now = true ∧
      e.snapshot.capturedAt.atMost asOf = true ∧
      (c.fetch now key asOf answer).1 = .ok e.snapshot := by
  rw [asks] at h
  rw [fetch]
  split at h
  · next s hs =>
    obtain ⟨e, he, htaken, rfl, hfresh⟩ := usable?_eq_some_iff.1 hs
    exact ⟨e, he, hfresh, htaken, by rw [hs]⟩
  · cases h

/-- What the source behind answers is passed on. -/
theorem fetch_fst_of_ok (h : c.asks now key asOf = true) :
    (c.fetch now key asOf (.ok s)).1 = .ok s := by
  rw [asks] at h
  rw [fetch]
  rcases hu : c.usable? now key asOf with _ | ⟨t, _ | _⟩
  · rfl
  · rfl
  · rw [hu] at h
    cases h

/-- A failure of the source behind is passed on, unless it is passing and the cached snapshot, which
is not fresh but had been taken, may be served. -/
theorem fetch_fst_of_error (h : c.asks now key asOf = true) :
    (c.fetch now key asOf (.error x)).1 = .error x ∨
      x.isTransient = true ∧ c.serveStale = true ∧ ∃ e, c.cache.peek? key = some e ∧
        e.snapshot.capturedAt.atMost asOf = true ∧
        (c.fetch now key asOf (.error x)).1 = .ok e.snapshot := by
  rw [asks] at h
  rcases hu : c.usable? now key asOf with _ | ⟨t, _ | _⟩
  · left
    rw [fetch, hu]
    rfl
  · obtain ⟨e, he, htaken, rfl, -⟩ := usable?_eq_some_iff.1 hu
    rw [fetch, hu]
    dsimp only
    rw [settle]
    split
    · next hstale =>
      obtain ⟨hserve, htransient⟩ := Bool.and_eq_true_iff.1 hstale
      exact .inr ⟨htransient, hserve, e, he, htaken, rfl⟩
    · exact .inl rfl
  · rw [hu] at h
    cases h

/-- A failure of the source behind changes no entry and no time. -/
theorem perm_entries_fetch_error (c : CachingSource) (now : Duration) (key : Key) (asOf : Instant)
    (x : SourceError) :
    (c.fetch now key asOf (.error x)).2.cache.entries.Perm c.cache.entries := by
  have hnone : c.fetched? now key asOf (.error x) = none := by
    rw [fetched?]
    split <;> rfl
  rw [entries_fetch, hnone]
  exact c.cache.perm_entries_touch key

/-- The answer to a question has the key that was asked for and had been taken by the instant asked
for, if the answer of the source behind has. -/
theorem key_and_taken_of_fetch
    (hsource : ∀ s, answer = .ok s → s.key = key ∧ s.capturedAt.atMost asOf = true)
    (h : (c.fetch now key asOf answer).1 = .ok s) :
    s.key = key ∧ s.capturedAt.atMost asOf = true := by
  have hcached {e : CacheEntry} (he : c.cache.peek? key = some e) : e.snapshot.key = key :=
    (Cache.mem_of_peek? he).2
  cases hasks : c.asks now key asOf with
  | false =>
    obtain ⟨e, he, -, htaken, hserved⟩ := exists_fresh_of_not_asks answer hasks
    obtain rfl := Except.ok.inj (hserved.symm.trans h)
    exact ⟨hcached he, htaken⟩
  | true =>
    cases answer with
    | ok t =>
      obtain rfl := Except.ok.inj ((fetch_fst_of_ok hasks).symm.trans h)
      exact hsource t rfl
    | error x =>
      rcases fetch_fst_of_error (x := x) hasks with hfailed | ⟨-, -, e, he, htaken, hserved⟩
      · rw [hfailed] at h
        cases h
      · obtain rfl := Except.ok.inj (hserved.symm.trans h)
        exact ⟨hcached he, htaken⟩

/-! ### After a run -/

/-- The entry of a key after a run was put there by one of the operations, at its time. -/
theorem exists_stored_of_peek? {g : CacheConfig} {run : List Event} {e : CacheEntry}
    (h : ((ofConfig g).afterRun run).cache.peek? key = some e) :
    ∃ before y later, run = before ++ y :: later ∧
      ((ofConfig g).afterRun before).stored? y = some e.snapshot ∧ y.now = e.storedAt :=
  (exists_stored_of_mem (Cache.mem_of_peek? h).1).resolve_left List.not_mem_nil

/-- After any run, with a clock that does not go back, a question is answered with a snapshot of its
key that had been taken by its instant.  If the source behind is not asked, this is the cached
snapshot, which was stored less than the given time ago.  If it is asked, its answer is passed on,
except that the cached snapshot may be served if that is allowed and the source could not be reached
or did not answer in time.  A failure, also when a key is asked for again, leaves all entries and
their times as they were. -/
theorem served_after_run (g : CacheConfig) {run : List Event}
    (hclock : ∀ y ∈ run, y.now.nanos ≤ now.nanos)
    (hsource : ∀ s, answer = .ok s → s.key = key ∧ s.capturedAt.atMost asOf = true) :
    let c := (ofConfig g).afterRun run
    let served := (c.fetch now key asOf answer).1
    (∀ s, served = .ok s → s.key = key ∧ s.capturedAt.atMost asOf = true) ∧
    (c.asks now key asOf = false → ∃ s before y later, served = .ok s ∧
      run = before ++ y :: later ∧ ((ofConfig g).afterRun before).stored? y = some s ∧
      c.cache.peek? key = some ⟨s, y.now⟩ ∧
      y.now.nanos ≤ now.nanos ∧ now.nanos < y.now.nanos + g.ttl.nanos) ∧
    (c.asks now key asOf = true →
      (∀ s, answer = .ok s → served = .ok s) ∧
      (∀ k, answer = .error (.notFound k) → served = .error (.notFound k)) ∧
      (∀ m, answer = .error (.invalid m) → served = .error (.invalid m)) ∧
      ∀ x, answer = .error x → served = .error x ∨
        ((∃ m, x = .unavailable m) ∨ ∃ d, x = .timeout d) ∧ g.serveStale = true ∧
          ∃ e, c.cache.peek? key = some e ∧ served = .ok e.snapshot) ∧
    ∀ x, answer = .error x →
      (c.fetch now key asOf answer).2.cache.entries.Perm c.cache.entries ∧
        (c.refresh now key answer).2.cache.entries = c.cache.entries := by
  intro c served
  obtain ⟨httl, hstale⟩ : c.cache.ttl = g.ttl ∧ c.serveStale = g.serveStale :=
    Prod.mk.inj (rules_afterRun g run)
  have hpassed (x : SourceError) (hasks : c.asks now key asOf = true) (hx : answer = .error x) :
      served = .error x ∨ x.isTransient = true ∧ g.serveStale = true ∧
        ∃ e, c.cache.peek? key = some e ∧ served = .ok e.snapshot := by
    subst hx
    refine (fetch_fst_of_error hasks).imp_right fun hserved => ?_
    obtain ⟨htransient, hserve, e, he, -, hserved⟩ := hserved
    exact ⟨htransient, hstale ▸ hserve, e, he, hserved⟩
  refine ⟨fun s => key_and_taken_of_fetch hsource, fun hasks => ?_, fun hasks => ⟨?_, ?_, ?_, ?_⟩,
    ?_⟩
  · obtain ⟨⟨s, storedAt⟩, he, hfresh, -, hserved⟩ := exists_fresh_of_not_asks answer hasks
    obtain ⟨before, y, later, hrun, hstored, rfl⟩ := exists_stored_of_peek? he
    have hpast : y.now.nanos ≤ now.nanos := hclock y (by simp [hrun])
    rw [httl, CacheEntry.isFresh_iff hpast] at hfresh
    exact ⟨s, before, y, later, hserved, hrun, hstored, he, hpast, hfresh⟩
  · rintro s rfl
    exact fetch_fst_of_ok hasks
  · intro k hk
    exact (hpassed _ hasks hk).resolve_right fun h => nomatch h.1
  · intro m hm
    exact (hpassed _ hasks hm).resolve_right fun h => nomatch h.1
  · intro x hx
    exact (hpassed x hasks hx).imp_right fun h => ⟨SourceError.isTransient_iff.1 h.1, h.2⟩
  · rintro x rfl
    exact ⟨c.perm_entries_fetch_error now key asOf x, rfl⟩

/-- A snapshot is loaded, and one that was taken later is stored and dropped again.  Then the first
one is loaded once more; two seconds later, when it is no longer fresh and the source behind cannot
be reached, it is served from the entry that stays. -/
theorem served_after_run_stale :
    let first := juneVersion 1 1 (by decide)
    let later := juneVersion 2 30 (by decide)
    let asOf := (juneVersion 1 15 (by decide)).capturedAt
    let g : CacheConfig := ⟨1, .ofSeconds 1, true⟩
    let load : Action := .fetch first.key asOf (.ok first)
    let run : List Event := [⟨.zero, load⟩, ⟨.ofSeconds 1, .direct (.insert later)⟩,
      ⟨.ofSeconds 1, .invalidate first.key⟩, ⟨.ofSeconds 2, load⟩]
    let now := Duration.ofSeconds 4
    let answer : Fetch := .error (.unavailable "down")
    let c := (ofConfig g).afterRun run
    let served := (c.fetch now first.key asOf answer).1
    (∀ y ∈ run, y.now.nanos ≤ now.nanos) ∧
      (∀ s, answer = .ok s → s.key = first.key ∧ s.capturedAt.atMost asOf = true) ∧
      c.asks now first.key asOf = true ∧ served = .ok first ∧
      first.capturedAt.atMost asOf = true ∧
      c.cache.peek? first.key = some ⟨first, .ofSeconds 2⟩ ∧
      (c.fetch now first.key asOf answer).2.cache.entries.Perm c.cache.entries := by
  intro first later asOf g load run now answer
  dsimp only
  have hclock : ∀ y ∈ run, y.now.nanos ≤ now.nanos := by
    simp [run, now, Duration.zero, Duration.ofSeconds]
  have hsource : ∀ s, answer = .ok s → s.key = first.key ∧ s.capturedAt.atMost asOf = true := by
    simp [answer]
  obtain ⟨hfound, -, -, hkept⟩ := served_after_run g hclock hsource
  obtain ⟨hentries, -⟩ := hkept (.unavailable "down") rfl
  have hserved :
      (((ofConfig g).afterRun run).fetch now first.key asOf answer).1 = .ok first := by
    cbv
  exact ⟨hclock, hsource, by cbv, hserved, (hfound first hserved).2, by cbv, hentries⟩

end CachingSource

end BiblioQuery
