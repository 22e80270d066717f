import BiblioQuery.Proofs.Archive.ServedSnapshots

/-!
# Versions in the cache

What a caching source loads for a question never takes the place of a snapshot with a higher
version, whatever instants are asked for, however late the answers are, and whether or not the
cached snapshot is still fresh.  So the version under a key only grows while the key has an entry.
It starts anew once the entry was dropped or driven out, and only two operations store over a higher
version: loading a key again, and storing directly.

## Main definitions

* `CachingSource.Event.isGuarded` : the operation does not store over a higher version.

## Main results

* `CachingSource.version_le_of_step` : a guarded operation lowers no version.
* `CachingSource.version_le_of_afterRun` : the versions of a key while it has an entry.
* `CachingSource.peek?_fetch_ok` : what is cached after a snapshot was loaded for a question.
* `CachingSource.versions_after_run` : the versions of a key in a run, and of what is loaded.
-/

namespace BiblioQuery

/-- A cache admits a snapshot unless it has one of the same key with a higher version. -/
theorem Cache.admits_eq_false_iff {c : Cache} {s : Snapshot} :
    c.admits s = false ↔ ∃ e, c.peek? s.key = some e ∧ s.version < e.snapshot.version := by
  rw [admits]
  cases c.peek? s.key with
  | none => simp
  | some e => simp

namespace CachingSource

variable {c : CachingSource} {now : Duration} {key : Key} {asOf : Instant} {x : Event}
variable {s : Snapshot} {e e' : CacheEntry} {run : List Event}

/-! ### Guarded operations -/

/-- The operation does not store over a higher version: it neither loads a key again nor stores a
snapshot directly. -/
def Event.isGuarded (x : Event) : Bool :=
  match x.action with
  | .refresh _ _ | .direct (.insert _) => false
  | _ => true

/-- What a guarded operation stores was admitted. -/
theorem admits_of_stored? (hx : x.isGuarded = true) (h : c.stored? x = some s) :
    c.cache.admits s = true := by
  obtain ⟨now, a⟩ := x
  cases a with
  | fetch key asOf answer =>
    simp only [stored?, fetched?] at h
    split at h
    · exact (Option.filter_eq_some_iff.1 h).2
    · cases h
  | refresh key answer => cases hx
  | invalidate key => cases h
  | invalidateAll => cases h
  | direct a =>
    cases a with
    | insert t => cases hx
    | insertIfNewer t =>
      simp only [stored?, Cache.stored?] at h
      split at h
      · next hadmits => exact Option.some.inj h ▸ hadmits
      · cases h
    | _ => cases h

/-- A guarded operation lowers no version. -/
theorem version_le_of_step (hx : x.isGuarded = true) (he : c.cache.peek? key = some e)
    (he' : (c.step x).cache.peek? key = some e') : e.snapshot.version ≤ e'.snapshot.version := by
  obtain ⟨hmem, hkey⟩ := Cache.mem_of_peek? he'
  rcases mem_entries_step hmem with hold | ⟨s, hs, rfl⟩
  · have hsame := he.symm.trans (Cache.peek?_eq_some_iff.2 ⟨hold, hkey⟩)
    exact UInt64.le_of_eq (congrArg (·.snapshot.version) (Option.some.inj hsame))
  · have hadmits := admits_of_stored? hx hs
    by_contra hlower
    have hrefused : c.cache.admits s = false :=
      Cache.admits_eq_false_iff.2 ⟨e, (congrArg _ hkey).trans he, UInt64.not_le.1 hlower⟩
    rw [hadmits] at hrefused
    cases hrefused

/-- Guarded operations lower no version of a key that has an entry all the time. -/
theorem version_le_of_afterRun (hrun : ∀ x ∈ run, x.isGuarded = true)
    (hheld : ∀ before, before <+: run → (c.afterRun before).cache.contains key = true)
    (he : c.cache.peek? key = some e) (he' : (c.afterRun run).cache.peek? key = some e') :
    e.snapshot.version ≤ e'.snapshot.version := by
  induction run generalizing c e with
  | nil =>
    have hsame := he.symm.trans he'
    exact UInt64.le_of_eq (congrArg (·.snapshot.version) (Option.some.inj hsame))
  | cons x run ih =>
    obtain ⟨hx, hrun⟩ := List.forall_mem_cons.1 hrun
    obtain ⟨e₁, he₁⟩ := Option.isSome_iff_exists.1 (hheld [x] ⟨run, rfl⟩)
    have hstep := version_le_of_step hx he he₁
    refine UInt64.le_trans hstep (ih hrun (fun before hbefore => ?_) he₁ he')
    exact hheld (x :: before) (List.cons_prefix_cons.2 ⟨rfl, hbefore⟩)

/-! ### Loaded snapshots -/

/-- A snapshot that was loaded for a question is cached under its key, unless the cache has one with
a higher version; then that one stays. -/
theorem peek?_fetch_ok (h : c.asks now key asOf = true) :
    (c.fetch now key asOf (.ok s)).2.cache.peek? s.key =
      if c.cache.admits s then some ⟨s, now⟩ else c.cache.peek? s.key := by
  have hentries := c.entries_fetch now key asOf (.ok s)
  rw [fetched?, if_pos h] at hentries
  cases hadmits : c.cache.admits s with
  | true =>
    simp only [Except.toOption, Option.filter, hadmits, if_true] at hentries
    exact (Cache.peek?_congr (fun e => by rw [hentries]) _).trans (Cache.peek?_push _ ⟨s, now⟩)
  | false =>
    simp only [Except.toOption, Option.filter, hadmits, Bool.false_eq_true, if_false] at hentries
    refine Cache.peek?_congr (fun e => ?_) _
    rw [hentries]
    exact (c.cache.perm_entries_touch key).mem_iff

/-! ### In a run -/

/-- In any run of guarded operations, as all questions are, the version under a key grows while the
key has an entry.  And when the source behind is asked in it, the snapshot that it answers with is
passed on, and it is cached unless the cache has, and keeps, one of its key with a higher
version. -/
theorem versions_after_run (hrun : ∀ x ∈ run, x.isGuarded = true) :
    (∀ key e e', c.cache.peek? key = some e → (c.afterRun run).cache.peek? key = some e' →
      (∀ before, before <+: run → (c.afterRun before).cache.contains key = true) →
      e.snapshot.version ≤ e'.snapshot.version) ∧
    ∀ now key asOf s, (c.afterRun run).asks now key asOf = true →
      ((c.afterRun run).fetch now key asOf (.ok s)).1 = .ok s ∧
      let kept := ((c.afterRun run).fetch now key asOf (.ok s)).2.cache.peek? s.key
      kept = some ⟨s, now⟩ ∨ ∃ e, kept = some e ∧ (c.afterRun run).cache.peek? s.key = some e ∧
        s.version < e.snapshot.version := by
  refine ⟨fun key e e' he he' hheld => version_le_of_afterRun hrun hheld he he',
    fun now key asOf s hasks => ⟨fetch_fst_of_ok hasks, ?_⟩⟩
  rw [peek?_fetch_ok hasks]
  cases hadmits : (c.afterRun run).cache.admits s with
  | true => exact .inl rfl
  | false =>
    obtain ⟨e, he, hlower⟩ := Cache.admits_eq_false_iff.1 hadmits
    exact .inr ⟨e, he, he, hlower⟩

/-- The second version is cached.  Seconds later, when it is no longer fresh, a question about an
earlier day is answered with the first version, which is not kept, and one about a later day with
the third, which is.  A last question about the early day is again answered with the first version,
and the third one stays. -/
theorem versions_after_run_late_answer :
    let first := juneVersion 1 1 (by decide)
    let second := juneVersion 2 10 (by decide)
    let third := juneVersion 3 20 (by decide)
    let early := (juneVersion 1 5 (by decide)).capturedAt
    let late := (juneVersion 1 30 (by decide)).capturedAt
    let c := (ofConfig ⟨2, .ofSeconds 1, true⟩).afterRun
      [⟨.zero, .fetch first.key late (.ok second)⟩]
    let run : List Event := [⟨.ofSeconds 4, .fetch first.key early (.ok first)⟩,
      ⟨.ofSeconds 5, .fetch first.key late (.ok third)⟩]
    (∀ x ∈ run, x.isGuarded = true) ∧
      c.cache.peek? first.key = some ⟨second, .zero⟩ ∧
      (c.afterRun run).cache.peek? first.key = some ⟨third, .ofSeconds 5⟩ ∧
      second.version ≤ third.version ∧
      (c.afterRun run).asks (.ofSeconds 6) first.key early = true ∧
      ((c.afterRun run).fetch (.ofSeconds 6) first.key early (.ok first)).1 = .ok first ∧
      ∃ e, ((c.afterRun run).fetch (.ofSeconds 6) first.key early (.ok first)).2.cache.peek?
          first.key = some e ∧ first.version < e.snapshot.version := by
  intro first second third early late c run
  have hrun : ∀ x ∈ run, x.isGuarded = true := by simp [run, Event.isGuarded]
  have hbefore : c.cache.peek? first.key = some ⟨second, .zero⟩ := by cbv
  have hafter : (c.afterRun run).cache.peek? first.key = some ⟨third, .ofSeconds 5⟩ := by cbv
  have hheld : ∀ before, before <+: run →
      (c.afterRun before).cache.contains first.key = true := by
    intro before hprefix
    simp only [run, List.prefix_cons_iff, List.prefix_nil] at hprefix
    rcases hprefix with rfl | ⟨_, rfl, rfl | ⟨_, rfl, rfl⟩⟩
    · cbv
    · cbv
    · cbv
  have hasks : (c.afterRun run).asks (.ofSeconds 6) first.key early = true := by cbv
  have hrefused : (c.afterRun run).cache.admits first = false :=
    Cache.admits_eq_false_iff.2 ⟨_, hafter, by decide⟩
  have hkept :
      ((c.afterRun run).fetch (.ofSeconds 6) first.key early (.ok first)).2.cache.peek?
        first.key = some ⟨third, .ofSeconds 5⟩ := by
    rw [peek?_fetch_ok hasks, hrefused]
    exact hafter
  obtain ⟨hversions, hloaded⟩ := versions_after_run (c := c) hrun
  obtain ⟨hserved, hcached⟩ := hloaded (.ofSeconds 6) first.key early first hasks
  refine ⟨hrun, hbefore, hafter, hversions _ _ _ hbefore hafter hheld, hasks, hserved, ?_⟩
  rcases hcached with hfirst | ⟨e, he, -, hlower⟩
  · have hversion : (3 : UInt64) = 1 :=
      congrArg (·.snapshot.version) (Option.some.inj (hkept.symm.trans hfirst))
    exact absurd hversion (by decide)
  · exact ⟨e, he, hlower⟩

end CachingSource

end BiblioQuery
