import BiblioQuery.Proofs.Archive.CacheRuns

/-!
# The order of use in a cache

A cache lists its entries by their last use, the latest in front.  Storing a snapshot, looking its
entry up and getting it while it is fresh are uses; asking whether there is an entry and a snapshot
that is not taken are none.  So the entry that a full cache drives out for a snapshot of a new key
is the one whose last use is the oldest, and no entry disappears in any other way than by this or by
an operation that is there to drop it.

## Main definitions

* `Cache.Request`, `Cache.Event`, `Cache.afterRun` : a cache in use.
* `Cache.used?`, `Cache.uses` : the keys that are used, one after the other.
* `Cache.UsedEarlier` : one key was used last before another one was.
* `Cache.drops`, `Cache.DrivesOut` : the two ways in which an entry disappears.
* `Cache.drivenOut`, `Cache.drivenOutSince` : the entries lost to snapshots of other keys.
* `Cache.Finding`, `Cache.finding?` : what an operation finds, if that is counted.

## Main results

* `Cache.effect` : what an operation does to the entries.
* `Cache.Ordered.afterRun` : the entries are in the order of their last uses.
* `Cache.contains_step_eq_false_iff` : which entries disappear in an operation.
* `Cache.counters_act` : what an operation counts.
* `Cache.evictions_afterRun` : what the counter of entries driven out counts.
* `Cache.entries_after_run` : the entries of a cache in use.
-/

namespace BiblioQuery.Cache

open CacheEntry

/-! ### A cache in use -/

/-- What is asked of a cache. -/
inductive Request where
  /-- It is asked whether there is an entry of a key. -/
  | contains (key : Key)
  /-- The cache is operated on. -/
  | act (a : Action)

/-- A request at its time. -/
structure Event where
  /-- The reading of the clock. -/
  now : Duration
  /-- What is asked. -/
  request : Request

/-- The cache after a request. -/
def step (c : Cache) (x : Event) : Cache :=
  match x.request with
  | .contains _ => c
  | .act a => c.act x.now a

/-- The cache after requests one after the other. -/
def afterRun (c : Cache) (run : List Event) : Cache := run.foldl step c

/-- The snapshot that a request puts into the cache, if it does. -/
def placed? (c : Cache) (x : Event) : Option Snapshot :=
  match x.request with
  | .contains _ => none
  | .act a => c.stored? a

/-- The key whose entry is used by a request: it is looked up and there is one, it is got and there
is a fresh one, or a snapshot of it is stored. -/
def used? (c : Cache) (x : Event) : Option Key :=
  match x.request with
  | .contains _ => none
  | .act (.lookup key) => if (c.lookup? x.now key).1.isSome then some key else none
  | .act (.get key) => if (c.get? x.now key).1.isSome then some key else none
  | .act a => (c.stored? a).map Snapshot.key

/-- The keys used in a run, one after the other. -/
def uses (c : Cache) : List Event → List Key
  | [] => []
  | x :: run => (c.used? x).toList ++ (c.step x).uses run

/-- Of keys used one after the other, the first of two was used last before the second was. -/
def UsedEarlier (uses : List Key) (k l : Key) : Prop :=
  ∃ earlier later, uses = earlier ++ later ∧ k ∈ earlier ∧ k ∉ later ∧ l ∈ later

/-- The request is there to drop the entry: by its key, with all others, or because it is not
fresh. -/
def drops (c : Cache) (x : Event) (e : CacheEntry) : Bool :=
  match x.request with
  | .act (.remove key) => e.key == key
  | .act .clear => true
  | .act .cleanup => !e.isFresh c.ttl x.now
  | .act (.get key) => e.key == key && !e.isFresh c.ttl x.now
  | _ => false

/-- The request stores a snapshot of a key without entry in a full cache, and no key was used last
before that of the entry. -/
def DrivesOut (c : Cache) (uses : List Key) (x : Event) (e : CacheEntry) : Prop :=
  (∃ s, c.placed? x = some s ∧ c.contains s.key = false) ∧ c.entries.length = c.capacity ∧
    ∀ e' ∈ c.entries, e' ≠ e → UsedEarlier uses e.key e'.key

/-- The entries that disappear while a snapshot is stored. -/
def drivenOut (c : Cache) (x : Event) : List CacheEntry :=
  if (c.placed? x).isSome then c.entries.filter fun e => !(c.step x).contains e.key else []

/-- The request sets the counters to zero. -/
def Event.isReset (x : Event) : Bool :=
  match x.request with
  | .act .resetStats => true
  | _ => false

/-- The entries driven out since the counters were last set to zero, where some were before. -/
def drivenOutSince (c : Cache) (before : List CacheEntry) : List Event → List CacheEntry
  | [] => before
  | x :: run =>
    (c.step x).drivenOutSince (if x.isReset then [] else before ++ c.drivenOut x) run

variable {c : Cache} {x : Event} {e : CacheEntry} {key k l : Key} {run : List Event}
variable {uses : List Key}

/-! ### Room for an entry -/

/-- There is neither an entry of the key nor room for one. -/
def isFullFor (c : Cache) (key : Key) : Bool :=
  !c.contains key && c.entries.length == c.capacity

/-- There is an entry of a key if one of the entries is filed under it. -/
theorem contains_iff : c.contains key = true ↔ ∃ e ∈ c.entries, e.key = key := by
  rw [contains, Option.isSome_iff_exists]
  exact exists_congr fun e => peek?_eq_some_iff

theorem contains_of_mem (he : e ∈ c.entries) : c.contains e.key = true :=
  contains_iff.2 ⟨e, he, rfl⟩

theorem contains_congr {c' : Cache} (h : c'.entries = c.entries) (key : Key) :
    c'.contains key = c.contains key := by
  rw [contains, peek?, h, contains, peek?]

theorem isFullFor_iff :
    c.isFullFor key = true ↔ c.contains key = false ∧ c.entries.length = c.capacity := by
  simp [isFullFor]

/-- Without an entry of a key, nothing is left out. -/
theorem without_eq_self (h : c.contains key = false) : without key c.entries = c.entries := by
  refine List.filter_eq_self.2 fun e he => bne_iff_ne.2 fun hkey => ?_
  rw [contains_iff.2 ⟨e, he, hkey⟩] at h
  cases h

/-- There is room beside the entry of a key, unless the cache is full for it. -/
theorem length_without_lt_iff :
    (without key c.entries).length < c.capacity ↔ c.isFullFor key = false := by
  have hle := c.length_le
  rw [isFullFor]
  cases hkey : c.contains key with
  | false =>
    rw [without_eq_self hkey]
    simp only [Bool.not_false, Bool.true_and, beq_eq_false_iff_ne]
    omega
  | true =>
    obtain ⟨e, he, rfl⟩ := contains_iff.1 hkey
    have hlength := (perm_cons_without c.nodup he).length_eq
    rw [List.length_cons] at hlength
    simp only [Bool.not_true, Bool.false_and, iff_true]
    omega

/-- Where there is room, an entry put in front takes the place of that of its key. -/
theorem entries_push_of_room (h : c.isFullFor e.key = false) :
    (c.push e).entries = e :: without e.key c.entries :=
  List.take_of_length_le (length_without_lt_iff.2 h)

/-- In a cache that is full for its key, an entry put in front takes the place of the last one. -/
theorem entries_push_of_full (h : c.isFullFor e.key = true) :
    (c.push e).entries = e :: c.entries.dropLast := by
  obtain ⟨habsent, hlength⟩ := isFullFor_iff.1 h
  have hpos := c.capacity_pos
  rw [entries_push, without_eq_self habsent, List.dropLast_eq_take, ← hlength]
  exact List.take_cons (by omega)

/-- An entry is in front of another one unless it is the last. -/
theorem mem_dropLast_iff (he : e ∈ c.entries) :
    e ∈ c.entries.dropLast ↔ c.entries.getLast? ≠ some e := by
  refine ⟨fun hmem hlast => ?_, fun hne => List.mem_dropLast_of_mem_of_ne_getLast? he hne.symm⟩
  have hnodup := c.nodup.of_map
  rw [← List.dropLast_append_getLast? e hlast, List.nodup_append'] at hnodup
  exact hnodup.2.2 hmem (List.mem_singleton_self e)

/-- What disappears when an entry is put in front is the last one of a full cache. -/
theorem contains_push_eq_false_iff {e₀ : CacheEntry} (he : e ∈ c.entries) :
    (c.push e₀).contains e.key = false ↔
      c.isFullFor e₀.key = true ∧ c.entries.getLast? = some e := by
  rw [← Bool.not_eq_true, contains_iff]
  cases hfull : c.isFullFor e₀.key with
  | false =>
    refine iff_of_false (not_not.2 ?_) fun h => nomatch h.1
    rw [entries_push_of_room hfull]
    by_cases hkey : e.key = e₀.key
    · exact ⟨e₀, List.mem_cons_self, hkey.symm⟩
    · exact ⟨e, List.mem_cons_of_mem _ (List.mem_filter.2 ⟨he, bne_iff_ne.2 hkey⟩), rfl⟩
  | true =>
    rw [entries_push_of_full hfull, and_iff_right rfl]
    constructor
    · intro hgone
      by_contra hne
      exact hgone ⟨e, List.mem_cons_of_mem _ ((mem_dropLast_iff he).2 hne), rfl⟩
    · rintro hlast ⟨e', he', hkey⟩
      rcases List.mem_cons.1 he' with rfl | he'
      · rw [isFullFor, hkey, contains_of_mem he] at hfull
        cases hfull
      · have hold : e' ∈ c.entries := List.dropLast_subset _ he'
        obtain rfl : e' = e := List.inj_on_of_nodup_map c.nodup hold he hkey
        exact (mem_dropLast_iff he).1 he' hlast

/-! ### What a request does -/

/-- What a request does to the entries: it drops some of them, uses one, or stores one. -/
inductive Effect (c : Cache) (x : Event) : Prop
  /-- Entries are dropped, and none is used. -/
  | drop (hplaced : c.placed? x = none) (hused : c.used? x = none)
      (hentries : (c.step x).entries = c.entries.filter fun e => !c.drops x e)
  /-- An entry is used. -/
  | use (e : CacheEntry) (hplaced : c.placed? x = none) (hused : c.used? x = some e.key)
      (he : e ∈ c.entries) (hkept : ∀ e' ∈ c.entries, c.drops x e' = false)
      (hentries : (c.step x).entries = (c.push e).entries)
  /-- A snapshot is stored. -/
  | store (s : Snapshot) (hplaced : c.placed? x = some s) (hused : c.used? x = some s.key)
      (hkept : ∀ e', c.drops x e' = false)
      (hentries : (c.step x).entries = (c.push ⟨s, x.now⟩).entries)

/-- A request that drops nothing, uses nothing and leaves the entries as they are. -/
theorem Effect.idle (hplaced : c.placed? x = none) (hused : c.used? x = none)
    (hkept : ∀ e ∈ c.entries, c.drops x e = false) (hentries : (c.step x).entries = c.entries) :
    c.Effect x := by
  refine .drop hplaced hused (hentries.trans (List.filter_eq_self.2 fun e he => ?_).symm)
  rw [hkept e he]
  rfl

theorem effect_lookup (c : Cache) (now : Duration) (key : Key) :
    c.Effect ⟨now, .act (.lookup key)⟩ := by
  cases hpeek : c.peek? key with
  | none =>
    refine .idle rfl ?_ (fun _ _ => rfl) ?_
    · simp [used?, lookup?, hpeek]
    · simp [step, act, lookup?, touch, hpeek]
  | some e =>
    obtain ⟨he, rfl⟩ := mem_of_peek? hpeek
    refine .use e rfl ?_ he (fun _ _ => rfl) ?_
    · simp [used?, lookup?, hpeek]
    · simp [step, act, lookup?, touch, hpeek]

theorem effect_get (c : Cache) (now : Duration) (key : Key) :
    c.Effect ⟨now, .act (.get key)⟩ := by
  cases hpeek : c.peek? key with
  | none =>
    refine .idle rfl ?_ (fun e he => ?_) ?_
    · simp [used?, get?, hpeek]
    · have hkey : ¬e.key = key := by simpa using List.find?_eq_none.1 hpeek e he
      simp [drops, hkey]
    · simp [step, act, get?, hpeek, count]
  | some e =>
    obtain ⟨he, rfl⟩ := mem_of_peek? hpeek
    have honly {e' : CacheEntry} (he' : e' ∈ c.entries) (hkey : e'.key = e.key) : e' = e :=
      List.inj_on_of_nodup_map c.nodup he' he hkey
    cases hfresh : e.isFresh c.ttl now with
    | true =>
      refine .use e rfl ?_ he (fun e' he' => ?_) ?_
      · simp [used?, get?, hpeek, hfresh]
      · by_cases hkey : e'.key = e.key
        · simp [drops, honly he' hkey, hfresh]
        · simp [drops, hkey]
      · simp [step, act, get?, touch, hpeek, hfresh, count]
    | false =>
      refine .drop rfl ?_ ?_
      · simp [used?, get?, hpeek, hfresh]
      · simp only [step, act, get?, hpeek, hfresh, Bool.false_eq_true, if_false, count, erase,
          drops, without]
        refine List.filter_congr fun e' he' => ?_
        by_cases hkey : e'.key = e.key
        · simp [honly he' hkey, hfresh]
        · simp [bne, beq_eq_false_iff_ne.2 hkey]

/-- A request drops entries, uses one, or stores one. -/
theorem effect (c : Cache) (x : Event) : c.Effect x := by
  obtain ⟨now, request⟩ := x
  cases request with
  | contains key => exact .idle rfl rfl (fun _ _ => rfl) rfl
  | act a =>
    cases a with
    | lookup key => exact c.effect_lookup now key
    | get key => exact c.effect_get now key
    | insert s => exact .store s rfl rfl (fun _ => rfl) (entries_store c now s)
    | insertIfNewer s =>
      have hentries := entries_insertIfNewer? c now s
      cases hadmits : c.admits s with
      | true =>
        refine .store s ?_ ?_ (fun _ => rfl) ?_
        · simp [placed?, stored?, hadmits]
        · simp [used?, stored?, hadmits]
        · rw [hadmits] at hentries
          exact hentries
      | false =>
        refine .idle ?_ ?_ (fun _ _ => rfl) ?_
        · simp [placed?, stored?, hadmits]
        · simp [used?, stored?, hadmits]
        · rw [hadmits] at hentries
          exact hentries
    | remove key => exact .drop rfl rfl rfl
    | clear => exact .drop rfl rfl (List.filter_eq_nil_iff.2 (by simp [drops])).symm
    | cleanup => exact .drop rfl rfl (by simp [step, act, cleanup, drops])
    | resetStats => exact .idle rfl rfl (fun _ _ => rfl) rfl

/-! ### The order of the entries -/

/-- A key that is used now has its last use after those of all other keys. -/
theorem usedEarlier_concat (h : k ∈ uses) (hne : k ≠ l) : UsedEarlier (uses ++ [l]) k l :=
  ⟨uses, [l], rfl, h, by simpa using hne, List.mem_singleton_self l⟩

/-- The last use of a key stays before a later one while other keys are used. -/
theorem UsedEarlier.concat {m : Key} (h : UsedEarlier uses k l) (hne : k ≠ m) :
    UsedEarlier (uses ++ [m]) k l := by
  obtain ⟨earlier, later, rfl, hk, hk', hl⟩ := h
  exact ⟨earlier, later ++ [m], List.append_assoc .., hk, by simp [hk', hne], by simp [hl]⟩

/-- Of two keys only one was used last before the other was. -/
theorem UsedEarlier.asymm (h : UsedEarlier uses k l) : ¬UsedEarlier uses l k := by
  obtain ⟨earlier, later, rfl, -, hk, hl⟩ := h
  rintro ⟨earlier', later', heq, -, hl', hk'⟩
  rcases List.append_eq_append_iff.1 heq with ⟨m, -, rfl⟩ | ⟨m, -, rfl⟩
  · exact hk (List.mem_append_right m hk')
  · exact hl' (List.mem_append_right m hl)

/-- The entries are in the order of the last uses of their keys, the latest in front. -/
structure Ordered (c : Cache) (uses : List Key) : Prop where
  /-- The key of every entry was used. -/
  used : ∀ e ∈ c.entries, e.key ∈ uses
  /-- The key of every entry was used last before those of the entries in front of it. -/
  pairwise : c.entries.Pairwise fun e e' => UsedEarlier uses e'.key e.key

/-- Entries that are left stay in order. -/
theorem Ordered.of_sublist {c' : Cache} (h : c.Ordered uses) (hsub : c'.entries.Sublist c.entries) :
    c'.Ordered uses :=
  ⟨fun e he => h.used e (hsub.subset he), h.pairwise.sublist hsub⟩

/-- An entry put in front was used last. -/
theorem Ordered.push (h : c.Ordered uses) (e : CacheEntry) :
    (c.push e).Ordered (uses ++ [e.key]) := by
  have hne {e' : CacheEntry} (he' : e' ∈ without e.key c.entries) : e'.key ≠ e.key := fun hkey =>
    key_notMem_without e.key c.entries (List.mem_map.2 ⟨e', he', hkey⟩)
  have hold {e' : CacheEntry} (he' : e' ∈ without e.key c.entries) : e' ∈ c.entries :=
    (without_sublist _ _).subset he'
  constructor
  · intro e' he'
    rcases List.mem_cons.1 (List.mem_of_mem_take he') with rfl | he'
    · simp
    · exact List.mem_append_left _ (h.used e' (hold he'))
  · refine List.Pairwise.sublist (List.take_sublist _ _) (List.pairwise_cons.2 ⟨?_, ?_⟩)
    · exact fun e' he' => usedEarlier_concat (h.used e' (hold he')) (hne he')
    · exact (h.pairwise.sublist (without_sublist _ _)).imp_of_mem fun _ he' hused =>
        hused.concat (hne he')

/-- A request keeps the entries in the order of their last uses. -/
theorem Ordered.step (h : c.Ordered uses) (x : Event) :
    (c.step x).Ordered (uses ++ (c.used? x).toList) := by
  cases c.effect x with
  | drop hplaced hused hentries =>
    rw [hused, Option.toList_none, List.append_nil]
    exact h.of_sublist (hentries ▸ List.filter_sublist)
  | use e hplaced hused he hkept hentries =>
    rw [hused]
    exact (h.push e).of_sublist (hentries ▸ .refl _)
  | store s hplaced hused hkept hentries =>
    rw [hused]
    exact (h.push ⟨s, x.now⟩).of_sublist (hentries ▸ .refl _)

/-- After any run the entries are in the order of their last uses. -/
theorem Ordered.afterRun (h : c.Ordered uses) (run : List Event) :
    (c.afterRun run).Ordered (uses ++ c.uses run) := by
  induction run generalizing c uses with
  | nil => simpa [Cache.uses, Cache.afterRun] using h
  | cons x run ih =>
    rw [Cache.uses, ← List.append_assoc]
    exact ih (h.step x)

/-- The entries of a new cache are in order. -/
theorem ordered_empty (maxEntries : Nat) (ttl : Duration) : (empty maxEntries ttl).Ordered [] :=
  ⟨fun _ he => absurd he List.not_mem_nil, .nil⟩

/-- The last entry is the one whose key was used last before those of all others. -/
theorem Ordered.getLast?_eq_some_iff (h : c.Ordered uses) (he : e ∈ c.entries) :
    c.entries.getLast? = some e ↔ ∀ e' ∈ c.entries, e' ≠ e → UsedEarlier uses e.key e'.key := by
  have hoverall {last e' : CacheEntry} (hlast : c.entries.getLast? = some last)
      (he' : e' ∈ c.entries) (hne : e' ≠ last) : UsedEarlier uses last.key e'.key := by
    have hordered := h.pairwise
    rw [← List.dropLast_append_getLast? last hlast, List.pairwise_append] at hordered
    have hfront : e' ∈ c.entries.dropLast := by
      rw [mem_dropLast_iff he', hlast]
      exact fun heq => hne (Option.some.inj heq).symm
    exact hordered.2.2 e' hfront last (List.mem_singleton_self last)
  constructor
  · exact fun hlast e' => hoverall hlast
  · intro holdest
    obtain ⟨last, hlast⟩ :=
      Option.isSome_iff_exists.1 (List.getLast?_isSome.2 (List.ne_nil_of_mem he))
    by_contra hne
    have hother : e ≠ last := by
      rintro rfl
      exact hne hlast
    exact (hoverall hlast he hother).asymm
      (holdest last (List.mem_of_getLast? hlast) hother.symm)

/-! ### Entries that disappear -/

/-- An entry disappears in a request that is there to drop it, or it is driven out. -/
theorem Ordered.contains_step_eq_false_iff (h : c.Ordered uses) (he : e ∈ c.entries) (x : Event) :
    (c.step x).contains e.key = false ↔ c.drops x e = true ∨ c.DrivesOut uses x e := by
  have hnone (hplaced : c.placed? x = none) : ¬c.DrivesOut uses x e := by
    rintro ⟨⟨s, hs, -⟩, -⟩
    rw [hplaced] at hs
    cases hs
  cases c.effect x with
  | drop hplaced hused hentries =>
    rw [or_iff_left (hnone hplaced), ← Bool.not_eq_true, contains_iff, hentries]
    constructor
    · intro hgone
      by_contra hkept
      exact hgone ⟨e, List.mem_filter.2 ⟨he, by simpa using hkept⟩, rfl⟩
    · rintro hdrops ⟨e', he', hkey⟩
      obtain ⟨he', hkept⟩ := List.mem_filter.1 he'
      rw [List.inj_on_of_nodup_map c.nodup he' he hkey, hdrops] at hkept
      cases hkept
  | use e₀ hplaced hused he₀ hkept hentries =>
    rw [contains_congr hentries, contains_push_eq_false_iff he, isFullFor,
      contains_of_mem he₀]
    exact iff_of_false (fun h => nomatch h.1) (not_or.2 ⟨by simp [hkept e he], hnone hplaced⟩)
  | store s hplaced hused hkept hentries =>
    rw [contains_congr hentries, contains_push_eq_false_iff he, h.getLast?_eq_some_iff he,
      isFullFor_iff, and_assoc]
    simp [DrivesOut, hplaced, hkept e, key]

/-- What is driven out is not dropped, and the other way round. -/
theorem Ordered.mem_drivenOut_iff (h : c.Ordered uses) (x : Event) :
    e ∈ c.drivenOut x ↔ e ∈ c.entries ∧ c.DrivesOut uses x e := by
  rw [drivenOut]
  cases c.effect x with
  | store s hplaced hused hkept hentries =>
    rw [hplaced, if_pos Option.isSome_some, List.mem_filter, Bool.not_eq_true']
    refine and_congr_right fun he => ?_
    rw [h.contains_step_eq_false_iff he, hkept e, Bool.false_eq_true, false_or]
  | drop hplaced =>
    rw [hplaced]
    simp [DrivesOut, hplaced]
  | use e₀ hplaced =>
    rw [hplaced]
    simp [DrivesOut, hplaced]

/-- An entry that does not disappear stays as it is, unless a snapshot of its key is stored. -/
theorem eq_or_placed_of_step {e' : CacheEntry} (he : e ∈ c.entries)
    (h : (c.step x).peek? e.key = some e') :
    e' = e ∨ c.placed? x = some e'.snapshot ∧ e'.storedAt = x.now := by
  obtain ⟨he', hkey⟩ := mem_of_peek? h
  have hsame (hold : e' ∈ c.entries) : e' = e := List.inj_on_of_nodup_map c.nodup hold he hkey
  obtain ⟨now, request⟩ := x
  cases request with
  | contains key => exact .inl (hsame he')
  | act a =>
    rcases mem_entries_act he' with hold | ⟨s, hs, rfl⟩
    · exact .inl (hsame hold)
    · exact .inr ⟨hs, rfl⟩

/-! ### What is counted -/

/-- What is found under a key. -/
inductive Finding where
  /-- There is a usable snapshot, and it is fresh. -/
  | fresh
  /-- There is a usable snapshot, but it is not fresh. -/
  | expired
  /-- There is no usable snapshot. -/
  | nothing
  deriving DecidableEq

/-- What is found, by whether there is a usable snapshot that is fresh. -/
@[simp]
def Finding.ofFresh? : Option Bool → Finding
  | some true => .fresh
  | some false => .expired
  | none => .nothing

/-- What an operation finds, if that is counted. -/
@[simp]
def finding? (c : Cache) (now : Duration) : Action → Option Finding
  | .get key => some (.ofFresh? ((c.peek? key).map (isFresh c.ttl now)))
  | _ => none

@[simp]
theorem counters_touch (c : Cache) (key : Key) : (c.touch key).counters = c.counters := by
  rw [touch]
  split <;> rfl

/-- Storing a snapshot in a cache that is full for its key is counted. -/
theorem counters_store (c : Cache) (now : Duration) (s : Snapshot) :
    (c.store now s).counters =
      { c.counters with
        evictions := c.counters.evictions + if c.isFullFor s.key then 1 else 0 } := by
  rw [store]
  cases hfull : c.isFullFor s.key with
  | false => rw [if_pos (length_without_lt_iff.2 hfull)]; rfl
  | true =>
    have hroom : ¬(without s.key c.entries).length < c.capacity := by
      rw [length_without_lt_iff, hfull]
      exact Bool.noConfusion
    rw [if_neg hroom]
    rfl

/-- Storing a snapshot is counted if it is admitted. -/
theorem counters_insertIfNewer? (c : Cache) (now : Duration) (s : Snapshot) :
    ((c.insertIfNewer? now s).getD c).counters =
      { c.counters with
        evictions :=
          c.counters.evictions + if c.admits s && c.isFullFor s.key then 1 else 0 } := by
  rw [insertIfNewer?_eq]
  cases c.admits s with
  | true => exact c.counters_store now s
  | false => rfl

/-- An operation that does not set the counters to zero counts what it finds, and whether it stores
a snapshot in a cache that is full for its key. -/
theorem counters_act (c : Cache) (now : Duration) {a : Action} (h : a ≠ .resetStats) :
    (c.act now a).counters =
      { c.counters with
        hits := c.counters.hits + if c.finding? now a == some .fresh then 1 else 0
        misses := c.counters.misses + if c.finding? now a == some .nothing then 1 else 0
        expired := c.counters.expired + if c.finding? now a == some .expired then 1 else 0
        evictions :=
          c.counters.evictions +
            if (c.stored? a).any fun s => c.isFullFor s.key then 1 else 0 } := by
  cases a with
  | lookup key => exact c.counters_touch key
  | get key =>
    rw [act, get?]
    cases hpeek : c.peek? key with
    | none => simp [hpeek, stored?, count]
    | some e => cases hfresh : e.isFresh c.ttl now <;> simp [hpeek, hfresh, stored?, count, erase]
  | insert s => exact c.counters_store now s
  | insertIfNewer s =>
    refine (c.counters_insertIfNewer? now s).trans ?_
    cases hadmits : c.admits s <;> simp [hadmits, stored?]
  | resetStats => exact absurd rfl h
  | _ => rfl

/-- One entry is driven out by a snapshot that is stored in a cache full for its key, and none
otherwise. -/
theorem length_drivenOut (c : Cache) (x : Event) :
    (c.drivenOut x).length = if (c.placed? x).any fun s => c.isFullFor s.key then 1 else 0 := by
  rw [drivenOut]
  cases c.effect x with
  | drop hplaced => rw [hplaced]; rfl
  | use e hplaced => rw [hplaced]; rfl
  | store s hplaced hused hkept hentries =>
    have hgone {e : CacheEntry} (he : e ∈ c.entries) : (c.step x).contains e.key = false ↔
        c.isFullFor s.key = true ∧ c.entries.getLast? = some e := by
      rw [contains_congr hentries]
      exact contains_push_eq_false_iff he
    rw [hplaced, if_pos Option.isSome_some, Option.any_some]
    cases hfull : c.isFullFor s.key with
    | false =>
      rw [hfull] at hgone
      simp only [Bool.false_eq_true, if_false, List.length_eq_zero_iff, List.filter_eq_nil_iff,
        Bool.not_eq_true', false_and, iff_false] at hgone ⊢
      exact fun e he => hgone he
    | true =>
      have hpos := c.capacity_pos
      obtain ⟨last, hlast⟩ : ∃ last, c.entries.getLast? = some last := by
        refine Option.isSome_iff_exists.1 (List.getLast?_isSome.2 fun hnil => ?_)
        rw [← (isFullFor_iff.1 hfull).2, hnil] at hpos
        exact absurd hpos (Nat.lt_irrefl 0)
      have hfilter : (c.entries.filter fun e => !(c.step x).contains e.key) =
          c.entries.filter (· == last) := by
        refine List.filter_congr fun e he => Bool.eq_iff_iff.2 ?_
        rw [Bool.not_eq_true', hgone he, hlast, beq_iff_eq, and_iff_right hfull,
          Option.some.injEq]
        exact eq_comm
      rw [hfilter, List.filter_beq, List.length_replicate, if_pos rfl]
      exact List.count_eq_one_of_mem c.nodup.of_map (List.mem_of_getLast? hlast)

/-- Unless the counters are set to zero, the entries driven out by a request are counted. -/
theorem evictions_step (c : Cache) (x : Event) :
    (c.step x).counters.evictions =
      if x.isReset then 0 else c.counters.evictions + (c.drivenOut x).length := by
  rw [length_drivenOut]
  obtain ⟨now, request⟩ := x
  cases request with
  | contains key => rfl
  | act a =>
    have hcounters (hreset : a ≠ .resetStats) :=
      congrArg CacheStats.evictions (c.counters_act now hreset)
    cases a with
    | resetStats => rfl
    | _ => exact hcounters nofun

/-- The counter shows the number of entries driven out since it was last set to zero. -/
theorem evictions_afterRun {before : List CacheEntry} (run : List Event)
    (h : c.counters.evictions = before.length) :
    (c.afterRun run).counters.evictions = (c.drivenOutSince before run).length := by
  induction run generalizing c before with
  | nil => exact h
  | cons x run ih =>
    refine ih ?_
    rw [evictions_step, h]
    cases x.isReset <;> simp

/-! ### After a run -/

/-- No request changes the limits. -/
theorem limits_step (c : Cache) (x : Event) : (c.step x).limits = c.limits := by
  obtain ⟨now, request⟩ := x
  cases request with
  | contains key => rfl
  | act a => exact c.limits_act now a

/-- After any run the limits are those of the new cache. -/
theorem limits_afterRun (c : Cache) (run : List Event) : (c.afterRun run).limits = c.limits := by
  induction run generalizing c with
  | nil => rfl
  | cons x run ih => exact (ih _).trans (c.limits_step x)

/-- After any run a cache has room for one entry at least and no more entries than it has room for,
and every entry is the only one that is found under the key of its snapshot.  In the next request,
whatever it is, an entry disappears exactly if the request is there to drop it, or if the request
stores a snapshot of a key without entry in a full cache and the entry is the one whose key was
used last before those of all others.  Every other entry stays as it is or gives way to a snapshot
of its key.  What is counted is how many entries were driven out since the counters were set to
zero. -/
theorem entries_after_run (maxEntries : Nat) (ttl : Duration) (run : List Event) (x : Event) :
    let new := empty maxEntries ttl
    let c := new.afterRun run
    (c.capacity = max 1 maxEntries ∧ c.ttl = ttl ∧ c.entries.length ≤ c.capacity) ∧
    ((c.entries.map fun e => e.snapshot.key).Nodup ∧
      ∀ key e, c.peek? key = some e ↔ e ∈ c.entries ∧ e.snapshot.key = key) ∧
    (∀ e ∈ c.entries,
      ((c.step x).contains e.key = false ↔
        c.drops x e = true ∨ c.DrivesOut (new.uses run) x e) ∧
      ∀ e', (c.step x).peek? e.key = some e' →
        e' = e ∨ c.placed? x = some e'.snapshot ∧ e'.storedAt = x.now) ∧
    (∀ e, e ∈ c.drivenOut x ↔ e ∈ c.entries ∧ c.DrivesOut (new.uses run) x e) ∧
    c.stats.evictions = (new.drivenOutSince [] run).length := by
  intro new c
  obtain ⟨hcapacity, httl⟩ := Prod.mk.inj (new.limits_afterRun run)
  have hordered : c.Ordered (new.uses run) := (ordered_empty maxEntries ttl).afterRun run
  refine ⟨⟨hcapacity, httl, c.length_le⟩, ⟨c.nodup, fun key e => peek?_eq_some_iff⟩,
    fun e he => ⟨hordered.contains_step_eq_false_iff he x, fun e' => eq_or_placed_of_step he⟩,
    fun e => hordered.mem_drivenOut_iff x, evictions_afterRun run rfl⟩

end BiblioQuery.Cache
