import BiblioQuery.Archive.Memory

/-!
# Archives in memory after a history of changes

An archive in memory is what a list of insertions and removals makes of the empty archive; an
insertion that is refused changes nothing.  After every history each snapshot lies under its own
key, and the answers for different instants fit together: the snapshot that holds at an instant
still holds later, until another one is taken.

## Main definitions

* `Memory.Change`, `Memory.change`, `Memory.after` : changes one by one and in a row.
* `Memory.Filed` : every snapshot lies under its own key.

## Main results

* `Memory.filed_after` : this is so after every history.
* `Memory.fetch_ne_ok_iff` : when a snapshot that held before holds no longer.
-/

namespace BiblioQuery.Memory

/-! ### Histories -/

/-- A change of an archive. -/
inductive Change where
  /-- A snapshot is to be kept. -/
  | insert (s : Snapshot)
  /-- The snapshots of a key are no longer kept. -/
  | remove (key : Key)

/-- The archive after a change; a snapshot that is not valid is not kept. -/
def change (m : Memory) : Change → Memory
  | .insert s =>
    match m.insert s with
    | .ok m' => m'
    | .error _ => m
  | .remove key => m.remove key

/-- The archive after changes one after the other. -/
def after (m : Memory) (changes : List Change) : Memory := changes.foldl change m

/-- Every snapshot lies under its own key. -/
def Filed (m : Memory) : Prop := ∀ key, ∀ s ∈ m.versions key, s.key = key

theorem mem_insertByAge {s t : Snapshot} {versions : List Snapshot} :
    t ∈ s.insertByAge versions ↔ t = s ∨ t ∈ versions := by
  induction versions with
  | nil => exact List.mem_singleton.trans (by simp)
  | cons u r ih =>
    rw [Snapshot.insertByAge]
    split
    · exact List.mem_cons
    · rw [List.mem_cons, ih, List.mem_cons, or_left_comm]

theorem mem_insertVersion {s t : Snapshot} {versions : List Snapshot} :
    t ∈ s.insertVersion versions ↔ t = s ∨ t ∈ versions ∧ t.version ≠ s.version := by
  rw [Snapshot.insertVersion, mem_insertByAge, List.mem_filter, bne_iff_ne]

/-- After a removal its key has no snapshots, and the other keys have what they had. -/
theorem versions_remove (m : Memory) (key key' : Key) :
    (m.remove key).versions key' = if key = key' then [] else m.versions key' := by
  rw [versions, remove, SortedMap.get?_erase]
  split <;> rfl

/-- A change keeps every snapshot under its own key. -/
theorem Filed.change {m : Memory} (h : m.Filed) (ch : Change) : (m.change ch).Filed := by
  cases ch with
  | insert s =>
    simp only [Memory.change]
    cases hs : m.insert s with
    | error e => exact h
    | ok m' =>
      intro key t ht
      rw [versions_insert hs] at ht
      split at ht
      · rename_i hk
        rcases mem_insertVersion.1 ht with rfl | ⟨ht, -⟩
        · exact hk
        · exact h key t ht
      · exact h key t ht
  | remove k =>
    intro key t ht
    rw [Memory.change, versions_remove] at ht
    split at ht
    · cases ht
    · exact h key t ht

/-- After every history each snapshot lies under its own key. -/
theorem filed_after (changes : List Change) : (empty.after changes).Filed := by
  have run (m : Memory) (h : m.Filed) : (m.after changes).Filed := by
    induction changes generalizing m with
    | nil => exact h
    | cons ch r ih => exact ih _ (h.change ch)
  refine run empty fun key s hs => ?_
  cases hs

/-! ### Answers for different instants -/

variable {m : Memory} {key : Key} {past asOf : Instant} {s : Snapshot}

/-- The answer is the last snapshot in order that had been taken. -/
theorem fetch_eq_ok_iff : m.fetch key asOf = .ok s ↔
    (m.versions key).reverse.find? (fun t => t.capturedAt.atMost asOf) = some s := by
  rw [fetch, List.getLast?_eq_head?_reverse, ← List.filter_reverse, List.head?_filter]
  cases (m.versions key).reverse.find? fun t => t.capturedAt.atMost asOf <;> simp

theorem atMost_of_fetch (h : m.fetch key asOf = .ok s) : s.capturedAt.atMost asOf = true := by
  simpa using List.find?_some (fetch_eq_ok_iff.1 h)

/-- The answer lies under the key that was asked for. -/
theorem Filed.key_of_fetch (hm : m.Filed) (h : m.fetch key asOf = .ok s) : s.key = key :=
  hm key s (List.mem_reverse.1 (List.mem_of_find?_eq_some (fetch_eq_ok_iff.1 h)))

/-- Two tests that the answer of the other one passes have the same answer. -/
theorem eq_of_find? {α : Type} {p q : α → Bool} {l : List α} {a b : α} (ha : l.find? p = some a)
    (hb : l.find? q = some b) (hqa : q a = true) (hpb : p b = true) : a = b := by
  induction l with
  | nil => cases ha
  | cons c r ih =>
    rw [List.find?_cons] at ha hb
    cases hp : p c with
    | true =>
      simp only [hp, Option.some.injEq] at ha
      subst ha
      simpa [hqa] using hb
    | false =>
      cases hq : q c with
      | true =>
        simp only [hq, Option.some.injEq] at hb
        subst hb
        simp [hp] at hpb
      | false =>
        simp only [hp, hq] at ha hb
        exact ih ha hb

/-- A snapshot that held at some instant, and had been taken by another one, does not hold at that
one exactly when the snapshot that does was taken after the first instant. -/
theorem fetch_ne_ok_iff (h : m.fetch key past = .ok s) (hs : s.capturedAt.atMost asOf = true) :
    m.fetch key asOf ≠ .ok s ↔
      ∃ t, m.fetch key asOf = .ok t ∧ t.capturedAt.atMost past = false := by
  constructor
  · intro hne
    cases ht : (m.versions key).reverse.find? fun t => t.capturedAt.atMost asOf with
    | none =>
      have hmem := List.mem_of_find?_eq_some (fetch_eq_ok_iff.1 h)
      exact absurd hs (by simpa using List.find?_eq_none.1 ht s hmem)
    | some t =>
      refine ⟨t, fetch_eq_ok_iff.2 ht, ?_⟩
      cases hpast : t.capturedAt.atMost past with
      | false => rfl
      | true =>
        have hst := eq_of_find? (fetch_eq_ok_iff.1 h) ht hs hpast
        exact absurd (fetch_eq_ok_iff.2 (hst ▸ ht)) hne
  · rintro ⟨t, ht, hpast⟩ hs'
    have hst : t = s := Except.ok.inj (ht.symm.trans hs')
    rw [hst, atMost_of_fetch h] at hpast
    cases hpast

end BiblioQuery.Memory
