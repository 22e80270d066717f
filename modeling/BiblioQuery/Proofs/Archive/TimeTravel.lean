import BiblioQuery.Proofs.Archive.MemoryHistory
import BiblioQuery.Proofs.Calendar.TimeLine
import Mathlib.Data.List.Nodup

/-!
# Archives in memory at every instant

What an archive in memory answers can be said without its lists.  Of each key and version the
archive keeps the snapshot that was accepted last, if the key was not removed since.  Asked for a
key and an instant it answers with the latest of the snapshots of the key that had been taken by
then, where of two that were taken at once the one with the greater version is the later one.  A
version that is inserted again may have been taken at another instant than before; then it changes
its place among the versions.

## Main definitions

* `Memory.accepted?` : the snapshot that was accepted last for a key and a version.
* `Memory.Holds` : an archive keeps the given snapshots and nothing else, in their order.
* `Memory.IsLatest` : a snapshot is the latest of those that had been taken by an instant.

## Main results

* `Memory.Holds.change` : what an archive keeps after a change.
* `Memory.holds_after` : what an archive keeps after a history.
* `Memory.Holds.fetch_eq_ok_iff`, `Memory.Holds.fetch_eq_error_iff` : what such an archive answers.
* `Memory.accepted?_perm` : the order of insertions of different versions does not matter.
* `Memory.latest_accepted_after` : the answers after any history.
-/

namespace BiblioQuery

/-! ### The order of the versions -/

namespace Snapshot

variable {s t : Snapshot} {versions : List Snapshot}

instance : Std.TransCmp ageOrder :=
  inferInstanceAs (Std.TransCmp (compareLex (compareOn capturedAt) (compareOn version)))

/-- Snapshots of different versions are never equally old. -/
theorem ageOrder_ne_eq (h : t.version ≠ s.version) : s.ageOrder t ≠ .eq := by
  intro heq
  have hversion : compare s.version t.version = .eq := (Ordering.then_eq_eq.1 heq).2
  exact h (Std.LawfulEqOrd.eq_of_compare hversion).symm

/-- A snapshot that is equally old as none of the others is put in its place. -/
theorem pairwise_insertByAge (h : versions.Pairwise fun t u => t.ageOrder u = .lt)
    (hne : ∀ t ∈ versions, s.ageOrder t ≠ .eq) :
    (s.insertByAge versions).Pairwise fun t u => t.ageOrder u = .lt := by
  induction versions with
  | nil => exact List.pairwise_singleton _ _
  | cons t r ih =>
    obtain ⟨ht, hr⟩ := List.pairwise_cons.1 h
    obtain ⟨hst, hsr⟩ := List.forall_mem_cons.1 hne
    rw [insertByAge]
    split
    · next hlt =>
      have hlt : s.ageOrder t = .lt := eq_of_beq hlt
      refine List.pairwise_cons.2 ⟨List.forall_mem_cons.2 ⟨hlt, fun u hu => ?_⟩, h⟩
      exact Std.TransCmp.lt_trans hlt (ht u hu)
    · next hnlt =>
      have hgt : s.ageOrder t = .gt := by cases hage : s.ageOrder t <;> simp_all
      refine List.pairwise_cons.2 ⟨fun u hu => ?_, ih hr hsr⟩
      rcases Memory.mem_insertByAge.1 hu with rfl | hu
      · exact Std.OrientedCmp.gt_iff_lt.1 hgt
      · exact ht u hu

/-- A snapshot takes the place of the one of its version and leaves the others in order. -/
theorem pairwise_insertVersion (s : Snapshot)
    (h : versions.Pairwise fun t u => t.ageOrder u = .lt) :
    (s.insertVersion versions).Pairwise fun t u => t.ageOrder u = .lt := by
  refine pairwise_insertByAge (h.filter _) fun t ht => ageOrder_ne_eq ?_
  simpa using (List.mem_filter.1 ht).2

end Snapshot

/-- The last of a list in order is the one that none comes after. -/
theorem getLast?_eq_some_iff_of_pairwise {α : Type} {cmp : α → α → Ordering} [Std.TransCmp cmp]
    {l : List α} {a : α} (h : l.Pairwise fun b c => cmp b c = .lt) :
    l.getLast? = some a ↔ a ∈ l ∧ ∀ b ∈ l, (cmp b a).isLE = true := by
  rcases List.eq_nil_or_concat l with rfl | ⟨r, z, rfl⟩
  · simp
  · rw [List.concat_eq_append] at h ⊢
    have hz (b : α) (hb : b ∈ r) : cmp b z = .lt :=
      (List.pairwise_append.1 h).2.2 b hb z (List.mem_singleton_self z)
    rw [List.getLast?_concat, Option.some.injEq]
    constructor
    · rintro rfl
      refine ⟨by simp, fun b hb => ?_⟩
      rcases List.mem_append.1 hb with hb | hb
      · rw [hz b hb]
        rfl
      · rw [List.mem_singleton.1 hb]
        exact Std.ReflCmp.isLE_rfl
    · rintro ⟨ha, hall⟩
      rcases List.mem_append.1 ha with ha | ha
      · have hgt : cmp z a = .gt := Std.OrientedCmp.gt_iff_lt.2 (hz a ha)
        have hle := hall z (by simp)
        rw [hgt] at hle
        cases hle
      · exact (List.mem_singleton.1 ha).symm

namespace Memory

/-! ### What was accepted -/

/-- The snapshot that is kept for a key and a version after a change, where `kept` was before. -/
def Change.keep (key : Key) (version : UInt64) (kept : Option Snapshot) : Change → Option Snapshot
  | .insert s => if s.validate = .ok () ∧ s.key = key ∧ s.version = version then some s else kept
  | .remove k => if k = key then none else kept

/-- The snapshot that was accepted last for a key and a version, if the key was not removed
since. -/
def accepted? (changes : List Change) (key : Key) (version : UInt64) : Option Snapshot :=
  changes.foldl (Change.keep key version) none

/-- Insertions of different keys or versions may change places. -/
theorem keep_comm {s t : Snapshot} (h : s ≠ t → (s.key, s.version) ≠ (t.key, t.version))
    (key : Key) (version : UInt64) (kept : Option Snapshot) :
    Change.keep key version (Change.keep key version kept (.insert s)) (.insert t) =
      Change.keep key version (Change.keep key version kept (.insert t)) (.insert s) := by
  by_cases hst : s = t
  · rw [hst]
  · have hne := h hst
    simp only [Change.keep]
    split_ifs with ht hs
    · exact absurd (by rw [hs.2.1, hs.2.2, ht.2.1, ht.2.2]) hne
    · rfl
    · rfl
    · rfl

/-- The order in which snapshots of different keys or versions are inserted does not matter. -/
theorem accepted?_perm (changes : List Change) {ss ss' : List Snapshot} (hperm : ss.Perm ss')
    (hdistinct : (ss.map fun s => (s.key, s.version)).Nodup) (key : Key) (version : UInt64) :
    accepted? (changes ++ ss.map .insert) key version =
      accepted? (changes ++ ss'.map .insert) key version := by
  simp only [accepted?, List.foldl_append, List.foldl_map]
  refine hperm.foldl_eq' (fun s hs t ht kept => ?_) _
  exact keep_comm (fun hne heq => hne (List.inj_on_of_nodup_map hdistinct hs ht heq)) _ _ _

/-! ### What is kept -/

/-- The archive keeps the given snapshots of each key and version and nothing else: those of a key
from the oldest to the latest, and nothing at all under a key without snapshots. -/
structure Holds (m : Memory) (held : Key → UInt64 → Option Snapshot) : Prop where
  /-- Each snapshot is older than the ones after it. -/
  sorted : ∀ key, (m.versions key).Pairwise fun s t => s.ageOrder t = .lt
  /-- What is held for a key and a version is what is kept under the key with the version. -/
  held_iff : ∀ key version s,
    held key version = some s ↔ s ∈ m.versions key ∧ s.version = version
  /-- No empty list is kept. -/
  ne_nil : ∀ key, m.shelves.get? key ≠ some []

/-- The empty archive keeps nothing. -/
theorem holds_empty : empty.Holds fun _ _ => none where
  sorted _ := .nil
  held_iff _ _ _ := by simp [versions, empty]
  ne_nil _ := by simp [empty]

namespace Holds

variable {m m' : Memory} {held : Key → UInt64 → Option Snapshot} {key : Key} {s : Snapshot}

theorem mem_iff (h : m.Holds held) : s ∈ m.versions key ↔ held key s.version = some s := by
  rw [h.held_iff, and_iff_left rfl]

/-- No two snapshots of a key have one version. -/
theorem nodup_version (h : m.Holds held) (key : Key) :
    ((m.versions key).map Snapshot.version).Nodup := by
  refine List.pairwise_map.2 ((h.sorted key).imp_of_mem fun {s t} hs ht hlt heq => ?_)
  have hheld := h.mem_iff.1 hs
  rw [heq, h.mem_iff.1 ht] at hheld
  have hself : Snapshot.ageOrder s s = .eq := Std.ReflCmp.compare_self
  rw [Option.some.inj hheld, hself] at hlt
  cases hlt

/-- An archive is known by what it keeps. -/
theorem ext (h : m.Holds held) (h' : m'.Holds held) : m = m' := by
  have hversions (key : Key) : m.versions key = m'.versions key := by
    have hmem (s : Snapshot) : s ∈ m.versions key ↔ s ∈ m'.versions key := by
      rw [h.mem_iff, h'.mem_iff]
    have hperm : (m.versions key).Perm (m'.versions key) :=
      (List.perm_ext_iff_of_nodup (h.nodup_version key).of_map (h'.nodup_version key).of_map).2 hmem
    refine hperm.eq_of_pairwise (fun s t _ _ hst hts => ?_) (h.sorted key) (h'.sorted key)
    rw [Std.OrientedCmp.gt_iff_lt.2 hst] at hts
    cases hts
  have hshelves : m.shelves = m'.shelves := SortedMap.ext_get? fun key => by
    have hkey := hversions key
    have hne := h.ne_nil key
    have hne' := h'.ne_nil key
    simp only [versions] at hkey
    cases hm : m.shelves.get? key <;> cases hm' : m'.shelves.get? key <;> simp_all
  rw [← mk.injEq] at hshelves
  exact hshelves

/-- A snapshot that is inserted is kept in the place of the one of its key and version. -/
theorem of_insert (h : m.Holds held) (hinsert : m.insert s = .ok m') :
    m'.Holds fun key version =>
      if s.key = key ∧ s.version = version then some s else held key version where
  sorted key := by
    rw [versions_insert hinsert]
    split
    · exact s.pairwise_insertVersion (h.sorted key)
    · exact h.sorted key
  held_iff key version t := by
    rw [versions_insert hinsert]
    by_cases hkey : s.key = key
    · rw [if_pos hkey, mem_insertVersion]
      by_cases hversion : s.version = version
      · rw [if_pos ⟨hkey, hversion⟩, Option.some.injEq]
        grind
      · rw [if_neg fun hs => hversion hs.2, h.held_iff]
        grind
    · rw [if_neg hkey, if_neg fun hs => hkey hs.1]
      exact h.held_iff key version t
  ne_nil key := by
    rw [insert] at hinsert
    split at hinsert
    · cases hinsert
    · rw [← Except.ok.inj hinsert, SortedMap.get?_insert]
      split
      · exact fun heq => List.ne_nil_of_mem (mem_insertVersion.2 (.inl rfl)) (Option.some.inj heq)
      · exact h.ne_nil key

/-- After a removal nothing is kept under the key. -/
theorem remove (h : m.Holds held) (k : Key) :
    (m.remove k).Holds fun key version => if k = key then none else held key version where
  sorted key := by
    rw [versions_remove]
    split
    · exact .nil
    · exact h.sorted key
  held_iff key version t := by
    rw [versions_remove]
    split
    · simp
    · exact h.held_iff key version t
  ne_nil key := by
    rw [Memory.remove, SortedMap.get?_erase]
    split
    · exact (Option.some_ne_none []).symm
    · exact h.ne_nil key

/-- What is kept after a change. -/
theorem change (h : m.Holds held) (ch : Change) :
    (m.change ch).Holds fun key version => ch.keep key version (held key version) := by
  cases ch with
  | insert s =>
    cases hvalid : s.validate with
    | error f => simpa [Memory.change, Memory.insert, Change.keep, hvalid] using h
    | ok u =>
      have hinsert : m.insert s = .ok (m.change (.insert s)) := by
        simp [Memory.change, Memory.insert, hvalid]
      simpa [Change.keep, hvalid] using h.of_insert hinsert
  | remove k => exact h.remove k

/-- What is kept after changes one after the other. -/
theorem after (h : m.Holds held) (changes : List Change) :
    (m.after changes).Holds fun key version =>
      changes.foldl (Change.keep key version) (held key version) := by
  induction changes generalizing m held with
  | nil => exact h
  | cons ch r ih => exact ih (h.change ch)

end Holds

/-- After every history an archive keeps what was accepted last. -/
theorem holds_after (changes : List Change) : (empty.after changes).Holds (accepted? changes) :=
  holds_empty.after changes

/-! ### Answers -/

/-- Of the given snapshots of a key, this one is the latest that had been taken by an instant. -/
structure IsLatest (held : Key → UInt64 → Option Snapshot) (key : Key) (asOf : Instant)
    (s : Snapshot) : Prop where
  /-- It is one of the snapshots. -/
  held_eq : held key s.version = some s
  /-- It had been taken. -/
  taken : s.capturedAt.atMost asOf = true
  /-- No other one that had been taken is later. -/
  isLE : ∀ version t, held key version = some t → t.capturedAt.atMost asOf = true →
    (t.ageOrder s).isLE = true

namespace Holds

variable {m : Memory} {held : Key → UInt64 → Option Snapshot} {key : Key} {asOf : Instant}

/-- An archive answers with the latest snapshot that had been taken. -/
theorem fetch_eq_ok_iff (h : m.Holds held) {s : Snapshot} :
    m.fetch key asOf = .ok s ↔ IsLatest held key asOf s := by
  have hlast : m.fetch key asOf = .ok s ↔
      ((m.versions key).filter fun t => t.capturedAt.atMost asOf).getLast? = some s := by
    rw [fetch]
    split
    · next t ht => rw [ht, Except.ok.injEq, Option.some.injEq]
    · next hnone => simp [hnone]
  rw [hlast, getLast?_eq_some_iff_of_pairwise ((h.sorted key).filter _), List.mem_filter, h.mem_iff]
  constructor
  · rintro ⟨⟨hheld, htaken⟩, hall⟩
    refine ⟨hheld, htaken, fun version t ht htaken' => ?_⟩
    exact hall t (List.mem_filter.2 ⟨((h.held_iff ..).1 ht).1, htaken'⟩)
  · rintro ⟨hheld, htaken, hall⟩
    refine ⟨⟨hheld, htaken⟩, fun t ht => ?_⟩
    obtain ⟨ht, htaken'⟩ := List.mem_filter.1 ht
    exact hall t.version t (h.mem_iff.1 ht) htaken'

/-- An archive fails only because no snapshot of the key had been taken. -/
theorem fetch_eq_error_iff (h : m.Holds held) {e : SourceError} :
    m.fetch key asOf = .error e ↔ e = .notFound key ∧
      ∀ version s, held key version = some s → s.capturedAt.atMost asOf = false := by
  have hnone : (∀ version s, held key version = some s → s.capturedAt.atMost asOf = false) ↔
      (m.versions key).filter (fun s => s.capturedAt.atMost asOf) = [] := by
    rw [List.filter_eq_nil_iff]
    constructor
    · intro hlate s hs htaken
      rw [hlate s.version s (h.mem_iff.1 hs)] at htaken
      cases htaken
    · intro hlate version s hs
      exact Bool.eq_false_iff.2 (hlate s ((h.held_iff ..).1 hs).1)
  rw [hnone, fetch]
  split
  · next s hs =>
    refine iff_of_false (by simp) fun hempty => ?_
    rw [hempty.2] at hs
    cases hs
  · next hs =>
    rw [and_iff_left (List.getLast?_eq_none_iff.1 hs), Except.error.injEq, eq_comm]

end Holds

/-- A snapshot is accepted if it is valid. -/
theorem exists_insert_iff {m : Memory} {s : Snapshot} :
    (∃ m', m.insert s = .ok m') ↔ s.validate = .ok () := by
  rw [insert]
  cases s.validate <;> simp

/-- After any history the versions of a key are different, in order, and those that were accepted
last; asked for an instant, the archive answers with the latest of them that had been taken, and
fails only because none had been.  Valid snapshots are accepted, an insertion that is refused might
as well not have been tried, and snapshots of different keys or versions may be inserted in any
order. -/
theorem latest_accepted_after (changes : List Change) :
    let m := empty.after changes
    (∀ key, ((m.versions key).map Snapshot.version).Nodup ∧
      ((m.versions key).Pairwise fun s t => s.ageOrder t = .lt) ∧
      ∀ s, s ∈ m.versions key ↔ accepted? changes key s.version = some s) ∧
    (∀ key asOf s, m.fetch key asOf = .ok s ↔ IsLatest (accepted? changes) key asOf s) ∧
    (∀ key asOf e, m.fetch key asOf = .error e ↔ e = .notFound key ∧
      ∀ version s, accepted? changes key version = some s → s.capturedAt.atMost asOf = false) ∧
    (∀ s, (∃ m', m.insert s = .ok m') ↔ s.validate = .ok ()) ∧
    (∀ s e later, m.insert s = .error e →
      empty.after (changes ++ .insert s :: later) = empty.after (changes ++ later)) ∧
    ∀ ss ss' : List Snapshot, ss.Perm ss' → (ss.map fun s => (s.key, s.version)).Nodup →
      empty.after (changes ++ ss.map .insert) = empty.after (changes ++ ss'.map .insert) := by
  intro m
  have hm : m.Holds (accepted? changes) := holds_after changes
  refine ⟨fun key => ⟨hm.nodup_version key, hm.sorted key, fun s => hm.mem_iff⟩,
    fun key asOf s => hm.fetch_eq_ok_iff, fun key asOf e => hm.fetch_eq_error_iff,
    fun s => exists_insert_iff, fun s e later hrefused => ?_, fun ss ss' hperm hdistinct => ?_⟩
  · have hunchanged : m.change (.insert s) = m := by rw [Memory.change, hrefused]
    rw [Memory.after, Memory.after, List.foldl_append, List.foldl_append, List.foldl_cons]
    exact congrArg (later.foldl Memory.change) hunchanged
  · refine (holds_after (changes ++ ss.map .insert)).ext ?_
    have hkept : accepted? (changes ++ ss'.map .insert) = accepted? (changes ++ ss.map .insert) :=
      funext fun key => funext fun version =>
        (accepted?_perm changes hperm hdistinct key version).symm
    rw [← hkept]
    exact holds_after (changes ++ ss'.map .insert)

end Memory

end BiblioQuery
