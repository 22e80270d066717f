import BiblioQuery.Proofs.Archive.Paths
import BiblioQuery.Proofs.Provider.Documents
import Mathlib.Data.List.Nodup
import Mathlib.Logic.Function.Basic

/-!
# Manifests as maps

The entries of a manifest stand in strictly ascending order of their keys, so a manifest is a map
from keys to entries: an entry that is put in takes the place of the one of its key, and all other
keys keep theirs.  A manifest is read back from its text, up to the leap seconds that a clock cannot
show.

## Main definitions

* `Manifest.Sorted` : the keys are in strictly ascending order.
* `Snapshot.entry` : what is listed for a snapshot.
* `Manifest.Lists` : a manifest lists the snapshots that are held under keys, and nothing else.
* `Manifest.reread` : a manifest as its text is read.

## Main results

* `Manifest.get?_upsert`, `Manifest.get?_remove` : what is listed after a change.
* `Manifest.Sorted.upsert`, `Manifest.Sorted.remove` : changes keep the order.
* `Manifest.Lists.upsert`, `Manifest.Lists.remove` : what is held after a change.
* `Manifest.parse_pretty` : a manifest is read from its text.
-/

namespace BiblioQuery

/-! ### Entries in order -/

namespace Manifest

variable {m : Manifest} {e f : ManifestEntry} {key : Key}

/-- The keys of the manifest are in strictly ascending order. -/
def Sorted (m : Manifest) : Prop := m.keys.Pairwise fun k l => compare k l = .lt

theorem sorted_empty (now : Instant) : (empty now).Sorted := .nil

theorem Sorted.nodup_keys (h : m.Sorted) : m.keys.Nodup := by
  refine h.imp fun hlt heq => ?_
  subst heq
  simp at hlt

/-- An entry is listed for its key. -/
theorem get?_eq_some_iff (h : m.Sorted) : m.get? key = some e ↔ e ∈ m.entries ∧ e.key = key := by
  have hnodup := h.nodup_keys
  constructor
  · intro hget
    exact ⟨List.mem_of_find?_eq_some hget, by simpa using List.find?_some hget⟩
  · rintro ⟨hmem, rfl⟩
    cases hget : m.get? e.key with
    | none =>
      have := List.find?_eq_none.1 hget e hmem
      simp at this
    | some f =>
      have hkey : f.key = e.key := by simpa using List.find?_some hget
      exact congrArg some
        (List.inj_on_of_nodup_map hnodup (List.mem_of_find?_eq_some hget) hmem hkey)

/-- A key is among the keys if something is listed for it. -/
theorem mem_keys_iff : key ∈ m.keys ↔ (m.get? key).isSome := by
  simp [keys, get?]

/-! ### Changes -/

theorem keys_replaceEntry (e : ManifestEntry) (l : List ManifestEntry) :
    (replaceEntry e l).map ManifestEntry.key = l.map ManifestEntry.key := by
  induction l with
  | nil => rfl
  | cons f r ih =>
    rw [replaceEntry]
    split
    · rename_i hkey
      rw [List.map_cons, List.map_cons, hkey]
    · rw [List.map_cons, List.map_cons, ih]

/-- The new entry of a key does not hide the entries of other keys. -/
theorem find?_replaceEntry_of_ne (h : key ≠ e.key) (l : List ManifestEntry) :
    (replaceEntry e l).find? (fun f => f.key == key) = l.find? fun f => f.key == key := by
  induction l with
  | nil => rfl
  | cons f r ih =>
    rw [replaceEntry]
    split
    · rename_i hkey
      simp [hkey, h.symm]
    · rw [List.find?_cons, List.find?_cons, ih]

theorem mem_replaceEntry {e f : ManifestEntry} {l : List ManifestEntry}
    (h : f ∈ replaceEntry e l) : f = e ∨ f ∈ l := by
  induction l with
  | nil => exact .inr h
  | cons g r ih =>
    rw [replaceEntry] at h
    split at h
    · exact (List.mem_cons.1 h).imp_right (List.mem_cons_of_mem g)
    · rcases List.mem_cons.1 h with rfl | h
      · exact .inr List.mem_cons_self
      · exact (ih h).imp_right (List.mem_cons_of_mem g)

/-- An entry that is listed after one is put in is that one, or was listed before. -/
theorem mem_entries_upsert {e f : ManifestEntry} (h : f ∈ (m.upsert e).entries) :
    f = e ∨ f ∈ m.entries := by
  rw [Manifest.upsert] at h
  dsimp only at h
  split at h
  · exact mem_replaceEntry h
  · rcases List.mem_append.1 (List.mem_mergeSort.1 h) with h | h
    · exact .inr h
    · exact .inl (List.mem_singleton.1 h)

theorem keyLE_trans {a b c : ManifestEntry} (hab : a.keyLE b = true) (hbc : b.keyLE c = true) :
    a.keyLE c = true := Std.TransCmp.isLE_trans hab hbc

theorem keyLE_total (a b : ManifestEntry) : (a.keyLE b || b.keyLE a) = true := by
  have hswap : compare b.key a.key = (compare a.key b.key).swap := Std.OrientedCmp.eq_swap
  rw [ManifestEntry.keyLE, ManifestEntry.keyLE, hswap]
  cases compare a.key b.key <;> rfl

/-- The keys stay in order when an entry is put in. -/
theorem Sorted.upsert (h : m.Sorted) (e : ManifestEntry) : (m.upsert e).Sorted := by
  rw [Sorted, keys, Manifest.upsert]
  split
  · rw [keys_replaceEntry]
    exact h
  · rename_i hnew
    have hperm : ((m.entries ++ [e]).mergeSort ManifestEntry.keyLE).Perm (m.entries ++ [e]) :=
      List.mergeSort_perm _ _
    have hnodup : (((m.entries ++ [e]).mergeSort ManifestEntry.keyLE).map
        ManifestEntry.key).Nodup := by
      refine (hperm.map ManifestEntry.key).nodup_iff.2 ?_
      rw [List.map_append, List.map_singleton, List.nodup_append]
      refine ⟨h.nodup_keys, List.nodup_singleton _, ?_⟩
      rintro _ hmem _ hkey rfl
      obtain rfl := List.mem_singleton.1 hkey
      exact hnew (mem_keys_iff.1 hmem)
    have hle := @List.pairwise_mergeSort _ ManifestEntry.keyLE (fun _ _ _ => keyLE_trans)
      keyLE_total (m.entries ++ [e])
    refine List.pairwise_map.2 (hle.imp₂ ?_ (List.pairwise_map.1 hnodup))
    intro a b hab hne
    cases hcompare : compare a.key b.key with
    | lt => rfl
    | eq => exact absurd (Std.LawfulEqCmp.eq_of_compare hcompare) hne
    | gt => simp [ManifestEntry.keyLE, hcompare] at hab

/-- The keys stay in order when one is taken out. -/
theorem Sorted.remove (h : m.Sorted) (key : Key) : (m.remove key).Sorted :=
  List.Pairwise.sublist ((List.filter_sublist).map ManifestEntry.key) h

/-- What is listed after an entry is put in. -/
theorem get?_upsert (h : m.Sorted) (e : ManifestEntry) (key : Key) :
    (m.upsert e).get? key = if key = e.key then some e else m.get? key := by
  split
  · rename_i hkey
    rw [hkey, get?_upsert_self]
  · rename_i hkey
    by_cases hold : (m.get? e.key).isSome
    · rw [Manifest.upsert, if_pos hold]
      exact find?_replaceEntry_of_ne hkey m.entries
    · refine Option.ext fun f => ?_
      rw [get?_eq_some_iff (h.upsert e), get?_eq_some_iff h, Manifest.upsert, if_neg hold]
      dsimp only
      rw [List.mem_mergeSort, List.mem_append, List.mem_singleton]
      constructor
      · rintro ⟨hf | rfl, rfl⟩
        · exact ⟨hf, rfl⟩
        · exact absurd rfl hkey
      · exact fun hf => ⟨.inl hf.1, hf.2⟩

/-- What is listed after a key is taken out. -/
theorem get?_remove (m : Manifest) (key key' : Key) :
    (m.remove key).get? key' = if key' = key then none else m.get? key' := by
  rw [get?, Manifest.remove, List.find?_filter]
  split
  · rename_i hkey
    subst hkey
    simp
  · rename_i hkey
    rw [get?]
    congr 1
    funext e
    by_cases he : e.key = key'
    · simp [he, hkey]
    · simp [he]

end Manifest

/-! ### Snapshots that are listed -/

/-- What is listed for a snapshot. -/
def Snapshot.entry (s : Snapshot) : ManifestEntry :=
  let bytes := Sha256.textBytes s.pretty
  ⟨s.key, s.version, s.capturedAt, fileText s.key.documentPath, Sha256.hex bytes,
    .ofNat bytes.length⟩

namespace Manifest

variable {m : Manifest} {held : Key → Option Snapshot}

/-- The manifest lists the snapshots that are held under keys, and nothing else. -/
def Lists (m : Manifest) (held : Key → Option Snapshot) : Prop :=
  ∀ key, m.get? key = (held key).map Snapshot.entry

theorem lists_empty (now : Instant) : (empty now).Lists fun _ => none := fun _ => rfl

/-- After the entry of a snapshot is put in, the snapshot is held under its key. -/
theorem Lists.upsert (h : m.Lists held) (hsorted : m.Sorted) (s : Snapshot) :
    (m.upsert s.entry).Lists (Function.update held s.key (some s)) := by
  intro key
  rw [get?_upsert hsorted, Function.update_apply]
  by_cases hkey : key = s.key
  · rw [if_pos (show key = s.entry.key from hkey), if_pos hkey]
    rfl
  · rw [if_neg (show ¬ key = s.entry.key from hkey), if_neg hkey, h key]

/-- After a key is taken out, nothing is held under it. -/
theorem Lists.remove (h : m.Lists held) (key : Key) :
    (m.remove key).Lists (Function.update held key none) := by
  intro key'
  rw [get?_remove, Function.update_apply]
  split
  · rfl
  · exact h key'

end Manifest

/-! ### Manifests read back -/

open Json

theorem Key.ofJson?_toJson (k : Key) : ofJson? k.toJson = some k := by
  rw [ofJson?, toJson, record?_object]
  case hkeys => rfl
  case hnodup => decide
  simp [↓bind_eq_elim, needed, field?, text?]

theorem Key.fits_toJson (k : Key) : k.toJson.Fits 1 := by
  simp [toJson]

theorem Instant.ofJson?_toJson_eq (i : Instant) : ofJson? i.toJson = some i.reread := by
  rw [ofJson?, toJson, text?, Option.bind_some, parse?_text]

/-- An entry as its text is read. -/
def ManifestEntry.reread (e : ManifestEntry) : ManifestEntry :=
  { e with capturedAt := e.capturedAt.reread }

theorem ManifestEntry.ofJson?_toJson (e : ManifestEntry) : ofJson? e.toJson = some e.reread := by
  rw [ofJson?, toJson, record?_object]
  case hkeys => rfl
  case hnodup => decide
  simp [↓bind_eq_elim, needed, field?, text?, Key.ofJson?_toJson, Instant.ofJson?_toJson_eq, reread]

theorem ManifestEntry.fits_toJson (e : ManifestEntry) : e.toJson.Fits 2 := by
  have hinstant : e.capturedAt.toJson.Fits 1 := fits_string e.capturedAt.text
  simp [toJson, Key.fits_toJson, hinstant]

namespace Manifest

/-- A manifest as its text is read. -/
def reread (m : Manifest) : Manifest :=
  { m with writtenAt := m.writtenAt.reread, entries := m.entries.map ManifestEntry.reread }

theorem formatNumber?_currentFormat :
    formatNumber? (ofWord currentFormat) = some currentFormat := by
  rw [formatNumber?, word?_ofWord]
  decide

theorem list?_entries (l : List ManifestEntry) :
    list? ManifestEntry.ofJson? (ofList ManifestEntry.toJson l) =
      some (l.map ManifestEntry.reread) := by
  simp only [list?, ofList]
  induction l with
  | nil => rfl
  | cons e r ih =>
    rw [List.map_cons, List.mapM_cons, ManifestEntry.ofJson?_toJson, ih]
    rfl

theorem ofJson?_toJson {m : Manifest} (h : m.format = currentFormat) :
    ofJson? m.toJson = some m.reread := by
  rw [ofJson?, toJson, record?_object, h]
  case hkeys => rfl
  case hnodup => decide
  simp [↓bind_eq_elim, needed, field?, text?, formatNumber?_currentFormat,
    Instant.ofJson?_toJson_eq,
    list?_entries, reread, h]

theorem fits_toJson (m : Manifest) : m.toJson.Fits maxLevels := by
  have hinstant : m.writtenAt.toJson.Fits 3 := fits_string m.writtenAt.text
  have hfits : m.toJson.Fits 4 := by
    simp [toJson, hinstant, fits_ofList ManifestEntry.fits_toJson]
  exact hfits.mono (by decide)

/-- A manifest is read from its text. -/
theorem parse_pretty {m : Manifest} (h : m.format = currentFormat) :
    parse m.pretty = .ok m.reread := by
  rw [parse, pretty, m.fits_toJson.parse?_pretty, Option.bind_some, ofJson?_toJson h]
  exact if_pos h

/-- Reading a manifest changes no key. -/
@[simp]
theorem keys_reread (m : Manifest) : m.reread.keys = m.keys := by
  simp [keys, reread, ManifestEntry.reread]

end Manifest

end BiblioQuery
