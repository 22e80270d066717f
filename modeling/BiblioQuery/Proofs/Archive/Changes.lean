import BiblioQuery.Proofs.Archive.Outcomes

/-!
# What an archive holds

A snapshot is held under its key from when it is saved until it is removed or another one is saved
under the key.  After every change that succeeds the manifest in memory lists exactly the snapshots
that are held, whatever the disk is like, and a document with the bytes that were saved is loaded as
the snapshot that was saved.

## Main definitions

* `Store.Change` : a snapshot is saved, or one is removed.
* `Store.Change.perform`, `Store.Change.hold` : what a change does, and what is held then.
* `Store.Request`, `Store.performAll` : changes and openings one after the other.
* `Snapshot.Storable` : a snapshot that can be saved and read back.
* `Store.Holds` : the manifest in memory lists the snapshots that are held.

## Main results

* `Store.Holds.perform` : it still does after a change that succeeds.
* `Store.Holds.load_of_read` : a document that was saved is loaded.
* `Store.Holds.held_of_load_eq_ok` : what is loaded is held, or its document collides with the one
  that was saved.
-/

namespace BiblioQuery

/-- A snapshot that can be saved and read back: it is valid, the parts of its key can be names, and
a clock can show its instants. -/
structure Snapshot.Storable (s : Snapshot) : Prop where
  /-- The snapshot is valid. -/
  valid : s.validate = .ok ()
  /-- The parts of the key can be names. -/
  parts : ∀ part ∈ s.key.parts, isPathPart part = true
  /-- A clock can show the instants. -/
  shown : s.Shown

/-- A snapshot of a provider that declares nothing and has no rules, taken at the epoch. -/
def Snapshot.blank (code : String) (version : UInt64) : Snapshot where
  provenanceId := 1
  code := code
  taskType := "harvest"
  operation := "search"
  version := version
  capturedAt := .epoch
  declarations := []
  dialect := .standard
  rules := []

theorem Snapshot.storable_blank {code : String} (h : isPathPart code = true) (version : UInt64) :
    (blank code version).Storable where
  valid := validate_empty rfl rfl
  parts := List.forall_mem_cons.2
    ⟨h, show ∀ part ∈ ["harvest", "search"], isPathPart part = true by decide⟩
  shown :=
    ⟨.inl (show 0 < 1000000000 by decide), List.forall_mem_nil _, List.forall_mem_nil _⟩

namespace Store

variable {σ : Type} {disk : Disk σ} {st st' : Store} {d d' : σ} {held : Key → Option Snapshot}

/-! ### Changes -/

/-- A change of an archive, with what the clock shows. -/
inductive Change where
  /-- A snapshot is saved. -/
  | save (now : Instant) (s : Snapshot)
  /-- The snapshot of a key is removed. -/
  | remove (now : Instant) (key : Key)

namespace Change

/-- What an archive does for a change. -/
def perform (disk : Disk σ) : Change → StoreAction σ Unit
  | .save now s => do
    let _ ← Store.save disk now s
    return ()
  | .remove now key => do
    let _ ← Store.remove disk now key
    return ()

/-- The snapshots that are held under keys after a change. -/
def hold (held : Key → Option Snapshot) : Change → Key → Option Snapshot
  | .save _ s => Function.update held s.key (some s)
  | .remove _ key => Function.update held key none

/-- A clock can show the instants of a snapshot that is saved. -/
def Shown : Change → Prop
  | .save _ s => s.Shown
  | .remove _ _ => True

theorem perform_save {now : Instant} {s : Snapshot} {r : Except ArchiveError ManifestEntry}
    {w w' : Store × σ} (h : Store.save disk now s w = (r, w')) :
    perform disk (.save now s) w = (r.map fun _ => (), w') := by
  rw [perform, bind_apply, h]
  cases r <;> rfl

theorem perform_remove {now : Instant} {key : Key} {r : Except ArchiveError Bool}
    {w w' : Store × σ} (h : Store.remove disk now key w = (r, w')) :
    perform disk (.remove now key) w = (r.map fun _ => (), w') := by
  rw [perform, bind_apply, h]
  cases r <;> rfl

/-- How a snapshot is saved when a change is made. -/
theorem saving_of_perform {now : Instant} {s : Snapshot} {r : Except ArchiveError Unit}
    (h : perform disk (.save now s) (st, d) = (r, (st', d'))) :
    ∃ r', Saving disk st now s d r' st' d' ∧ (r'.map fun _ => ()) = r := by
  obtain ⟨r', st₁, d₁, hsave, hend⟩ := saving_of_save disk st now s d
  obtain ⟨hr, hw⟩ := Prod.mk.inj ((perform_save hsave).symm.trans h)
  obtain ⟨rfl, rfl⟩ := Prod.mk.inj hw
  exact ⟨r', hend, hr⟩

/-- How one is removed. -/
theorem removing_of_perform {now : Instant} {key : Key} {r : Except ArchiveError Unit}
    (h : perform disk (.remove now key) (st, d) = (r, (st', d'))) :
    ∃ r', Removing disk st now key d r' st' d' ∧ (r'.map fun _ => ()) = r := by
  obtain ⟨r', st₁, d₁, hremove, hend⟩ := removing_of_remove disk st now key d
  obtain ⟨hr, hw⟩ := Prod.mk.inj ((perform_remove hremove).symm.trans h)
  obtain ⟨rfl, rfl⟩ := Prod.mk.inj hw
  exact ⟨r', hend, hr⟩

end Change

/-- A request to an archive. -/
inductive Request where
  /-- A change is to be made. -/
  | change (c : Change)
  /-- The archive is opened again at its root, with what the clock shows. -/
  | reopen (now : Instant)

namespace Request

/-- What an archive does for a request; if it cannot be opened again, it stays as it is. -/
def perform (disk : Disk σ) : Request → StoreAction σ Unit
  | .change c => c.perform disk
  | .reopen now => fun (st, d) =>
    match openAt disk st.root now d with
    | (.ok st', d') => (.ok (), (st', d'))
    | (.error e, d') => (.error e, (st, d'))

theorem perform_reopen (now : Instant) :
    perform disk (.reopen now) (st, d) =
      match openAt disk st.root now d with
      | (.ok st', d') => (.ok (), (st', d'))
      | (.error e, d') => (.error e, (st, d')) := rfl

/-- The snapshots that are held under keys after a request. -/
def hold (held : Key → Option Snapshot) : Request → Key → Option Snapshot
  | .change c => c.hold held
  | .reopen _ => held

end Request

/-- Requests one after the other, up to the first one that fails. -/
def performAll (disk : Disk σ) (requests : List Request) : StoreAction σ Unit :=
  requests.forM (Request.perform disk)

theorem performAll_cons_eq_ok_iff {request : Request} {rest : List Request} {w w' : Store × σ} :
    performAll disk (request :: rest) w = (.ok (), w') ↔
      ∃ w₁, request.perform disk w = (.ok (), w₁) ∧ performAll disk rest w₁ = (.ok (), w') := by
  change (request.perform disk >>= fun _ => performAll disk rest) w = _ ↔ _
  rw [bind_apply]
  rcases request.perform disk w with ⟨_ | _, w₁⟩
  · constructor
    · rintro ⟨⟩
    · rintro ⟨_, ⟨⟩, -⟩
  · refine ⟨fun h => ⟨w₁, rfl, h⟩, fun ⟨w₂, h, h'⟩ => ?_⟩
    rwa [(Prod.mk.inj h).2]

/-! ### Snapshots that are held -/

/-- The manifest in memory lists the snapshots that are held under keys, in order, and each of them
can be read back. -/
structure Holds (st : Store) (held : Key → Option Snapshot) : Prop where
  /-- The keys are in order. -/
  sorted : st.manifest.Sorted
  /-- The manifest lists what is held. -/
  lists : st.manifest.Lists held
  /-- The manifest has the format that is read. -/
  format : st.manifest.format = Manifest.currentFormat
  /-- What is held under a key has that key, and can be read back. -/
  storable : ∀ key s, held key = some s → s.key = key ∧ s.Storable

/-- A new archive holds nothing. -/
theorem holds_empty (root : String) (now : Instant) :
    Holds ⟨root, .empty now⟩ fun _ => none :=
  ⟨Manifest.sorted_empty now, Manifest.lists_empty now, rfl, fun _ _ h => by cases h⟩

namespace Holds

theorem saved (h : st.Holds held) {s : Snapshot} (hs : s.Storable) (now : Instant) :
    (st.saved now s).Holds (Function.update held s.key (some s)) where
  sorted := h.sorted.upsert s.entry
  lists := h.lists.upsert h.sorted s
  format := h.format
  storable key t ht := by
    by_cases hkey : key = s.key
    · rw [hkey, Function.update_self] at ht
      obtain rfl := Option.some.inj ht
      exact ⟨hkey.symm, hs⟩
    · rw [Function.update_of_ne hkey] at ht
      exact h.storable key t ht

theorem removed (h : st.Holds held) (now : Instant) (key : Key) :
    (st.removed now key).Holds (Function.update held key none) where
  sorted := h.sorted.remove key
  lists := h.lists.remove key
  format := h.format
  storable key' t ht := by
    by_cases hkey : key' = key
    · rw [hkey, Function.update_self] at ht
      cases ht
    · rw [Function.update_of_ne hkey] at ht
      exact h.storable key' t ht

/-- Nothing is listed for a key under which nothing is held. -/
theorem get?_eq_none_iff (h : st.Holds held) {key : Key} :
    st.manifest.get? key = none ↔ held key = none := by
  rw [h.lists key, Option.map_eq_none_iff]

/-- The keys are those under which something is held. -/
theorem mem_keys_iff (h : st.Holds held) {key : Key} :
    key ∈ st.keys ↔ (held key).isSome := by
  rw [keys, Manifest.mem_keys_iff, h.lists key, Option.isSome_map]

/-- After a change that succeeds the manifest lists what is held then. -/
theorem perform (h : st.Holds held) {c : Change} (hshown : c.Shown)
    (hperform : c.perform disk (st, d) = (.ok (), (st', d'))) : st'.Holds (c.hold held) := by
  cases c with
  | save now s =>
    obtain ⟨r, hend, hr⟩ := Change.saving_of_perform hperform
    cases hend with
    | invalid | unnamed | noDirectory | noDocument => cases hr
    | listed hvalid hparts => exact h.saved ⟨hvalid, hparts, hshown⟩ now
  | remove now key =>
    obtain ⟨r, hend, hr⟩ := Change.removing_of_perform hperform
    cases hend with
    | kept => cases hr
    | unlisted => exact h.removed now key
    | unknown hget =>
      have hnone := h.get?_eq_none_iff.1 hget
      rw [Change.hold, ← hnone, Function.update_eq_self]
      exact h

end Holds

/-! ### Snapshots that are loaded -/

theorem decodeBytes?_textBytes (s : String) : decodeBytes? (Sha256.textBytes s) = some s := by
  rw [decodeBytes?, Sha256.toArray_textBytes, String.fromUTF8?, dif_pos s.isValidUTF8]
  exact congrArg some (String.toByteArray_inj.1 rfl)

/-- The document of a snapshot is where its entry says. -/
theorem pathOfText_file {s : Snapshot} (h : s.Storable) :
    pathOfText s.entry.file = s.key.documentPath :=
  pathOfText_fileText (Key.isPlain_documentPath h.parts) (List.cons_ne_nil _ _)

/-- The document of a snapshot is read as the snapshot. -/
theorem snapshotOfBytes_pretty {s : Snapshot} (h : s.Storable) :
    snapshotOfBytes (Sha256.textBytes s.pretty) = .ok s := by
  rw [snapshotOfBytes, decodeBytes?_textBytes]
  dsimp only
  rw [Snapshot.parse_pretty_eq h.valid h.shown]

namespace Holds

/-- A key under which nothing is held is not in the manifest. -/
theorem load_of_none (h : st.Holds held) {key : Key} (hnone : held key = none) :
    load disk key (st, d) = (.error (.notInManifest key), (st, d)) := by
  rw [load_apply, h.get?_eq_none_iff.2 hnone]

/-- A snapshot whose document is in its place is loaded. -/
theorem load_of_read (h : st.Holds held) {key : Key} {s : Snapshot} (hheld : held key = some s)
    (hread : disk.read key.documentPath d = (.ok (Sha256.textBytes s.pretty), d')) :
    load disk key (st, d) = (.ok s, (st, d')) := by
  obtain ⟨rfl, hs⟩ := h.storable key s hheld
  rw [load_apply, h.lists s.key, hheld, Option.map_some]
  dsimp only
  rw [pathOfText_file hs, hread]
  dsimp only
  rw [judged, if_pos (show Sha256.hex (Sha256.textBytes s.pretty) = s.entry.sha256 from rfl),
    snapshotOfBytes_pretty hs]

/-- What is loaded is held, unless its document collides with the one that was saved. -/
theorem held_of_load_eq_ok (h : st.Holds held) {key : Key} {s : Snapshot} {w : Store × σ}
    (hload : load disk key (st, d) = (.ok s, w))
    (hcollision : ∀ t bytes, held key = some t →
      (disk.read key.documentPath d).1 = .ok bytes →
        ¬ Sha256.Collision bytes (Sha256.textBytes t.pretty)) : held key = some s := by
  obtain ⟨entry, bytes, hget, hread, hdigest, hjudged⟩ := load_eq_ok hload
  rw [h.lists key] at hget
  obtain ⟨t, ht, rfl⟩ := Option.map_eq_some_iff.1 hget
  obtain ⟨rfl, hstorable⟩ := h.storable key t ht
  rw [pathOfText_file hstorable] at hread
  -- The digest is the one that was listed, so the bytes are the ones that were saved.
  have hbytes : bytes = Sha256.textBytes t.pretty := by
    by_contra hne
    exact hcollision t bytes ht hread ⟨hne, Sha256.hex_eq_iff.1 hdigest⟩
  rw [hbytes, snapshotOfBytes_pretty hstorable] at hjudged
  rw [ht, Except.ok.inj hjudged]

end Holds

end Store

end BiblioQuery
