import BiblioQuery.Proofs.Archive.Manifests

/-!
# How operations of an archive end

Each operation of an archive takes several steps on the disk and one in memory, and may end at any
step that the disk refuses.  A file is put in its place in two steps; a snapshot is saved by making
its directory, putting its document in place, listing it in memory and putting the manifest in
place; it is removed by removing its document, taking it off the list and putting the manifest in
place.  So where the manifest cannot be put in place, the list in memory has changed already.

## Main definitions

* `Store.Replacing`, `Store.Saving`, `Store.Removing` : how the operations end, one case for each
  step at which they may.
* `Store.saved`, `Store.removed` : an archive in memory after a change.

## Main results

* `Store.replacing_of_replaceFile`, `Store.saving_of_save`, `Store.removing_of_remove` : there are
  no other ends.
* `Store.load_eq_ok`, `Store.fetch_eq_ok` : what is known of a snapshot that is loaded.
-/

namespace BiblioQuery.Store

variable {σ α β : Type} {disk : Disk σ} {st st' : Store} {d d' : σ}

/-! ### Actions -/

/-- An action after another one: a failure of the first one is the failure of both. -/
theorem bind_apply (x : StoreAction σ α) (f : α → StoreAction σ β) (w : Store × σ) :
    (x >>= f) w =
      match x w with
      | (.ok a, w') => f a w'
      | (.error e, w') => (.error e, w') := by
  change (match x w with | (r, w') => ExceptT.bindCont f r w') = _
  rcases x w with ⟨_ | _, w'⟩ <;> rfl

theorem get_bind_apply (f : Store × σ → StoreAction σ β) :
    (get >>= f : StoreAction σ β) (st, d) = f (st, d) (st, d) := rfl

theorem textOf_bind_apply (p : DiskPath) (f : String → StoreAction σ β) :
    (textOf p >>= f) (st, d) = f (st.pathText (fileText p)) (st, d) := rfl

theorem replaceFile_apply (report : String → DiskError → ArchiveError) (p : DiskPath)
    (bytes : List UInt8) :
    replaceFile disk report p bytes (st, d) =
      match disk.write (besidePath p) bytes d with
      | (.error c, d₁) => (.error (report (st.pathText (fileText (besidePath p))) c), (st, d₁))
      | (.ok (), d₁) =>
        match disk.rename (besidePath p) p d₁ with
        | (.error c, d₂) => (.error (.disk (st.pathText (fileText p)) c), (st, d₂))
        | (.ok (), d₂) => (.ok (), (st, d₂)) := by
  rw [replaceFile, textOf_bind_apply, bind_apply, reporting]
  rcases disk.write (besidePath p) bytes d with ⟨_ | _, d₁⟩
  · rfl
  · dsimp only
    rw [textOf_bind_apply, onDisk, reporting]
    rcases disk.rename (besidePath p) p d₁ with ⟨_ | _, d₂⟩ <;> rfl

/-! ### Files in their places -/

/-- How putting a file in its place ends, and the disk then. -/
inductive Replacing (disk : Disk σ) (report : String → DiskError → ArchiveError) (st : Store)
    (p : DiskPath) (bytes : List UInt8) (d : σ) : Except ArchiveError Unit → σ → Prop
  /-- The file could not be written. -/
  | notWritten {c : DiskError} {d' : σ}
    (hwrite : disk.write (besidePath p) bytes d = (.error c, d')) :
    Replacing disk report st p bytes d (.error (report (st.pathText (fileText (besidePath p))) c))
      d'
  /-- The file could not be moved. -/
  | notMoved {c : DiskError} {d₁ d' : σ}
    (hwrite : disk.write (besidePath p) bytes d = (.ok (), d₁))
    (hmove : disk.rename (besidePath p) p d₁ = (.error c, d')) :
    Replacing disk report st p bytes d (.error (.disk (st.pathText (fileText p)) c)) d'
  /-- The file is in its place. -/
  | done {d₁ d' : σ} (hwrite : disk.write (besidePath p) bytes d = (.ok (), d₁))
    (hmove : disk.rename (besidePath p) p d₁ = (.ok (), d')) :
    Replacing disk report st p bytes d (.ok ()) d'

/-- Putting a file in its place leaves the archive in memory alone, and ends in one of these ways.
-/
theorem replacing_of_replaceFile (disk : Disk σ) (report : String → DiskError → ArchiveError)
    (st : Store) (p : DiskPath) (bytes : List UInt8) (d : σ) :
    ∃ r d', replaceFile disk report p bytes (st, d) = (r, (st, d')) ∧
      Replacing disk report st p bytes d r d' := by
  rw [replaceFile_apply]
  rcases hwrite : disk.write (besidePath p) bytes d with ⟨c | _, d₁⟩
  · exact ⟨_, d₁, rfl, .notWritten hwrite⟩
  · dsimp only
    rcases hmove : disk.rename (besidePath p) p d₁ with ⟨c | _, d₂⟩
    · exact ⟨_, d₂, rfl, .notMoved hwrite hmove⟩
    · exact ⟨_, d₂, rfl, .done hwrite hmove⟩

/-- How the writing of a manifest ends is how putting it in its place ends. -/
theorem saveManifest_bind_pure {m : Manifest} {now : Instant} {r : Except ArchiveError Unit}
    {w : Store × σ}
    (h : replaceFile disk .ofManifest manifestPath
      (Sha256.textBytes { m with writtenAt := now }.pretty)
      ({ st with manifest := { m with writtenAt := now } }, d) = (r, w)) (a : α) :
    (saveManifest disk now >>= fun _ => pure a : StoreAction σ α) ({ st with manifest := m }, d) =
      (r.map fun _ => a, w) := by
  have hsave : saveManifest disk now ({ st with manifest := m }, d) = (r, w) := h
  rw [bind_apply, hsave]
  cases r <;> rfl

/-! ### Snapshots that are saved -/

/-- The archive in memory after a snapshot is put in, as of an instant. -/
def saved (st : Store) (now : Instant) (s : Snapshot) : Store :=
  { st with manifest := { st.manifest.upsert s.entry with writtenAt := now } }

/-- How saving a snapshot ends, and the archive in memory and the disk then. -/
inductive Saving (disk : Disk σ) (st : Store) (now : Instant) (s : Snapshot) (d : σ) :
    Except ArchiveError ManifestEntry → Store → σ → Prop
  /-- The snapshot is not valid. -/
  | invalid {f : SnapshotFault} (hvalid : s.validate = .error f) :
    Saving disk st now s d (.error (.invalidSnapshot f)) st d
  /-- A part of the key cannot be the name of a directory. -/
  | unnamed {part : String} (hpath : s.key.documentPath? = .error part) :
    Saving disk st now s d (.error (.invalidKey part)) st d
  /-- The directory of the document could not be made. -/
  | noDirectory {c : DiskError} {d' : σ}
    (hparts : ∀ part ∈ s.key.parts, isPathPart part = true)
    (hmake : disk.createDirs s.key.documentPath.dropLast d = (.error c, d')) :
    Saving disk st now s d
      (.error (.disk (st.pathText (fileText s.key.documentPath.dropLast)) c)) st d'
  /-- The document could not be put in its place. -/
  | noDocument {e : ArchiveError} {d₁ d' : σ}
    (hparts : ∀ part ∈ s.key.parts, isPathPart part = true)
    (hmake : disk.createDirs s.key.documentPath.dropLast d = (.ok (), d₁))
    (hdocument :
      Replacing disk .disk st s.key.documentPath (Sha256.textBytes s.pretty) d₁ (.error e) d') :
    Saving disk st now s d (.error e) st d'
  /-- The snapshot is listed, and the manifest is in its place or not. -/
  | listed {r : Except ArchiveError Unit} {d₁ d₂ d' : σ} (hvalid : s.validate = .ok ())
    (hparts : ∀ part ∈ s.key.parts, isPathPart part = true)
    (hmake : disk.createDirs s.key.documentPath.dropLast d = (.ok (), d₁))
    (hdocument :
      Replacing disk .disk st s.key.documentPath (Sha256.textBytes s.pretty) d₁ (.ok ()) d₂)
    (hmanifest : Replacing disk .ofManifest (st.saved now s) manifestPath
      (Sha256.textBytes (st.saved now s).manifest.pretty) d₂ r d') :
    Saving disk st now s d (r.map fun _ => s.entry) (st.saved now s) d'

/-- Saving a snapshot ends in one of these ways. -/
theorem saving_of_save (disk : Disk σ) (st : Store) (now : Instant) (s : Snapshot) (d : σ) :
    ∃ r st' d', save disk now s (st, d) = (r, (st', d')) ∧ Saving disk st now s d r st' d' := by
  rw [save]
  cases hvalid : s.validate with
  | error f => exact ⟨_, st, d, rfl, .invalid hvalid⟩
  | ok =>
    cases hpath : s.key.documentPath? with
    | error part => exact ⟨_, st, d, rfl, .unnamed hpath⟩
    | ok p =>
      obtain ⟨hparts, rfl⟩ := Key.documentPath?_eq_ok_iff.1 hpath
      dsimp only
      rw [textOf_bind_apply, bind_apply, onDisk, reporting]
      rcases hmake : disk.createDirs s.key.documentPath.dropLast d with ⟨c | _, d₁⟩
      · exact ⟨_, st, d₁, rfl, .noDirectory hparts hmake⟩
      dsimp only
      obtain ⟨r, d₂, hreplace, hdocument⟩ := replacing_of_replaceFile disk .disk st
        s.key.documentPath (Sha256.textBytes s.pretty) d₁
      rw [bind_apply, hreplace]
      cases r with
      | error e => exact ⟨_, st, d₂, rfl, .noDocument hparts hmake hdocument⟩
      | ok =>
        obtain ⟨r', d', hreplace', hmanifest⟩ := replacing_of_replaceFile disk .ofManifest
          (st.saved now s) manifestPath (Sha256.textBytes (st.saved now s).manifest.pretty) d₂
        exact ⟨r'.map fun _ => s.entry, st.saved now s, d',
          saveManifest_bind_pure (m := st.manifest.upsert s.entry) hreplace' s.entry,
          .listed hvalid hparts hmake hdocument hmanifest⟩

/-! ### Snapshots that are removed -/

/-- The archive in memory after a key is taken out, as of an instant. -/
def removed (st : Store) (now : Instant) (key : Key) : Store :=
  { st with manifest := { st.manifest.remove key with writtenAt := now } }

/-- How removing the snapshot of a key ends, and the archive in memory and the disk then. -/
inductive Removing (disk : Disk σ) (st : Store) (now : Instant) (key : Key) (d : σ) :
    Except ArchiveError Bool → Store → σ → Prop
  /-- Nothing is listed for the key. -/
  | unknown (hget : st.manifest.get? key = none) : Removing disk st now key d (.ok false) st d
  /-- The document could not be removed. -/
  | kept {entry : ManifestEntry} {c : DiskError} {d' : σ}
    (hget : st.manifest.get? key = some entry) (hmissing : c ≠ .notFound)
    (hunlink : disk.unlink (pathOfText entry.file) d = (.error c, d')) :
    Removing disk st now key d (.error (.disk (st.pathText entry.file) c)) st d'
  /-- The key is taken off the list, and the manifest is in its place or not. -/
  | unlisted {entry : ManifestEntry} {u : Except DiskError Unit} {r : Except ArchiveError Unit}
    {d₁ d' : σ} (hget : st.manifest.get? key = some entry)
    (hmissing : u = .ok () ∨ u = .error .notFound)
    (hunlink : disk.unlink (pathOfText entry.file) d = (u, d₁))
    (hmanifest : Replacing disk .ofManifest (st.removed now key) manifestPath
      (Sha256.textBytes (st.removed now key).manifest.pretty) d₁ r d') :
    Removing disk st now key d (r.map fun _ => true) (st.removed now key) d'

/-- Removing the snapshot of a key ends in one of these ways. -/
theorem removing_of_remove (disk : Disk σ) (st : Store) (now : Instant) (key : Key) (d : σ) :
    ∃ r st' d', remove disk now key (st, d) = (r, (st', d')) ∧
      Removing disk st now key d r st' d' := by
  rw [remove, get_bind_apply]
  dsimp only
  cases hget : st.manifest.get? key with
  | none => exact ⟨_, st, d, rfl, .unknown hget⟩
  | some entry =>
    dsimp only
    rw [bind_apply, unlinkIfPresent]
    rcases hunlink : disk.unlink (pathOfText entry.file) d with ⟨u, d₁⟩
    obtain ⟨r, d', hreplace, hmanifest⟩ := replacing_of_replaceFile disk .ofManifest
      (st.removed now key) manifestPath (Sha256.textBytes (st.removed now key).manifest.pretty) d₁
    have hrest := saveManifest_bind_pure (m := st.manifest.remove key) hreplace true
    by_cases hmissing : u = .ok () ∨ u = .error .notFound
    · refine ⟨r.map fun _ => true, st.removed now key, d', ?_,
        .unlisted hget hmissing hunlink hmanifest⟩
      rcases hmissing with rfl | rfl <;> exact hrest
    · cases u with
      | ok => exact absurd (.inl rfl) hmissing
      | error c =>
        have hc : c ≠ .notFound := fun h => hmissing (.inr (h ▸ rfl))
        refine ⟨_, st, d₁, ?_, .kept hget hc hunlink⟩
        cases c with
        | notFound => exact absurd rfl hc
        | _ => rfl

/-! ### Snapshots that are loaded -/

/-- What is made of the content of a document. -/
def judged (st : Store) (entry : ManifestEntry) (bytes : List UInt8) :
    Except ArchiveError Snapshot :=
  if Sha256.hex bytes = entry.sha256 then snapshotOfBytes bytes
  else .error (.checksumMismatch (st.pathText entry.file) entry.sha256 (Sha256.hex bytes))

theorem load_apply (disk : Disk σ) (st : Store) (key : Key) (d : σ) :
    load disk key (st, d) =
      match st.manifest.get? key with
      | none => (.error (.notInManifest key), (st, d))
      | some entry =>
        match disk.read (pathOfText entry.file) d with
        | (.error c, d') => (.error (.disk (st.pathText entry.file) c), (st, d'))
        | (.ok bytes, d') => (st.judged entry bytes, (st, d')) := by
  rw [load, get_bind_apply]
  dsimp only
  cases st.manifest.get? key with
  | none => rfl
  | some entry =>
    dsimp only
    rw [bind_apply, onDisk, reporting]
    rcases disk.read (pathOfText entry.file) d with ⟨_ | bytes, d'⟩
    · rfl
    · dsimp only
      rw [judged]
      split
      · cases snapshotOfBytes bytes <;> rfl
      · rfl

/-- A snapshot is loaded from bytes with the digest that is listed for its key. -/
theorem load_eq_ok {key : Key} {s : Snapshot} {w : Store × σ}
    (h : load disk key (st, d) = (.ok s, w)) :
    ∃ entry bytes, st.manifest.get? key = some entry ∧
      (disk.read (pathOfText entry.file) d).1 = .ok bytes ∧
      Sha256.hex bytes = entry.sha256 ∧ snapshotOfBytes bytes = .ok s := by
  rw [load_apply] at h
  cases hget : st.manifest.get? key with
  | none =>
    rw [hget] at h
    cases h
  | some entry =>
    rw [hget] at h
    rcases hread : disk.read (pathOfText entry.file) d with ⟨_ | bytes, d'⟩
    · simp only [hread] at h
      cases h
    · simp only [hread, judged] at h
      obtain ⟨hjudged, -⟩ := Prod.mk.inj h
      split at hjudged
      · rename_i hdigest
        exact ⟨entry, bytes, rfl, by rw [hread], hdigest, hjudged⟩
      · cases hjudged

/-- A snapshot that is fetched is loaded, and had been taken by the instant. -/
theorem fetch_eq_ok {key : Key} {asOf : Instant} {s : Snapshot} {w : Store × σ}
    (h : fetch disk key asOf (st, d) = (.ok s, w)) :
    load disk key (st, d) = (.ok s, w) ∧ s.capturedAt.atMost asOf = true := by
  rw [fetch] at h
  rcases hload : load disk key (st, d) with ⟨e | t, w'⟩
  · rw [hload] at h
    cases h
  · rw [hload] at h
    dsimp only at h
    split at h
    · rename_i hasOf
      obtain ⟨hs, rfl⟩ := Prod.mk.inj h
      obtain rfl := Except.ok.inj hs
      exact ⟨rfl, hasOf⟩
    · cases h

end BiblioQuery.Store
