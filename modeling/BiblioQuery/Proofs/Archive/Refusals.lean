import BiblioQuery.Proofs.Archive.Reopening

/-!
# Changes that fail

A disk may refuse any step of a change.  Up to the last step, which puts the manifest in its place,
a change that fails leaves the archive in memory as it was, and every key is answered as before:
documents are put in their places whole, and no document lies where another file is written first.
Where the last step is refused, the list in memory has changed already, and it is not changed back.

Requests may have failed before, so the documents need not be the ones that are listed.  What all
requests preserve is weaker than that the list, the manifest and the documents are in step: whatever
is listed, in memory or in the manifest, has its place in a directory that is there.

## Main definitions

* `Store.after` : an archive and its disk after requests, each of which may fail.
* `Store.Sound` : what is listed has its place.
* `Store.Change.applied` : an archive in memory after a change.

## Main results

* `Store.Sound.perform`, `Store.Sound.after` : requests preserve that what is listed has its place,
  whether they succeed or fail.
* `Store.Sound.spares_or_applied` : a change that fails touches no document, or fails at its last
  step.
* `Store.unchanged_or_applied_of_refusal` : how a change that fails leaves any archive that was
  opened where there was no manifest.
-/

namespace BiblioQuery

/-! ### Entries that have their places -/

/-- The document of an entry is named for the key, and its directory is there. -/
structure ManifestEntry.Placed {σ : Type} (disk : Disk σ) (d : σ) (e : ManifestEntry) : Prop where
  /-- The parts of the key can be names. -/
  parts : ∀ part ∈ e.key.parts, isPathPart part = true
  /-- The file is the one of the key. -/
  file : e.file = fileText e.key.documentPath
  /-- The directory is there. -/
  directory : disk.HasDirectory d e.key.documentPath.dropLast

/-- A manifest has the format that is read, and all its entries have their places. -/
structure Manifest.Placed {σ : Type} (disk : Disk σ) (d : σ) (m : Manifest) : Prop where
  /-- The format is the one that is read. -/
  format : m.format = currentFormat
  /-- The entries have their places. -/
  entries : ∀ e ∈ m.entries, e.Placed disk d

variable {σ : Type} {disk : Disk σ} {d d' : σ}

namespace ManifestEntry.Placed

variable {e : ManifestEntry}

theorem leaves (h : e.Placed disk d) {P : DiskPath → Prop} (hleaves : disk.Leaves d d' P) :
    e.Placed disk d' :=
  ⟨h.parts, h.file,
    hleaves.directory _ (Key.isPlain_documentPath h.parts).dropLast h.directory⟩

/-- The document is where the entry says. -/
theorem pathOfText_file (h : e.Placed disk d) : pathOfText e.file = e.key.documentPath := by
  rw [h.file]
  exact pathOfText_fileText (Key.isPlain_documentPath h.parts) (List.cons_ne_nil _ _)

end ManifestEntry.Placed

namespace Manifest.Placed

variable {m : Manifest}

theorem empty (disk : Disk σ) (d : σ) (now : Instant) : (Manifest.empty now).Placed disk d :=
  ⟨rfl, List.forall_mem_nil _⟩

theorem leaves (h : m.Placed disk d) {P : DiskPath → Prop} (hleaves : disk.Leaves d d' P) :
    m.Placed disk d' :=
  ⟨h.format, fun e he => (h.entries e he).leaves hleaves⟩

theorem upsert (h : m.Placed disk d) {e : ManifestEntry} (he : e.Placed disk d) (now : Instant) :
    Placed disk d { m.upsert e with writtenAt := now } :=
  ⟨h.format, fun f hf => (mem_entries_upsert hf).elim (fun hfe => hfe ▸ he) (h.entries f)⟩

theorem remove (h : m.Placed disk d) (key : Key) (now : Instant) :
    Placed disk d { m.remove key with writtenAt := now } :=
  ⟨h.format, fun f hf => h.entries f (List.mem_filter.1 hf).1⟩

/-- A manifest that is read back lists the same files. -/
theorem reread (h : m.Placed disk d) : m.reread.Placed disk d := by
  refine ⟨h.format, List.forall_mem_map.2 fun e he => ?_⟩
  exact ⟨(h.entries e he).parts, (h.entries e he).file, (h.entries e he).directory⟩

end Manifest.Placed

namespace Store

variable {st st' : Store} {root : String} {now : Instant} {d₁ : σ} {bytes : List UInt8}
  {report : String → DiskError → ArchiveError}

/-! ### What requests preserve -/

/-- What is listed, in memory or in a manifest on the disk, has its place. -/
structure Sound (disk : Disk σ) (st : Store) (d : σ) : Prop where
  /-- The root is a directory. -/
  root : disk.HasDirectory d []
  /-- What is listed in memory has its place. -/
  memory : st.manifest.Placed disk d
  /-- A manifest that can be read is the text of one, and what it lists has its place. -/
  document : ∀ bytes, disk.content d manifestPath = .ok bytes →
    ∃ m : Manifest, bytes = Sha256.textBytes m.pretty ∧ m.Placed disk d

/-- No document is touched, nor is the manifest, unless a directory is made in its place. -/
def Spares (disk : Disk σ) (d d' : σ) : Prop :=
  disk.Leaves d d' fun q =>
    (∀ key : Key, q ≠ key.documentPath) ∧ (q = manifestPath → disk.HasDirectory d' q)

/-- Where the manifest is touched when a document is put in its place, a directory is made there. -/
theorem hasDirectory_of_touched {key : Key} {r : Except ArchiveError Unit}
    (h : (manifestPath <+: key.documentPath.dropLast ∧ disk.HasDirectory d' manifestPath) ∨
      manifestPath = besidePath key.documentPath ∨ r = .ok () ∧ manifestPath = key.documentPath) :
    disk.HasDirectory d' manifestPath := by
  rcases h with ⟨-, hdir⟩ | hbeside | ⟨-, hplace⟩
  · exact hdir
  · simp [manifestPath, Key.documentPath, besidePath] at hbeside
  · exact absurd hplace.symm key.documentPath_ne_manifestPath

/-- Making the directory of a document touches no document. -/
theorem spares_of_createDirs (hdisk : disk.IsFaithful) {key : Key}
    (hparts : ∀ part ∈ key.parts, isPathPart part = true) {r : Except DiskError Unit}
    (hmake : disk.createDirs key.documentPath.dropLast d = (r, d')) : Spares disk d d' := by
  obtain ⟨hleaves, -⟩ := hdisk.createDirs (Key.isPlain_documentPath hparts).dropLast hmake
  refine hleaves.mono fun q _ ⟨hway, _, hdir⟩ => ⟨?_, fun _ => hdir⟩
  rintro key' rfl
  exact key'.not_documentPath_prefix key hway

/-- A document that cannot be put in its place is not touched. -/
theorem spares_of_replacing (hdisk : disk.IsFaithful) {key : Key}
    (hparts : ∀ part ∈ key.parts, isPathPart part = true)
    (hmake : disk.createDirs key.documentPath.dropLast d = (.ok (), d₁)) {e : ArchiveError}
    (hdocument : Replacing disk report st key.documentPath bytes d₁ (.error e) d') :
    Spares disk d d' := by
  obtain ⟨hleaves, -⟩ := leaves_of_document hdisk hparts hmake hdocument
  refine hleaves.mono fun q _ htouched => ⟨?_, ?_⟩
  · rintro key' rfl
    rcases htouched with ⟨hway, -⟩ | hbeside | ⟨⟨⟩, -⟩
    · exact key'.not_documentPath_prefix key hway
    · exact key'.documentPath_ne_beside key hbeside
  · rintro rfl
    exact hasDirectory_of_touched htouched

/-- A document that cannot be removed is not touched. -/
theorem spares_of_unlink (hdisk : disk.IsFaithful) {p : DiskPath} (hp : p.IsPlain) {c : DiskError}
    (hunlink : disk.unlink p d = (.error c, d')) : Spares disk d d' :=
  (hdisk.unlink hp hunlink).mono fun _ _ htouched => nomatch htouched.1

namespace Sound

/-- An entry that is listed has its place. -/
theorem placed (h : Sound disk st d) {key : Key} {entry : ManifestEntry}
    (hget : st.manifest.get? key = some entry) : entry.Placed disk d :=
  h.memory.entries entry (List.mem_of_find?_eq_some hget)

/-- What leaves the manifest alone, or makes a directory in its place, preserves that what is listed
has its place. -/
theorem of_leaves (h : Sound disk st d) {P : DiskPath → Prop} (hleaves : disk.Leaves d d' P)
    (hmanifest : P manifestPath → disk.HasDirectory d' manifestPath) : Sound disk st d' where
  root := hleaves.directory [] .nil h.root
  memory := h.memory.leaves hleaves
  document bytes hbytes := by
    by_cases htouched : P manifestPath
    · rw [hmanifest htouched] at hbytes
      cases hbytes
    · rw [hleaves.elsewhere manifestPath isPlain_manifestPath h.root htouched] at hbytes
      obtain ⟨m, hm, hplaced⟩ := h.document bytes hbytes
      exact ⟨m, hm, hplaced.leaves hleaves⟩

theorem of_spares (h : Sound disk st d) (hspares : Spares disk d d') : Sound disk st d' :=
  h.of_leaves hspares fun htouched => htouched.2 rfl

/-- Putting the list in memory in the place of the manifest preserves it, however that ends. -/
theorem of_replacing (h : Sound disk st d) (hdisk : disk.IsFaithful)
    {r : Except ArchiveError Unit}
    (hmanifest :
      Replacing disk .ofManifest st manifestPath (Sha256.textBytes st.manifest.pretty) d r d') :
    Sound disk st d' := by
  obtain ⟨hleaves, hcontent⟩ := hmanifest.leaves hdisk isPlain_manifestPath
  cases r with
  | error e =>
    refine h.of_leaves hleaves ?_
    rintro (hbeside | ⟨⟨⟩, -⟩)
    exact absurd hbeside manifestPath_ne_beside
  | ok =>
    refine ⟨hleaves.directory [] .nil h.root, h.memory.leaves hleaves, fun bytes hbytes => ?_⟩
    rw [hcontent rfl] at hbytes
    exact ⟨st.manifest, (Except.ok.inj hbytes).symm, h.memory.leaves hleaves⟩

/-- Making the root leaves the manifest alone. -/
theorem of_root (h : Sound disk st d) (hdisk : disk.IsFaithful) :
    Sound disk st (disk.createDirs [] d).2 := by
  obtain ⟨hleaves, -⟩ := hdisk.createDirs .nil rfl
  refine h.of_leaves hleaves fun hmanifest => ?_
  exact absurd (List.prefix_nil.1 hmanifest.1) (List.cons_ne_nil _ _)

/-- A manifest that is read lists what has its place. -/
theorem readManifest (h : Sound disk st d) (hdisk : disk.IsFaithful) {m : Manifest}
    (hread : Store.readManifest disk root now d = (.ok m, d')) : m.Placed disk d := by
  cases hpresent : disk.isPresent manifestPath d with
  | false =>
    rw [readManifest_of_absent hpresent] at hread
    rw [← Except.ok.inj (Prod.mk.inj hread).1]
    exact .empty disk d now
  | true =>
    rcases (hdisk.isPresent d isPlain_manifestPath).1 hpresent with ⟨bytes, hbytes⟩ | hdir
    · obtain ⟨m', rfl, hplaced⟩ := h.document bytes hbytes
      rw [readManifest_of_content hdisk hplaced.format hbytes] at hread
      rw [← Except.ok.inj (Prod.mk.inj hread).1]
      exact hplaced.reread
    · rw [readManifest_of_directory hdisk hdir] at hread
      cases hread

/-- An archive that is opened again lists what has its place. -/
theorem openAt (h : Sound disk st d) (hdisk : disk.IsFaithful)
    (hopen : Store.openAt disk root now d = (.ok st', d')) : Sound disk st' d' := by
  have hroot := h.of_root hdisk
  have hstate := openAt_state hdisk root now d
  rw [hopen] at hstate
  obtain rfl : d' = _ := hstate
  rw [Store.openAt] at hopen
  rcases hmake : disk.createDirs [] d with ⟨_ | _, d₁⟩
  · rw [hmake] at hopen
    cases hopen
  · rw [hmake] at hopen hroot
    dsimp only at hopen
    rcases hread : Store.readManifest disk root now d₁ with ⟨_ | m, d₂⟩
    · rw [hread] at hopen
      cases hopen
    · rw [hread] at hopen
      obtain rfl := Except.ok.inj (Prod.mk.inj hopen).1
      exact ⟨hroot.root, hroot.readManifest hdisk hread, hroot.document⟩

/-- A snapshot whose document is in its place has its place in the list. -/
theorem saved (h : Sound disk st d) (hdisk : disk.IsFaithful) (now : Instant) {s : Snapshot}
    (hparts : ∀ part ∈ s.key.parts, isPathPart part = true)
    (hmake : disk.createDirs s.key.documentPath.dropLast d = (.ok (), d₁))
    (hdocument :
      Replacing disk .disk st s.key.documentPath (Sha256.textBytes s.pretty) d₁ (.ok ()) d') :
    Sound disk (st.saved now s) d' := by
  obtain ⟨hleaves, hdir, -⟩ := leaves_of_document hdisk hparts hmake hdocument
  have hsame : Sound disk st d' := h.of_leaves hleaves hasDirectory_of_touched
  exact ⟨hsame.root, hsame.memory.upsert ⟨hparts, rfl, hdir⟩ now, hsame.document⟩

/-- A key whose document was removed is taken off the list. -/
theorem removed (h : Sound disk st d) (hdisk : disk.IsFaithful) (now : Instant) {key : Key}
    {entry : ManifestEntry} (hget : st.manifest.get? key = some entry) {u : Except DiskError Unit}
    (hunlink : disk.unlink (pathOfText entry.file) d = (u, d')) :
    Sound disk (st.removed now key) d' := by
  have hplaced := h.placed hget
  rw [hplaced.pathOfText_file] at hunlink
  have hleaves := hdisk.unlink (Key.isPlain_documentPath hplaced.parts) hunlink
  have hsame : Sound disk st d' := h.of_leaves hleaves fun htouched =>
    absurd htouched.2.symm entry.key.documentPath_ne_manifestPath
  exact ⟨hsame.root, hsame.memory.remove key now, hsame.document⟩

/-- What stands between a key and its snapshot is the content of its document. -/
theorem load_fst (h : Sound disk st d) (key : Key) :
    (load disk key (st, d)).1 =
      match st.manifest.get? key with
      | none => .error (.notInManifest key)
      | some entry =>
        match disk.content d entry.key.documentPath with
        | .error c => .error (.disk (st.pathText entry.file) c)
        | .ok bytes => st.judged entry bytes := by
  rw [load_apply]
  cases hget : st.manifest.get? key with
  | none => rfl
  | some entry =>
    have hplaced := h.placed hget
    dsimp only
    rw [hplaced.pathOfText_file, Disk.content]
    rcases disk.read entry.key.documentPath d with ⟨_ | _, _⟩ <;> dsimp only

/-- What touches no document changes no answer. -/
theorem load_eq_of_spares (h : Sound disk st d) (hspares : Spares disk d d') (key : Key) :
    (load disk key (st, d')).1 = (load disk key (st, d)).1 := by
  rw [h.load_fst, (h.of_spares hspares).load_fst]
  cases hget : st.manifest.get? key with
  | none => rfl
  | some entry =>
    have hplaced := h.placed hget
    have hsame := hspares.elsewhere _ (Key.isPlain_documentPath hplaced.parts) hplaced.directory
      fun htouched => htouched.1 entry.key rfl
    dsimp only
    rw [hsame]

/-- Saving a snapshot preserves that what is listed has its place, however it ends. -/
theorem saving (h : Sound disk st d) (hdisk : disk.IsFaithful) {s : Snapshot}
    {r : Except ArchiveError ManifestEntry} (hsave : Saving disk st now s d r st' d') :
    Sound disk st' d' := by
  cases hsave with
  | invalid | unnamed => exact h
  | noDirectory hparts hmake => exact h.of_spares (spares_of_createDirs hdisk hparts hmake)
  | noDocument hparts hmake hdocument =>
    exact h.of_spares (spares_of_replacing hdisk hparts hmake hdocument)
  | listed _ hparts hmake hdocument hmanifest =>
    exact (h.saved hdisk now hparts hmake hdocument).of_replacing hdisk hmanifest

/-- So does removing one. -/
theorem removing (h : Sound disk st d) (hdisk : disk.IsFaithful) {key : Key}
    {r : Except ArchiveError Bool} (hremove : Removing disk st now key d r st' d') :
    Sound disk st' d' := by
  cases hremove with
  | unknown => exact h
  | kept hget _ hunlink =>
    have hplaced := h.placed hget
    rw [hplaced.pathOfText_file] at hunlink
    exact h.of_spares
      (spares_of_unlink hdisk (Key.isPlain_documentPath hplaced.parts) hunlink)
  | unlisted hget _ hunlink hmanifest =>
    exact (h.removed hdisk now hget hunlink).of_replacing hdisk hmanifest

/-- A request preserves that what is listed has its place, whether it succeeds or fails. -/
theorem perform (h : Sound disk st d) (hdisk : disk.IsFaithful) (request : Request) :
    Sound disk (request.perform disk (st, d)).2.1 (request.perform disk (st, d)).2.2 := by
  rcases request with (⟨now, s⟩ | ⟨now, key⟩) | now
  · have hperform : Change.perform disk (.save now s) (st, d) = (_, (_, _)) := rfl
    obtain ⟨r, hend, -⟩ := Change.saving_of_perform hperform
    exact h.saving hdisk hend
  · have hperform : Change.perform disk (.remove now key) (st, d) = (_, (_, _)) := rfl
    obtain ⟨r, hend, -⟩ := Change.removing_of_perform hperform
    exact h.removing hdisk hend
  · have hroot := h.of_root hdisk
    rw [← openAt_state hdisk st.root now d] at hroot
    rw [Request.perform_reopen]
    rcases hopen : Store.openAt disk st.root now d with ⟨_ | st', d'⟩
    · rw [hopen] at hroot
      exact hroot
    · exact h.openAt hdisk hopen

end Sound

/-- An archive and its disk after requests, each of which may fail. -/
def after (disk : Disk σ) (requests : List Request) (w : Store × σ) : Store × σ :=
  requests.foldl (fun w request => (request.perform disk w).2) w

/-- Requests preserve that what is listed has its place, whichever of them fail. -/
theorem Sound.after (h : Sound disk st d) (hdisk : disk.IsFaithful) (requests : List Request) :
    Sound disk (Store.after disk requests (st, d)).1 (Store.after disk requests (st, d)).2 := by
  induction requests generalizing st d with
  | nil => exact h
  | cons request rest ih => exact ih (h.perform hdisk request)

/-! ### Changes that fail -/

/-- An archive in memory after a change. -/
def Change.applied (st : Store) : Change → Store
  | .save now s => st.saved now s
  | .remove now key => st.removed now key

/-- A manifest that was not put in its place. -/
theorem Replacing.replaceFile_eq {p : DiskPath} {r : Except ArchiveError Unit}
    (h : Replacing disk report st p bytes d r d') :
    replaceFile disk report p bytes (st, d) = (r, (st, d')) := by
  rw [replaceFile_apply]
  cases h with
  | notWritten hwrite => rw [hwrite]
  | notMoved hwrite hmove =>
    rw [hwrite]
    dsimp only
    rw [hmove]
  | done hwrite hmove =>
    rw [hwrite]
    dsimp only
    rw [hmove]

/-- A change that fails either leaves the archive in memory as it was, and touches no document, or
fails at its last step, after the change was made in memory. -/
theorem Sound.spares_or_applied (h : Sound disk st d) (hdisk : disk.IsFaithful) {c : Change}
    {e : ArchiveError} (hfail : c.perform disk (st, d) = (.error e, (st', d'))) :
    (st' = st ∧ Spares disk d d') ∨
      (st' = c.applied st ∧ ∃ d₂, replaceFile disk .ofManifest manifestPath
        (Sha256.textBytes st'.manifest.pretty) (st', d₂) = (.error e, (st', d'))) := by
  cases c with
  | save now s =>
    obtain ⟨r, hend, hr⟩ := Change.saving_of_perform hfail
    cases hend with
    | invalid | unnamed => exact .inl ⟨rfl, .refl disk d _⟩
    | noDirectory hparts hmake => exact .inl ⟨rfl, spares_of_createDirs hdisk hparts hmake⟩
    | noDocument hparts hmake hdocument =>
      exact .inl ⟨rfl, spares_of_replacing hdisk hparts hmake hdocument⟩
    | @listed r _ _ _ _ _ _ _ hmanifest =>
      cases r with
      | ok => cases hr
      | error e' =>
        obtain rfl : e' = e := Except.error.inj hr
        exact .inr ⟨rfl, _, hmanifest.replaceFile_eq⟩
  | remove now key =>
    obtain ⟨r, hend, hr⟩ := Change.removing_of_perform hfail
    cases hend with
    | unknown => cases hr
    | kept hget _ hunlink =>
      have hplaced := h.placed hget
      rw [hplaced.pathOfText_file] at hunlink
      exact .inl ⟨rfl, spares_of_unlink hdisk (Key.isPlain_documentPath hplaced.parts) hunlink⟩
    | @unlisted _ _ r _ _ _ _ _ hmanifest =>
      cases r with
      | ok => cases hr
      | error e' =>
        obtain rfl : e' = e := Except.error.inj hr
        exact .inr ⟨rfl, _, hmanifest.replaceFile_eq⟩

/-- In an archive that is opened where there is no manifest, what is listed has its place. -/
theorem sound_of_openAt (hdisk : disk.IsFaithful) {d₀ : σ} (hroot : disk.HasDirectory d₀ [])
    (hnew : disk.isPresent manifestPath d₀ = false)
    (hopen : openAt disk root now d₀ = (.ok st, d)) : Sound disk st d := by
  have hempty : Sound disk ⟨root, .empty now⟩ d₀ := by
    refine ⟨hroot, .empty disk d₀ now, fun bytes hbytes => ?_⟩
    rw [(hdisk.isPresent d₀ isPlain_manifestPath).2 (.inl ⟨bytes, hbytes⟩)] at hnew
    cases hnew
  exact hempty.openAt hdisk hopen

/-- After any requests to an archive that was opened where there was no manifest, on a faithful disk
that may have refused any step of them, a change that fails leaves the archive in memory as it was,
and every key is answered as before, unless the step that is refused is the last one: then the
change stays in memory, although the manifest could not be put in its place. -/
theorem unchanged_or_applied_of_refusal (hdisk : disk.IsFaithful) {d₀ : σ}
    (hroot : disk.HasDirectory d₀ []) (hnew : disk.isPresent manifestPath d₀ = false)
    (hopen : openAt disk root now d₀ = (.ok st, d)) {requests : List Request} {w : Store × σ}
    (hreach : after disk requests (st, d) = w) {c : Change} {e : ArchiveError}
    (hfail : c.perform disk w = (.error e, (st', d'))) :
    (st' = w.1 ∧ ∀ key, (load disk key (st', d')).1 = (load disk key w).1) ∨
      (st' = c.applied w.1 ∧ ∃ d₁, replaceFile disk .ofManifest manifestPath
        (Sha256.textBytes st'.manifest.pretty) (st', d₁) = (.error e, (st', d'))) := by
  have hsound := (sound_of_openAt hdisk hroot hnew hopen).after hdisk requests
  rw [hreach] at hsound
  refine (hsound.spares_or_applied hdisk hfail).imp_left ?_
  rintro ⟨rfl, hspares⟩
  exact ⟨rfl, hsound.load_eq_of_spares hspares⟩

/-- A second version is refused when its document is to be moved to its place: the first version is
still listed and loaded. -/
theorem unchanged_document_unmoved :
    let disk := FileTree.disk.refusing
    let refusals := List.replicate 7 none ++ [some (.other "Input/output error (os error 5)")]
    let a : UInt64 → Snapshot := .blank "a"
    ∃ e w w', after disk [.change (.save .epoch (a 1))]
        (⟨"root", .empty .epoch⟩, (.empty none, refusals)) = w ∧
      Change.perform disk (.save .epoch (a 2)) w = (.error e, w') ∧ w'.1 = w.1 ∧
      (∀ key, (load disk key w').1 = (load disk key w).1) ∧
      (load disk (a 1).key w').1 = .ok (a 1) := by
  obtain ⟨e, t, t', hreach, hfail, hread⟩ : ∃ e t t',
      after FileTree.disk.refusing [.change (.save .epoch (.blank "a" 1))]
          (⟨"root", .empty .epoch⟩, (.empty none,
            List.replicate 7 none ++ [some (.other "Input/output error (os error 5)")])) =
        (saved ⟨"root", .empty .epoch⟩ .epoch (.blank "a" 1), t) ∧
      Change.perform FileTree.disk.refusing (.save .epoch (.blank "a" 2))
          (saved ⟨"root", .empty .epoch⟩ .epoch (.blank "a" 1), t) =
        (.error e, (saved ⟨"root", .empty .epoch⟩ .epoch (.blank "a" 1), t')) ∧
      FileTree.disk.refusing.read (Snapshot.blank "a" 1).key.documentPath t =
        (.ok (Sha256.textBytes (Snapshot.blank "a" 1).pretty), t) :=
    ⟨_, _, _, Prod.ext rfl rfl, Prod.ext rfl rfl, rfl⟩
  intro disk refusals a
  have hopen : openAt disk "root" .epoch (.empty none, none :: refusals) =
      (.ok ⟨"root", .empty .epoch⟩, (.empty none, refusals)) := rfl
  have hstorable (version : UInt64) : (a version).Storable :=
    Snapshot.storable_blank (by decide) version
  have hholds := (holds_empty "root" .epoch).saved (hstorable 1) .epoch
  have hload := hholds.load_of_read (Function.update_self _ _ _) hread
  refine ⟨e, _, _, hreach, hfail, ?_⟩
  rcases unchanged_or_applied_of_refusal FileTree.isFaithful_disk.refusing
    (FileTree.hasDirectory_nil (.empty none)) rfl hopen hreach hfail with ⟨hst, hsame⟩ | ⟨hst, -⟩
  · exact ⟨hst, hsame, (hsame _).trans (congrArg Prod.fst hload)⟩
  · -- After the change the second version would be listed.
    have hfirst := hholds.lists (a 1).key
    have hsecond := (hholds.saved (hstorable 2) .epoch).lists (a 2).key
    rw [Function.update_self] at hfirst hsecond
    have hsame := congrArg (fun st => st.manifest.get? (a 1).key) hst
    have hentries := Option.some.inj (hfirst.symm.trans (hsame.trans hsecond))
    exact absurd (congrArg ManifestEntry.version hentries) (by decide)

/-- A snapshot is refused because its directory takes the place of the file that the manifest is
written to first, but it is listed and loaded then. -/
theorem listed_after_refusal :
    let s : Snapshot := .blank "manifest.json.tmp" 1
    let st : Store := ⟨"root", .empty .epoch⟩
    let t : FileTree := .empty none
    openAt FileTree.disk "root" .epoch t = (.ok st, t) ∧
      ∃ e w, Change.perform FileTree.disk (.save .epoch s) (st, t) = (.error e, w) ∧
        s.key ∉ st.keys ∧ s.key ∈ w.1.keys ∧
        (load FileTree.disk s.key (st, t)).1 = .error (.notInManifest s.key) ∧
        (load FileTree.disk s.key w).1 = .ok s := by
  obtain ⟨e, t', hfail, hread⟩ : ∃ e t',
      Change.perform FileTree.disk (.save .epoch (.blank "manifest.json.tmp" 1))
          (⟨"root", .empty .epoch⟩, .empty none) =
        (.error e, (saved ⟨"root", .empty .epoch⟩ .epoch (.blank "manifest.json.tmp" 1), t')) ∧
      FileTree.disk.read (Snapshot.blank "manifest.json.tmp" 1).key.documentPath t' =
        (.ok (Sha256.textBytes (Snapshot.blank "manifest.json.tmp" 1).pretty), t') :=
    ⟨_, _, Prod.ext rfl rfl, rfl⟩
  intro s st t
  have hafter := (holds_empty "root" .epoch).saved
    (Snapshot.storable_blank (show isPathPart "manifest.json.tmp" = true by decide) 1) .epoch
  have hheld : Function.update (fun _ => none) s.key (some s) s.key = some s :=
    Function.update_self _ _ _
  refine ⟨rfl, e, _, hfail, List.not_mem_nil, ?_, rfl, ?_⟩
  · exact hafter.mem_keys_iff.2 (by rw [hheld]; rfl)
  · rw [hafter.load_of_read hheld hread]

end Store

end BiblioQuery
