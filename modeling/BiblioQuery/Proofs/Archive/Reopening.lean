import BiblioQuery.Proofs.Archive.TidyTrees

/-!
# Archives that are opened again

What an archive holds is in three places: listed in memory, listed in the manifest on the disk, and
in the documents.  On a faithful disk that nothing else touches, every request that succeeds keeps
the three in step, and opening the archive again brings the list in memory back from the disk.  So
an archive is a map from keys to snapshots that outlives the program.

## Main definitions

* `Snapshot.IsWritten` : the document of a snapshot is in its place.
* `Store.Mirrored` : the list in memory, the manifest and the documents are in step.
* `Store.heldAfterAll` : what is held after requests in a row.

## Main results

* `Store.Mirrored.perform` : requests that succeed keep the three in step.
* `Store.Mirrored.exists_openAt` : an archive can always be opened again where the root can be made.
* `Store.Mirrored.exists_performAll` : requests to a file tree with room for the names are granted.
* `Store.keys_and_load_after_requests` : the keys and the answers after any requests.
-/

namespace BiblioQuery

/-! ### Documents in their places -/

/-- The document of a snapshot is in its place, in a directory that is there. -/
structure Snapshot.IsWritten {σ : Type} (disk : Disk σ) (d : σ) (s : Snapshot) : Prop where
  /-- The directory of the document is there. -/
  directory : disk.HasDirectory d s.key.documentPath.dropLast
  /-- The document is the text of the snapshot. -/
  content : disk.content d s.key.documentPath = .ok (Sha256.textBytes s.pretty)

/-- A document that is in its place stays there where it is not touched. -/
theorem Snapshot.IsWritten.leaves {σ : Type} {disk : Disk σ} {d d' : σ} {s : Snapshot}
    (h : s.IsWritten disk d) (hs : s.Storable) {P : DiskPath → Prop}
    (hleaves : disk.Leaves d d' P) (huntouched : ¬ P s.key.documentPath) :
    s.IsWritten disk d' :=
  have hpath := Key.isPlain_documentPath hs.parts
  ⟨hleaves.directory _ hpath.dropLast h.directory,
    (hleaves.elsewhere _ hpath h.directory huntouched).trans h.content⟩

namespace Store

variable {σ : Type} {disk : Disk σ} {st st' : Store} {d d₁ d' : σ} {held : Key → Option Snapshot}
  {m : Manifest} {root : String} {now : Instant}

/-- A manifest that is read back lists what it listed. -/
theorem Holds.reread (h : Holds ⟨root, m⟩ held) : Holds ⟨root, m.reread⟩ held := by
  have hentries : m.reread.entries = m.entries := by
    refine (List.map_congr_left fun e he => ?_).trans (List.map_id m.entries)
    obtain ⟨s, hs, rfl⟩ := Option.map_eq_some_iff.1
      ((h.lists e.key).symm.trans ((Manifest.get?_eq_some_iff h.sorted).2 ⟨he, rfl⟩))
    have hshown := (h.storable _ s hs).2.shown.capturedAt
    rw [ManifestEntry.reread, show s.entry.capturedAt = s.capturedAt from rfl,
      Instant.reread_eq_self hshown]
    rfl
  refine ⟨?_, fun key => ?_, h.format, h.storable⟩
  · rw [Manifest.Sorted, Manifest.keys_reread]
    exact h.sorted
  · rw [← h.lists key, Manifest.get?, Manifest.get?, hentries]

/-! ### Opening -/

theorem readManifest_of_absent (h : disk.isPresent manifestPath d = false) :
    readManifest disk root now d = (.ok (.empty now), d) := by
  rw [readManifest, if_neg (by simp [h])]

theorem readManifest_of_content (hdisk : disk.IsFaithful)
    (hformat : m.format = Manifest.currentFormat)
    (h : disk.content d manifestPath = .ok (Sha256.textBytes m.pretty)) :
    readManifest disk root now d = (.ok m.reread, d) := by
  have hpresent : disk.isPresent manifestPath d = true :=
    (hdisk.isPresent d isPlain_manifestPath).2 (.inl ⟨_, h⟩)
  have hread : disk.read manifestPath d = (.ok (Sha256.textBytes m.pretty), d) :=
    Prod.ext h (hdisk.read _ d)
  rw [readManifest, if_pos hpresent, hread]
  dsimp only
  rw [decodeBytes?_textBytes]
  dsimp only
  rw [Manifest.parse_pretty hformat]

theorem readManifest_of_directory (hdisk : disk.IsFaithful) (h : disk.HasDirectory d manifestPath) :
    readManifest disk root now d = (.error (.manifest .unreadable), d) := by
  have hpresent : disk.isPresent manifestPath d = true :=
    (hdisk.isPresent d isPlain_manifestPath).2 (.inr h)
  have hread : disk.read manifestPath d = (.error .isDirectory, d) := Prod.ext h (hdisk.read _ d)
  rw [readManifest, if_pos hpresent, hread]

/-! ### Memory and disk in step -/

/-- The list in memory, the manifest on the disk and the documents are in step. -/
structure Mirrored (disk : Disk σ) (held : Key → Option Snapshot) (st : Store) (d : σ) : Prop where
  /-- The list in memory lists what is held. -/
  holds : st.Holds held
  /-- The root is a directory. -/
  root : disk.HasDirectory d []
  /-- The documents of what is held are in their places. -/
  documents : ∀ key s, held key = some s → s.IsWritten disk d
  /-- There is no manifest and nothing is held, or the manifest lists what is held. -/
  manifest : (disk.isPresent manifestPath d = false ∧ held = fun _ => none) ∨
    ∃ m, disk.content d manifestPath = .ok (Sha256.textBytes m.pretty) ∧
      Holds { st with manifest := m } held

/-- Where there is no manifest, an archive that holds nothing is in step with the disk. -/
theorem mirrored_empty (hroot : disk.HasDirectory d [])
    (hnew : disk.isPresent manifestPath d = false) (root : String) (now : Instant) :
    Mirrored disk (fun _ => none) ⟨root, .empty now⟩ d where
  holds := holds_empty root now
  root := hroot
  documents _ _ h := by cases h
  manifest := .inl ⟨hnew, rfl⟩

namespace Mirrored

/-- What leaves the documents and the manifest alone keeps the three in step. -/
theorem of_leaves (h : Mirrored disk held st d) (hdisk : disk.IsFaithful) {P : DiskPath → Prop}
    (hleaves : disk.Leaves d d' P) (hdocuments : ∀ key : Key, ¬ P key.documentPath)
    (hmanifest : ¬ P manifestPath) : Mirrored disk held st d' where
  holds := h.holds
  root := hleaves.directory [] .nil h.root
  documents key s hs :=
    (h.documents key s hs).leaves (h.holds.storable key s hs).2 hleaves (hdocuments s.key)
  manifest := by
    have hsame := hleaves.elsewhere manifestPath isPlain_manifestPath h.root hmanifest
    have hpresent : disk.isPresent manifestPath d' = disk.isPresent manifestPath d := by
      rw [Bool.eq_iff_iff, hdisk.isPresent d' isPlain_manifestPath,
        hdisk.isPresent d isPlain_manifestPath, Disk.HasDirectory, Disk.HasDirectory, hsame]
    exact h.manifest.imp (And.imp_left hpresent.trans)
      (Exists.imp fun m => And.imp_left hsame.trans)

/-- The list in memory and the manifest are in step after the list is put in the place of the
manifest, if the documents are. -/
theorem of_replacing (hdisk : disk.IsFaithful) (hholds : st.Holds held)
    (hroot : disk.HasDirectory d [])
    (hdocuments : ∀ key s, held key = some s → s.IsWritten disk d)
    (h : Replacing disk .ofManifest st manifestPath (Sha256.textBytes st.manifest.pretty) d
      (.ok ()) d') :
    Mirrored disk held st d' := by
  obtain ⟨hleaves, hcontent⟩ := h.leaves hdisk isPlain_manifestPath
  refine ⟨hholds, hleaves.directory [] .nil hroot, fun key s hs => ?_,
    .inr ⟨st.manifest, hcontent rfl, hholds⟩⟩
  refine (hdocuments key s hs).leaves (hholds.storable key s hs).2 hleaves ?_
  rintro (hbeside | ⟨-, hplace⟩)
  · exact s.key.documentPath_ne_beside_manifestPath hbeside
  · exact s.key.documentPath_ne_manifestPath hplace

/-- A snapshot that is saved is in step. -/
theorem saved (h : Mirrored disk held st d) (hdisk : disk.IsFaithful) {now : Instant}
    {s : Snapshot} (hs : s.Storable) {d₁ d₂ d' : σ}
    (hmake : disk.createDirs s.key.documentPath.dropLast d = (.ok (), d₁))
    (hdocument :
      Replacing disk .disk st s.key.documentPath (Sha256.textBytes s.pretty) d₁ (.ok ()) d₂)
    (hmanifest : Replacing disk .ofManifest (st.saved now s) manifestPath
      (Sha256.textBytes (st.saved now s).manifest.pretty) d₂ (.ok ()) d') :
    Mirrored disk (Function.update held s.key (some s)) (st.saved now s) d' := by
  obtain ⟨hleaves, hdir, hcontent⟩ := leaves_of_document hdisk hs.parts hmake hdocument
  have hholds := h.holds.saved hs now
  refine of_replacing hdisk hholds (hleaves.directory [] .nil h.root) (fun key t ht => ?_) hmanifest
  by_cases hkey : key = s.key
  · rw [hkey, Function.update_self] at ht
    rw [← Option.some.inj ht]
    exact ⟨hdir, hcontent rfl⟩
  · rw [Function.update_of_ne hkey] at ht
    obtain ⟨rfl, htStorable⟩ := h.holds.storable key t ht
    refine (h.documents t.key t ht).leaves htStorable hleaves ?_
    rintro (⟨hway, -⟩ | hbeside | ⟨-, hplace⟩)
    · exact t.key.not_documentPath_prefix s.key hway
    · exact t.key.documentPath_ne_beside s.key hbeside
    · exact hkey (Key.documentPath_inj hplace)

/-- What is left when a snapshot is removed is in step. -/
theorem removed (h : Mirrored disk held st d) (hdisk : disk.IsFaithful) {now : Instant}
    {key : Key} {entry : ManifestEntry} (hget : st.manifest.get? key = some entry)
    {u : Except DiskError Unit} {d₁ d' : σ}
    (hunlink : disk.unlink (pathOfText entry.file) d = (u, d₁))
    (hmanifest : Replacing disk .ofManifest (st.removed now key) manifestPath
      (Sha256.textBytes (st.removed now key).manifest.pretty) d₁ (.ok ()) d') :
    Mirrored disk (Function.update held key none) (st.removed now key) d' := by
  obtain ⟨s, hs, rfl⟩ := Option.map_eq_some_iff.1 ((h.holds.lists key).symm.trans hget)
  obtain ⟨rfl, hstorable⟩ := h.holds.storable key s hs
  rw [pathOfText_file hstorable] at hunlink
  have hleaves := hdisk.unlink (Key.isPlain_documentPath hstorable.parts) hunlink
  refine of_replacing hdisk (h.holds.removed now s.key) (hleaves.directory [] .nil h.root)
    (fun key t ht => ?_) hmanifest
  by_cases hkey : key = s.key
  · rw [hkey, Function.update_self] at ht
    cases ht
  · rw [Function.update_of_ne hkey] at ht
    obtain ⟨rfl, htStorable⟩ := h.holds.storable key t ht
    exact (h.documents t.key t ht).leaves htStorable hleaves
      fun hplace => hkey (Key.documentPath_inj hplace.2)

/-- Where the root can be made, the archive is opened again, and the three are in step. -/
theorem exists_openAt (h : Mirrored disk held st d) (hdisk : disk.IsFaithful)
    (hmake : disk.createDirs [] d = (.ok (), d')) (now : Instant) :
    ∃ st', openAt disk st.root now d = (.ok st', d') ∧ Mirrored disk held st' d' := by
  obtain ⟨hleaves, -⟩ := hdisk.createDirs .nil hmake
  have hstep : Mirrored disk held st d' := by
    refine h.of_leaves hdisk hleaves (fun key hkey => ?_) fun hmanifest => ?_
    · exact absurd (List.prefix_nil.1 hkey.1) (List.cons_ne_nil _ _)
    · exact absurd (List.prefix_nil.1 hmanifest.1) (List.cons_ne_nil _ _)
  rw [openAt, hmake]
  dsimp only
  rcases hstep.manifest with ⟨hnew, rfl⟩ | ⟨m, hcontent, hm⟩
  · rw [readManifest_of_absent hnew]
    exact ⟨_, rfl, mirrored_empty hstep.root hnew st.root now⟩
  · rw [readManifest_of_content hdisk hm.format hcontent]
    exact ⟨_, rfl, hm.reread, hstep.root, hstep.documents, .inr ⟨m, hcontent, hm⟩⟩

/-- A request that succeeds keeps the three in step. -/
theorem perform (h : Mirrored disk held st d) (hdisk : disk.IsFaithful) {request : Request}
    (hshown : ∀ c, request = .change c → c.Shown)
    (hperform : request.perform disk (st, d) = (.ok (), (st', d'))) :
    Mirrored disk (request.hold held) st' d' := by
  cases request with
  | change c =>
    cases c with
    | save now s =>
      obtain ⟨r, hend, hr⟩ := Change.saving_of_perform hperform
      cases hend with
      | invalid | unnamed | noDirectory | noDocument => cases hr
      | @listed r _ _ _ hvalid hparts hmake hdocument hmanifest =>
        cases r with
        | error e => cases hr
        | ok =>
          exact h.saved hdisk ⟨hvalid, hparts, hshown _ rfl⟩ hmake hdocument hmanifest
    | remove now key =>
      obtain ⟨r, hend, hr⟩ := Change.removing_of_perform hperform
      cases hend with
      | kept => cases hr
      | unknown hget =>
        have hnone := h.holds.get?_eq_none_iff.1 hget
        rw [Request.hold, Change.hold, ← hnone, Function.update_eq_self]
        exact h
      | @unlisted _ _ r _ _ hget _ hunlink hmanifest =>
        cases r with
        | error e => cases hr
        | ok => exact h.removed hdisk hget hunlink hmanifest
  | reopen now =>
    rcases hmake : disk.createDirs [] d with ⟨_ | _, d₁⟩
    · rw [Request.perform_reopen, openAt, hmake] at hperform
      cases hperform
    · obtain ⟨st₁, hopen, hstep⟩ := h.exists_openAt hdisk hmake now
      rw [Request.perform_reopen, hopen] at hperform
      obtain ⟨rfl, rfl⟩ := Prod.mk.inj (Prod.mk.inj hperform).2
      exact hstep

end Mirrored

/-! ### Requests in a row -/

/-- The snapshots that are held under keys after requests to an archive that holds nothing. -/
def heldAfterAll (requests : List Request) : Key → Option Snapshot :=
  requests.foldl Request.hold fun _ => none

/-- Requests that all succeed keep the three in step. -/
theorem Mirrored.performAll {requests : List Request} (h : Mirrored disk held st d)
    (hdisk : disk.IsFaithful) (hshown : ∀ c, .change c ∈ requests → c.Shown)
    (hperform : Store.performAll disk requests (st, d) = (.ok (), (st', d'))) :
    Mirrored disk (requests.foldl Request.hold held) st' d' := by
  induction requests generalizing st d held with
  | nil =>
    obtain ⟨rfl, rfl⟩ := Prod.mk.inj (Prod.mk.inj hperform).2
    exact h
  | cons request rest ih =>
    obtain ⟨⟨st₁, d₁⟩, hfirst, hrest⟩ := performAll_cons_eq_ok_iff.1 hperform
    have hstep := h.perform hdisk (fun c hc => hshown c (hc ▸ List.mem_cons_self)) hfirst
    exact ih hstep (fun c hc => hshown c (List.mem_cons_of_mem _ hc)) hrest

/-! ### Requests to file trees -/

/-- A document that is listed can be removed. -/
theorem Mirrored.exists_unlink {t : FileTree} (h : Mirrored FileTree.disk held st t)
    (htidy : t.Tidy) {key : Key} {entry : ManifestEntry}
    (hget : st.manifest.get? key = some entry) :
    ∃ t', FileTree.disk.unlink (pathOfText entry.file) t = (.ok (), t') ∧ t'.Tidy ∧
      t'.nameLimit = t.nameLimit := by
  obtain ⟨s, hs, rfl⟩ := Option.map_eq_some_iff.1 ((h.holds.lists key).symm.trans hget)
  obtain ⟨rfl, hstorable⟩ := h.holds.storable key s hs
  rw [pathOfText_file hstorable]
  exact htidy.exists_unlink (Key.isPlain_documentPath hstorable.parts)
    (h.documents s.key s hs).content

/-- In a tidy file tree with room for the names, every request is granted where the three are in
step, if the snapshots that are to be saved can be. -/
theorem Mirrored.exists_perform {t : FileTree} (h : Mirrored FileTree.disk held st t)
    (htidy : t.Tidy) (htakes : t.takesName "manifest.json.tmp" = true) {request : Request}
    (hsave : ∀ now s, request = .change (.save now s) →
      s.Storable ∧ s.code ∉ reservedNames ∧ t.Takes s) :
    ∃ st' t', request.perform FileTree.disk (st, t) = (.ok (), (st', t')) ∧ t'.Tidy ∧
      t'.nameLimit = t.nameLimit := by
  rcases request with (⟨now, s⟩ | ⟨now, key⟩) | now
  · obtain ⟨hs, hcode, hnames⟩ := hsave now s rfl
    obtain ⟨t', hsaved, htidy', hlimit⟩ :=
      htidy.exists_save hs.valid hs.parts hcode hnames st now
    exact ⟨_, t', Change.perform_save hsaved, htidy', hlimit⟩
  · obtain ⟨r, st', t', hremove, hend⟩ := removing_of_remove FileTree.disk st now key t
    have hperform := Change.perform_remove hremove
    cases hend with
    | unknown => exact ⟨st, t, hperform, htidy, rfl⟩
    | kept hget _ hunlink =>
      obtain ⟨t₁, hgone, -⟩ := h.exists_unlink htidy hget
      cases hgone.symm.trans hunlink
    | unlisted hget _ hunlink hmanifest =>
      obtain ⟨t₁, hgone, htidy₁, hlimit₁⟩ := h.exists_unlink htidy hget
      obtain ⟨-, rfl⟩ := Prod.mk.inj (hgone.symm.trans hunlink)
      obtain ⟨rfl, htidy', hlimit'⟩ :=
        htidy₁.manifest_eq_ok ((FileTree.takesName_congr hlimit₁ _).trans htakes) hmanifest
      exact ⟨_, t', hperform, htidy', hlimit'.trans hlimit₁⟩
  · obtain ⟨st', hopen, -⟩ := h.exists_openAt FileTree.isFaithful_disk rfl now
    exact ⟨st', t, by rw [Request.perform_reopen, hopen], htidy, rfl⟩

/-- So are requests in a row. -/
theorem Mirrored.exists_performAll {t : FileTree} (h : Mirrored FileTree.disk held st t)
    (htidy : t.Tidy) (htakes : t.takesName "manifest.json.tmp" = true) {requests : List Request}
    (hsaves : ∀ now s, .change (.save now s) ∈ requests →
      s.Storable ∧ s.code ∉ reservedNames ∧ t.Takes s) :
    ∃ st' t', Store.performAll FileTree.disk requests (st, t) = (.ok (), (st', t')) := by
  induction requests generalizing st t held with
  | nil => exact ⟨st, t, rfl⟩
  | cons request rest ih =>
    have hfirst (now : Instant) (s : Snapshot) (heq : request = .change (.save now s)) :=
      hsaves now s (heq ▸ List.mem_cons_self)
    obtain ⟨st₁, t₁, hperform, htidy₁, hlimit⟩ := h.exists_perform htidy htakes hfirst
    have hshown (c : Change) (heq : request = .change c) : c.Shown := by
      cases c with
      | save now s => exact (hfirst now s heq).1.shown
      | remove => trivial
    have hnames (n : String) : t₁.takesName n = t.takesName n := FileTree.takesName_congr hlimit n
    obtain ⟨st', t', hrest⟩ := ih (h.perform FileTree.isFaithful_disk hshown hperform) htidy₁
      ((hnames _).trans htakes) fun now s hmem => by
        obtain ⟨hs, hcode, hfits⟩ := hsaves now s (List.mem_cons_of_mem _ hmem)
        exact ⟨hs, hcode, fun n hn => (hnames n).trans (hfits n hn)⟩
    exact ⟨st', t', performAll_cons_eq_ok_iff.2 ⟨_, hperform, hrest⟩⟩

/-! ### An archive as a map -/

/-- An archive that is opened where there is no manifest, on a faithful disk, is a map from keys to
snapshots that outlives the program: after any changes and openings that succeed, its keys are those
under which something is held, in strictly ascending order, and each of them, and no other, is
answered with the snapshot that is held. -/
theorem keys_and_load_after_requests (hdisk : disk.IsFaithful) {d₀ : σ}
    (hroot : disk.HasDirectory d₀ []) (hnew : disk.isPresent manifestPath d₀ = false)
    {root : String} {now : Instant} (hopen : openAt disk root now d₀ = (.ok st, d))
    {requests : List Request} (hshown : ∀ c, .change c ∈ requests → c.Shown)
    (hperform : performAll disk requests (st, d) = (.ok (), (st', d'))) :
    (st'.keys.Pairwise fun k l => compare k l = .lt) ∧
      (∀ key, key ∈ st'.keys ↔ (heldAfterAll requests key).isSome) ∧
      ∀ key, (load disk key (st', d')).1 =
        match heldAfterAll requests key with
        | some s => .ok s
        | none => .error (.notInManifest key) := by
  have hstart : Mirrored disk (fun _ => none) st d := by
    have hempty := mirrored_empty hroot hnew root now
    rcases hmake : disk.createDirs [] d₀ with ⟨_ | _, d₁⟩
    · rw [openAt, hmake] at hopen
      cases hopen
    · obtain ⟨st₁, hopen', hstep⟩ := hempty.exists_openAt hdisk hmake now
      obtain ⟨hst, rfl⟩ := Prod.mk.inj (hopen'.symm.trans hopen)
      obtain rfl := Except.ok.inj hst
      exact hstep
  have hend : Mirrored disk (heldAfterAll requests) st' d' :=
    hstart.performAll hdisk hshown hperform
  refine ⟨hend.holds.sorted, fun key => hend.holds.mem_keys_iff, fun key => ?_⟩
  cases hheld : heldAfterAll requests key with
  | none => rw [hend.holds.load_of_none hheld]
  | some s =>
    have hread : disk.read key.documentPath d' = (.ok (Sha256.textBytes s.pretty), d') :=
      Prod.ext ((hend.holds.storable key s hheld).1 ▸ (hend.documents key s hheld).content)
        (hdisk.read _ d')
    rw [hend.holds.load_of_read hheld hread]

/-- Snapshots of two providers are saved, the archive is opened again, one of them is saved again,
the other one is removed, and the archive is opened once more. -/
theorem keys_and_load_two_providers :
    let a : UInt64 → Snapshot := .blank "a"
    let b : Snapshot := .blank "b" 1
    let requests : List Request :=
      [.change (.save .epoch (a 1)), .change (.save .epoch b), .reopen .epoch,
        .change (.save .epoch (a 2)), .change (.remove .epoch b.key), .reopen .epoch]
    ∃ st' t', performAll FileTree.disk requests (⟨"root", .empty .epoch⟩, .empty none) =
        (.ok (), (st', t')) ∧
      (a 2).key ∈ st'.keys ∧ b.key ∉ st'.keys ∧
      (load FileTree.disk (a 2).key (st', t')).1 = .ok (a 2) ∧
      (load FileTree.disk b.key (st', t')).1 = .error (.notInManifest b.key) := by
  intro a b requests
  have hnew : FileTree.disk.isPresent manifestPath (.empty none) = false := rfl
  have hsaves : ∀ now s, .change (.save now s) ∈ requests →
      s.Storable ∧ s.code ∉ reservedNames ∧ (FileTree.empty none).Takes s := by
    have hblank (code : String) (hpart : isPathPart code = true) (hcode : code ∉ reservedNames)
        (version : UInt64) : (Snapshot.blank code version).Storable ∧ code ∉ reservedNames ∧
          (FileTree.empty none).Takes (.blank code version) :=
      ⟨Snapshot.storable_blank hpart version, hcode, fun _ _ => rfl⟩
    intro now s hmem
    simp only [requests, List.mem_cons, Request.change.injEq, Change.save.injEq, reduceCtorEq,
      List.not_mem_nil, or_false, false_or] at hmem
    rcases hmem with ⟨-, rfl⟩ | ⟨-, rfl⟩ | ⟨-, rfl⟩
    · exact hblank "a" (by decide) (by decide) 1
    · exact hblank "b" (by decide) (by decide) 1
    · exact hblank "a" (by decide) (by decide) 2
  have hshown : ∀ c, .change c ∈ requests → c.Shown := by
    rintro (⟨now, s⟩ | _) hc
    · exact (hsaves now s hc).1.shown
    · trivial
  obtain ⟨st', t', hperform⟩ := (mirrored_empty (FileTree.hasDirectory_nil _) hnew "root"
    .epoch).exists_performAll (FileTree.tidy_empty none) rfl hsaves
  obtain ⟨-, hkeys, hload⟩ := keys_and_load_after_requests FileTree.isFaithful_disk
    (FileTree.hasDirectory_nil _) hnew rfl hshown hperform
  have ha : heldAfterAll requests (a 2).key = some (a 2) := rfl
  have hb : heldAfterAll requests b.key = none := rfl
  refine ⟨st', t', hperform, ?_, ?_, ?_, ?_⟩
  · rw [hkeys, ha, Option.isSome_some]
  · rw [hkeys, hb]
    exact Bool.false_ne_true
  · rw [hload, ha]
  · rw [hload, hb]

end Store

end BiblioQuery
