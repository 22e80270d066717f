import BiblioQuery.Proofs.Archive.Outcomes

/-!
# Faithful disks

What an archive relies on in a disk whose operations may be refused at any time: an operation that
succeeds has done what it is for, one that is refused may have made some directories or written a
part of a file but has moved and removed nothing, no operation takes a directory away, and none
changes what stands elsewhere.  All this is said of what can be read, for paths of plain names and
for files in directories that there are.

## Main definitions

* `Disk.content`, `Disk.HasDirectory` : what can be read at a path.
* `Disk.Leaves` : what a step of a disk leaves alone.
* `Disk.IsFaithful` : the disks that an archive relies on.
* `Disk.refusing` : a disk that refuses the steps that a list says.

## Main results

* `Disk.IsFaithful.refusing` : a faithful disk stays faithful if it refuses any of its steps.
* `Store.Replacing.leaves` : what putting a file in its place leaves alone.
* `Store.leaves_of_document` : what putting a document in its place leaves alone.
* `Store.openAt_state` : what an opening does to the disk.
-/

namespace BiblioQuery

namespace Disk

variable {σ : Type} (disk : Disk σ)

/-- What is read at a path. -/
def content (d : σ) (p : DiskPath) : Except DiskError (List UInt8) := (disk.read p d).1

/-- There is a directory at a path. -/
def HasDirectory (d : σ) (p : DiskPath) : Prop := disk.content d p = .error .isDirectory

/-- All directories of a disk are still there in another state of it, and what stands in one of them
is read as before, but for some paths. -/
structure Leaves (d d' : σ) (touched : DiskPath → Prop) : Prop where
  /-- A directory is still one. -/
  directory : ∀ q : DiskPath, q.IsPlain → disk.HasDirectory d q → disk.HasDirectory d' q
  /-- What stands in a directory and is not touched is read as before. -/
  elsewhere : ∀ q : DiskPath, q.IsPlain → disk.HasDirectory d q.dropLast → ¬ touched q →
    disk.content d' q = disk.content d q

/-- A disk that does what it is asked to, or refuses, and leaves everything else alone. -/
structure IsFaithful : Prop where
  /-- Reading changes nothing. -/
  read : ∀ p d, (disk.read p d).2 = d
  /-- What is present is a file that can be read, or a directory. -/
  isPresent : ∀ {p : DiskPath} d, p.IsPlain → (disk.isPresent p d = true ↔
    (∃ bytes, disk.content d p = .ok bytes) ∨ disk.HasDirectory d p)
  /-- Only directories on the way are made, where nothing was; in the end there is a directory. -/
  createDirs : ∀ {p : DiskPath} {d r d'}, p.IsPlain → disk.createDirs p d = (r, d') →
    disk.Leaves d d'
        (fun q => q <+: p ∧ disk.content d q = .error .notFound ∧ disk.HasDirectory d' q) ∧
      (r = .ok () → disk.HasDirectory d' p)
  /-- Only the file that is written changes; in the end it is what was written. -/
  write : ∀ {p : DiskPath} {bytes d r d'}, p.IsPlain → disk.write p bytes d = (r, d') →
    disk.Leaves d d' (fun q => q = p) ∧ (r = .ok () → disk.content d' p = .ok bytes)
  /-- Only the two paths of a move change, and only if it succeeds; what was at one of them is then
  at the other. -/
  rename : ∀ {p q : DiskPath} {d r d'}, p.IsPlain → q.IsPlain → disk.rename p q d = (r, d') →
    disk.Leaves d d' (fun x => r = .ok () ∧ (x = p ∨ x = q)) ∧
      (r = .ok () → disk.content d' q = disk.content d p)
  /-- Only the file that is removed changes, and only if that succeeds. -/
  unlink : ∀ {p : DiskPath} {d r d'}, p.IsPlain → disk.unlink p d = (r, d') →
    disk.Leaves d d' fun q => r = .ok () ∧ q = p

namespace Leaves

variable {disk} {d d₁ d' : σ} {P Q : DiskPath → Prop}

theorem refl (disk : Disk σ) (d : σ) (P : DiskPath → Prop) : disk.Leaves d d P :=
  ⟨fun _ _ h => h, fun _ _ _ _ => rfl⟩

theorem mono (h : disk.Leaves d d' P) (hPQ : ∀ q : DiskPath, q.IsPlain → P q → Q q) :
    disk.Leaves d d' Q :=
  ⟨h.directory, fun q hq hdir hQ => h.elsewhere q hq hdir fun hP => hQ (hPQ q hq hP)⟩

theorem trans (h : disk.Leaves d d₁ P) (h' : disk.Leaves d₁ d' Q) :
    disk.Leaves d d' fun q => P q ∨ Q q where
  directory q hq hdir := h'.directory q hq (h.directory q hq hdir)
  elsewhere q hq hdir htouched := by
    obtain ⟨hP, hQ⟩ := not_or.1 htouched
    have hdir₁ := h.directory _ hq.dropLast hdir
    exact (h'.elsewhere q hq hdir₁ hQ).trans (h.elsewhere q hq hdir hP)

end Leaves

/-! ### Disks that refuse steps -/

/-- A step that is refused if the list says so at its head, and then changes nothing. -/
def refuse {α : Type} (a : DiskAction σ α) : DiskAction (σ × List (Option DiskError)) α
  | (d, some c :: rest) => (.error c, (d, rest))
  | (d, refusals) => ((a d).1, ((a d).2, refusals.tail))

/-- A disk that works as another one, but refuses those steps that change something for which a list
has a reason. -/
def refusing : Disk (σ × List (Option DiskError)) where
  createDirs p := refuse (disk.createDirs p)
  write p bytes := refuse (disk.write p bytes)
  rename p q := refuse (disk.rename p q)
  unlink p := refuse (disk.unlink p)
  read p := fun (d, refusals) => ((disk.read p d).1, ((disk.read p d).2, refusals))
  isPresent p := fun (d, _) => disk.isPresent p d

variable {disk}

theorem refuse_eq {α : Type} {a : DiskAction σ α} {w w' : σ × List (Option DiskError)}
    {r : Except DiskError α} (h : refuse a w = (r, w')) :
    (∃ c, r = .error c) ∧ w'.1 = w.1 ∨ a w.1 = (r, w'.1) := by
  obtain ⟨d, _ | ⟨_ | c, rest⟩⟩ := w
  · obtain ⟨rfl, rfl⟩ := Prod.mk.inj h
    exact .inr rfl
  · obtain ⟨rfl, rfl⟩ := Prod.mk.inj h
    exact .inr rfl
  · obtain ⟨rfl, rfl⟩ := Prod.mk.inj h
    exact .inl ⟨⟨c, rfl⟩, rfl⟩

theorem leaves_refusing {w w' : σ × List (Option DiskError)} {P : DiskPath → Prop}
    (h : disk.Leaves w.1 w'.1 P) : disk.refusing.Leaves w w' P :=
  ⟨h.directory, h.elsewhere⟩

/-- A faithful disk that refuses steps is faithful. -/
theorem IsFaithful.refusing (h : disk.IsFaithful) : disk.refusing.IsFaithful where
  read p w := Prod.ext (h.read p w.1) rfl
  isPresent w hp := h.isPresent w.1 hp
  createDirs {p w r w'} hp hmake := by
    rcases refuse_eq hmake with ⟨⟨c, rfl⟩, hstate⟩ | hmake
    · exact ⟨leaves_refusing (hstate ▸ .refl disk w.1 _), nofun⟩
    · exact (h.createDirs hp hmake).imp_left leaves_refusing
  write {p bytes w r w'} hp hwrite := by
    rcases refuse_eq hwrite with ⟨⟨c, rfl⟩, hstate⟩ | hwrite
    · exact ⟨leaves_refusing (hstate ▸ .refl disk w.1 _), nofun⟩
    · exact (h.write hp hwrite).imp_left leaves_refusing
  rename {p q w r w'} hp hq hmove := by
    rcases refuse_eq hmove with ⟨⟨c, rfl⟩, hstate⟩ | hmove
    · exact ⟨leaves_refusing (hstate ▸ .refl disk w.1 _), nofun⟩
    · exact (h.rename hp hq hmove).imp_left leaves_refusing
  unlink {p w r w'} hp hunlink := by
    rcases refuse_eq hunlink with ⟨-, hstate⟩ | hunlink
    · exact leaves_refusing (hstate ▸ .refl disk w.1 _)
    · exact leaves_refusing (h.unlink hp hunlink)

end Disk

/-! ### Files that are put in their places -/

namespace Store

variable {σ : Type} {disk : Disk σ} {st : Store} {d d₁ d' : σ} {bytes : List UInt8}
  {report : String → DiskError → ArchiveError}

/-- Putting a file in its place touches the place beside it where it is written first, and its own
place only if it succeeds. -/
theorem Replacing.leaves (hdisk : disk.IsFaithful) {p : DiskPath} (hp : p.IsPlain)
    {r : Except ArchiveError Unit} (h : Replacing disk report st p bytes d r d') :
    disk.Leaves d d' (fun q => q = besidePath p ∨ r = .ok () ∧ q = p) ∧
      (r = .ok () → disk.content d' p = .ok bytes) := by
  cases h with
  | notWritten hwrite =>
    obtain ⟨hwritten, -⟩ := hdisk.write hp.beside hwrite
    exact ⟨hwritten.mono fun q _ hq => .inl hq, nofun⟩
  | notMoved hwrite hmove =>
    obtain ⟨hwritten, -⟩ := hdisk.write hp.beside hwrite
    obtain ⟨hmoved, -⟩ := hdisk.rename hp.beside hp hmove
    refine ⟨(hwritten.trans hmoved).mono fun q _ hq => ?_, nofun⟩
    exact hq.imp_right fun hq => nomatch hq.1
  | done hwrite hmove =>
    obtain ⟨hwritten, hcontent⟩ := hdisk.write hp.beside hwrite
    obtain ⟨hmoved, hkept⟩ := hdisk.rename hp.beside hp hmove
    refine ⟨(hwritten.trans hmoved).mono fun q _ hq => ?_,
      fun _ => (hkept rfl).trans (hcontent rfl)⟩
    rcases hq with hq | ⟨-, hq | hq⟩
    · exact .inl hq
    · exact .inl hq
    · exact .inr ⟨rfl, hq⟩

/-- Putting a document in its place touches, beside its own place, only directories that are missing
on the way to it. -/
theorem leaves_of_document (hdisk : disk.IsFaithful) {key : Key}
    (hparts : ∀ part ∈ key.parts, isPathPart part = true)
    (hmake : disk.createDirs key.documentPath.dropLast d = (.ok (), d₁))
    {r : Except ArchiveError Unit} (h : Replacing disk report st key.documentPath bytes d₁ r d') :
    disk.Leaves d d' (fun q => (q <+: key.documentPath.dropLast ∧ disk.HasDirectory d' q) ∨
        q = besidePath key.documentPath ∨ r = .ok () ∧ q = key.documentPath) ∧
      disk.HasDirectory d' key.documentPath.dropLast ∧
      (r = .ok () → disk.content d' key.documentPath = .ok bytes) := by
  have hpath := Key.isPlain_documentPath hparts
  obtain ⟨hmade, hdir⟩ := hdisk.createDirs hpath.dropLast hmake
  obtain ⟨hreplaced, hcontent⟩ := h.leaves hdisk hpath
  refine ⟨(hmade.trans hreplaced).mono fun q hq htouched => ?_,
    hreplaced.directory _ hpath.dropLast (hdir rfl), hcontent⟩
  exact htouched.imp_left fun hmissing => ⟨hmissing.1, hreplaced.directory q hq hmissing.2.2⟩

/-! ### Openings -/

theorem readManifest_state (hdisk : disk.IsFaithful) (root : String) (now : Instant) (d : σ) :
    (readManifest disk root now d).2 = d := by
  rw [readManifest]
  split
  · have hstate := hdisk.read manifestPath d
    rcases hread : disk.read manifestPath d with ⟨e | bytes, d'⟩
    · rw [hread] at hstate
      cases e <;> exact hstate
    · rw [hread] at hstate
      dsimp only
      cases decodeBytes? bytes with
      | none => exact hstate
      | some text =>
        dsimp only
        cases Manifest.parse text <;> exact hstate
  · rfl

/-- All that an opening does to the disk is to make the root. -/
theorem openAt_state (hdisk : disk.IsFaithful) (root : String) (now : Instant) (d : σ) :
    (openAt disk root now d).2 = (disk.createDirs [] d).2 := by
  rw [openAt]
  rcases disk.createDirs [] d with ⟨_ | _, d'⟩
  · rfl
  · have hstate := readManifest_state hdisk root now d'
    dsimp only
    rcases hread : readManifest disk root now d' with ⟨_ | _, d''⟩ <;>
      · rw [hread] at hstate
        exact hstate

end Store

end BiblioQuery
