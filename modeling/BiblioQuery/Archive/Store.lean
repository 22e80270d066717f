import BiblioQuery.Archive.Disk
import BiblioQuery.Archive.Manifest
import BiblioQuery.Digest.Sha256

/-!
# Archives on a disk

An archive on a disk has a document for each key, in a file named for the parts of the key, and a
manifest, which it also holds in memory.  A file is written beside its place first and then moved
there.  When a document is read, its digest has to be the one in the manifest.

## Main definitions

* `Key.documentPath?` : where the document of a key is, if the parts of the key can be names.
* `withExtension`, `besidePath` : where a file is written first.
* `Store` : the state of an archive in memory.
* `StoreAction` : what an archive does with its disk.
* `Store.openAt`, `Store.save`, `Store.load`, `Store.remove`, `Store.fetch` : the operations.

## Main results

* `Key.documentPath?_eq_ok_iff` : which keys have a document.
-/

namespace BiblioQuery

/-! ### Paths -/

/-- A text can be the name of a directory. -/
def isPathPart (s : String) : Bool :=
  !s.isEmpty && s != "." && s != ".." &&
    s.toList.all fun c => c != '/' && c != '\\' && c != '\x00'

namespace Key

/-- The path of the document of a key. -/
def documentPath (k : Key) : DiskPath := [k.provenance, k.taskType, k.operation ++ ".json"]

/-- The path of the document of a key, or the first part of the key that cannot be a name. -/
def documentPath? (k : Key) : Except String DiskPath :=
  match k.parts.find? fun s => !isPathPart s with
  | some part => .error part
  | none => .ok k.documentPath

/-- A key has a document if all its parts can be names. -/
theorem documentPath?_eq_ok_iff {k : Key} {p : DiskPath} :
    k.documentPath? = .ok p ↔ (∀ s ∈ k.parts, isPathPart s = true) ∧ p = k.documentPath := by
  unfold documentPath?
  split
  · rename_i part h
    have := List.find?_some h
    have hm := List.mem_of_find?_eq_some h
    simp only [reduceCtorEq, false_iff, not_and]
    intro hall
    simp [hall part hm] at this
  · rename_i h
    rw [List.find?_eq_none] at h
    simp only [Except.ok.injEq]
    constructor
    · rintro rfl
      exact ⟨fun s hs => by simpa using h s hs, rfl⟩
    · rintro ⟨_, rfl⟩
      rfl

end Key

/-- The path of the manifest. -/
def manifestPath : DiskPath := ["manifest.json"]

/-- The name of a file without its extension: what stands before its last dot, or all of it where
there is no dot but at its start. -/
def fileStem (name : String) : String :=
  match name.toList.reverse.dropWhile (· != '.') with
  | _ :: before :: rest => String.ofList (before :: rest).reverse
  | _ => name

/-- The name of a file with another extension, or with one where it had none. -/
def withExtension (name extension : String) : String := fileStem name ++ "." ++ extension

/-- The path beside a path where a file is written first: it differs in the extension. -/
def besidePath : DiskPath → DiskPath
  | [] => []
  | [name] => [withExtension name "json.tmp"]
  | name :: rest => name :: besidePath rest

/-- A path as it is written below the root. -/
def fileText (p : DiskPath) : String := "/".intercalate p

/-- The path of a text: a slash at its end asks for a directory, and one at its start leads out of
the root. -/
def pathOfText (file : String) : DiskPath :=
  let cs := file.toList
  let names := ((cs.splitOn '/').filter fun name => !name.isEmpty).map String.ofList
  let ended := if cs.getLast? = some '/' then names ++ ["."] else names
  if cs.head? = some '/' then ".." :: ended else ended

/-! ### Archives -/

/-- An archive on a disk as it is in memory. -/
structure Store where
  /-- The root directory. -/
  root : String
  /-- The manifest. -/
  manifest : Manifest
  deriving DecidableEq

/-- What an archive does with a disk with states in `σ`, which may fail half way. -/
abbrev StoreAction (σ α : Type) : Type := ExceptT ArchiveError (StateM (Store × σ)) α

namespace Store

variable {σ : Type}

/-- The text of a file below the root; a text that starts with a slash stands for itself. -/
def pathText (st : Store) (file : String) : String :=
  if file.startsWith "/" then file else st.root ++ "/" ++ file

/-- An operation on the disk; a refusal is reported as given. -/
def reporting {α : Type} (report : DiskError → ArchiveError) (a : DiskAction σ α) :
    StoreAction σ α := fun (st, d) =>
  match a d with
  | (.ok x, d') => (.ok x, (st, d'))
  | (.error e, d') => (.error (report e), (st, d'))

/-- An operation on the disk; a refusal is reported for the given path. -/
def onDisk {α : Type} (path : String) (a : DiskAction σ α) : StoreAction σ α :=
  reporting (.disk path) a

/-- The text of a file below the root. -/
def textOf (p : DiskPath) : StoreAction σ String := do
  let (st, _) ← get
  return st.pathText (fileText p)

/-- Changes the manifest in memory. -/
def modifyManifest (f : Manifest → Manifest) : StoreAction σ Unit :=
  modify fun (st, d) => ({ st with manifest := f st.manifest }, d)

/-- Writes a file beside its place and moves it there.  A refusal to write the file is reported as
given, from the path of the file that was to be written. -/
def replaceFile (disk : Disk σ) (report : String → DiskError → ArchiveError) (p : DiskPath)
    (bytes : List UInt8) : StoreAction σ Unit := do
  reporting (report (← textOf (besidePath p))) (disk.write (besidePath p) bytes)
  onDisk (← textOf p) (disk.rename (besidePath p) p)

/-- Writes the manifest, as of an instant. -/
def saveManifest (disk : Disk σ) (now : Instant) : StoreAction σ Unit := do
  modifyManifest fun m => { m with writtenAt := now }
  let (st, _) ← get
  replaceFile disk .ofManifest manifestPath (Sha256.textBytes st.manifest.pretty)

/-- The text of bytes. -/
def decodeBytes? (bytes : List UInt8) : Option String := String.fromUTF8? ⟨bytes.toArray⟩

/-- The manifest on the disk, or an empty one where there is none. -/
def readManifest (disk : Disk σ) (root : String) (now : Instant) (d : σ) :
    Except ArchiveError Manifest × σ :=
  if disk.isPresent manifestPath d then
    match disk.read manifestPath d with
    | (.error .isDirectory, d') => (.error (.manifest .unreadable), d')
    | (.error e, d') => (.error (.ofManifest (root ++ "/" ++ fileText manifestPath) e), d')
    | (.ok bytes, d') =>
      match decodeBytes? bytes with
      | none => (.error (.manifest .unreadable), d')
      | some text =>
        match Manifest.parse text with
        | .ok m => (.ok m, d')
        | .error f => (.error (.manifest f), d')
  else (.ok (.empty now), d)

/-- The archive on a disk with the given root directory, which is made if it is missing. -/
def openAt (disk : Disk σ) (root : String) (now : Instant) (d : σ) :
    Except ArchiveError Store × σ :=
  match disk.createDirs [] d with
  | (.error e, d') => (.error (.disk root e), d')
  | (.ok (), d') =>
    match readManifest disk root now d' with
    | (.ok m, d'') => (.ok ⟨root, m⟩, d'')
    | (.error e, d'') => (.error e, d'')

/-- Puts a snapshot into the archive, in place of the one of its key. -/
def save (disk : Disk σ) (now : Instant) (s : Snapshot) : StoreAction σ ManifestEntry := do
  match s.validate with
  | .error f => throw (.invalidSnapshot f)
  | .ok () =>
    match s.key.documentPath? with
    | .error part => throw (.invalidKey part)
    | .ok p =>
      let bytes := Sha256.textBytes s.pretty
      onDisk (← textOf p.dropLast) (disk.createDirs p.dropLast)
      replaceFile disk .disk p bytes
      let entry : ManifestEntry :=
        ⟨s.key, s.version, s.capturedAt, fileText p, Sha256.hex bytes, .ofNat bytes.length⟩
      modifyManifest (·.upsert entry)
      saveManifest disk now
      return entry

/-- The snapshot of a document. -/
def snapshotOfBytes (bytes : List UInt8) : Except ArchiveError Snapshot :=
  match decodeBytes? bytes with
  | none => .error (.invalidSnapshot .unreadable)
  | some text =>
    match Snapshot.parse text with
    | .ok s => .ok s
    | .error f => .error (.invalidSnapshot f)

/-- The snapshot that was saved under a key. -/
def load (disk : Disk σ) (key : Key) : StoreAction σ Snapshot := do
  let (st, _) ← get
  match st.manifest.get? key with
  | none => throw (.notInManifest key)
  | some entry =>
    let path := st.pathText entry.file
    let bytes ← onDisk path (disk.read (pathOfText entry.file))
    let actual := Sha256.hex bytes
    if actual = entry.sha256 then
      match snapshotOfBytes bytes with
      | .ok s => return s
      | .error e => throw e
    else throw (.checksumMismatch path entry.sha256 actual)

/-- Removes a file that may be missing. -/
def unlinkIfPresent (disk : Disk σ) (file : String) : StoreAction σ Unit := fun (st, d) =>
  match disk.unlink (pathOfText file) d with
  | (.ok (), d') => (.ok (), (st, d'))
  | (.error .notFound, d') => (.ok (), (st, d'))
  | (.error e, d') => (.error (.disk (st.pathText file) e), (st, d'))

/-- Removes the snapshot of a key, and says whether there was one. -/
def remove (disk : Disk σ) (now : Instant) (key : Key) : StoreAction σ Bool := do
  let (st, _) ← get
  match st.manifest.get? key with
  | none => return false
  | some entry =>
    unlinkIfPresent disk entry.file
    modifyManifest (·.remove key)
    saveManifest disk now
    return true

/-- The snapshot of a key, if it had been taken by an instant. -/
def fetch (disk : Disk σ) (key : Key) (asOf : Instant) (state : Store × σ) :
    Fetch × (Store × σ) :=
  match load disk key state with
  | (.error e, state') => (.error (e.toSourceError key), state')
  | (.ok s, state') =>
    if s.capturedAt.atMost asOf then (.ok s, state') else (.error (.notFound key), state')

/-- The keys in order. -/
def keys (st : Store) : List Key := st.manifest.keys

/-- The path of the document of a key. -/
def pathFor (st : Store) (key : Key) : Except ArchiveError String :=
  match key.documentPath? with
  | .error part => .error (.invalidKey part)
  | .ok p => .ok (st.pathText (fileText p))

end Store

end BiblioQuery
