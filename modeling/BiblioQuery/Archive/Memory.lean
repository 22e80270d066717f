import BiblioQuery.Archive.Failure

/-!
# Archives in memory

An archive in memory keeps, under each key, snapshots of different versions from the oldest to the
latest.  Asked for an instant, it answers with the latest snapshot that had been taken by then.

## Main definitions

* `Memory` : the archives.
* `Memory.insert`, `Memory.remove` : changes.
* `Memory.fetch` : the snapshot that holds for a key at an instant.

## Main results

* `Memory.versions_insert` : what is kept under a key after a snapshot is inserted.
-/

namespace BiblioQuery

/-- The order of snapshots of one key from older to later: by the instant, then by the version. -/
def Snapshot.ageOrder : Snapshot → Snapshot → Ordering :=
  compareLex (compareOn Snapshot.capturedAt) (compareOn Snapshot.version)

/-- Snapshots from older to later with one more put in its place. -/
def Snapshot.insertByAge (s : Snapshot) : List Snapshot → List Snapshot
  | [] => [s]
  | t :: r => if s.ageOrder t == .lt then s :: t :: r else t :: insertByAge s r

/-- Snapshots of one key with one more, which takes the place of one of its version. -/
def Snapshot.insertVersion (s : Snapshot) (versions : List Snapshot) : List Snapshot :=
  s.insertByAge (versions.filter fun t => t.version != s.version)

/-- Snapshots under their keys, from older to later. -/
structure Memory where
  /-- The snapshots. -/
  shelves : SortedMap Key (List Snapshot)
  deriving DecidableEq

namespace Memory

/-- The archive without snapshots. -/
def empty : Memory := ⟨.empty⟩

instance : Inhabited Memory := ⟨empty⟩

/-- The snapshots of a key, from older to later. -/
def versions (m : Memory) (key : Key) : List Snapshot := (m.shelves.get? key).getD []

/-- The archive with one more snapshot, if it is valid. -/
def insert (m : Memory) (s : Snapshot) : Except ArchiveError Memory :=
  match s.validate with
  | .error f => .error (.invalidSnapshot f)
  | .ok () => .ok ⟨m.shelves.insert s.key (s.insertVersion (m.versions s.key))⟩

/-- The archive with more snapshots, if all are valid. -/
def insertAll (m : Memory) : List Snapshot → Except ArchiveError Memory
  | [] => .ok m
  | s :: r =>
    match m.insert s with
    | .error e => .error e
    | .ok m' => insertAll m' r

/-- The archive without the snapshots of a key. -/
def remove (m : Memory) (key : Key) : Memory := ⟨m.shelves.erase key⟩

/-- Some snapshot is kept under the key. -/
def contains (m : Memory) (key : Key) : Bool := m.shelves.contains key

/-- The latest snapshot of a key. -/
def latest? (m : Memory) (key : Key) : Option Snapshot := (m.versions key).getLast?

/-- The keys in order. -/
def keys (m : Memory) : List Key := m.shelves.keys

/-- The latest snapshot of a key that had been taken by an instant. -/
def fetch (m : Memory) (key : Key) (asOf : Instant) : Fetch :=
  match ((m.versions key).filter fun s => s.capturedAt.atMost asOf).getLast? with
  | some s => .ok s
  | none => .error (.notFound key)

/-- After a snapshot is inserted, its key has it among its versions, and the other keys have what
they had. -/
theorem versions_insert {m m' : Memory} {s : Snapshot} (h : m.insert s = .ok m') (key : Key) :
    m'.versions key =
      if s.key = key then s.insertVersion (m.versions key) else m.versions key := by
  unfold insert at h
  split at h
  · cases h
  · simp only [Except.ok.injEq] at h
    subst h
    rw [versions, SortedMap.get?_insert]
    split
    · rename_i hk
      rw [← hk]
      rfl
    · rfl

end Memory

end BiblioQuery
