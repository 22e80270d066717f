import BiblioQuery.Archive.Failure

/-!
# Disks

A disk holds files under paths, which are lists of names below one root directory.  What an archive
needs of a disk is a handful of operations, each of which may be refused; a refused operation may
still have changed something.

The file tree is the disk that refuses only what makes no sense for the files and directories that
there are, and names that are too long for it.

## Main definitions

* `DiskAction`, `Disk` : operations that may be refused, and a disk as a record of them.
* `FileTree` : files and directories under paths.
* `FileTree.disk` : the operations of a file tree.
-/

namespace BiblioQuery

/-! ### Operations -/

/-- An operation on a disk with states in `σ` that may be refused. -/
abbrev DiskAction (σ α : Type) : Type := ExceptT DiskError (StateM σ) α

/-- A path: the names from the root downwards, where `.` stands for the directory itself and `..`
for the one above it. -/
abbrev DiskPath : Type := List String

/-- The operations of a disk with states in `σ`. -/
structure Disk (σ : Type) where
  /-- Makes a directory and all that are missing above it. -/
  createDirs : DiskPath → DiskAction σ Unit
  /-- Makes a file with the given content, or gives a file new content. -/
  write : DiskPath → List UInt8 → DiskAction σ Unit
  /-- Gives a file another path, in place of the file that is there. -/
  rename : DiskPath → DiskPath → DiskAction σ Unit
  /-- Removes a file. -/
  unlink : DiskPath → DiskAction σ Unit
  /-- The content of a file. -/
  read : DiskPath → DiskAction σ (List UInt8)
  /-- There is a file or a directory at the path. -/
  isPresent : DiskPath → σ → Bool

/-! ### File trees -/

/-- What there is at a path. -/
inductive DiskNode where
  /-- A directory. -/
  | directory
  /-- A file with its content. -/
  | file (bytes : List UInt8)
  deriving DecidableEq

/-- Files and directories under paths below a root directory. -/
structure FileTree where
  /-- What there is below the root. -/
  nodes : SortedMap DiskPath DiskNode
  /-- The greatest number of bytes of a name, if there is a limit. -/
  nameLimit : Option Nat
  deriving DecidableEq

namespace FileTree

/-- The tree of an empty root directory. -/
def empty (nameLimit : Option Nat) : FileTree := ⟨.empty, nameLimit⟩

/-- What there is at a path; the root is a directory, and so is everything straight above it. -/
def node? (t : FileTree) (p : DiskPath) : Option DiskNode :=
  if p.all (· = "..") then some .directory else t.nodes.get? p

/-- A name is not too long. -/
def takesName (t : FileTree) (name : String) : Bool :=
  t.nameLimit.all fun n => decide (name.utf8ByteSize ≤ n)

/-- The directory above a directory. -/
def above (directory : DiskPath) : DiskPath :=
  if directory.all (· = "..") then directory ++ [".."] else directory.dropLast

/-- The path that some names below a directory lead to, if all but the last of them lead to
directories, with `..` at its start only. -/
def resolve (t : FileTree) (directory : DiskPath) : DiskPath → Except DiskError DiskPath
  | [] => .ok directory
  | name :: rest =>
    if name = "." then t.resolve directory rest
    else if name = ".." then t.resolve (above directory) rest
    else if t.takesName name then
      match rest, t.node? (directory ++ [name]) with
      | [], _ => .ok (directory ++ [name])
      | _ :: _, none => .error .notFound
      | _ :: _, some (.file _) => .error .notDirectory
      | _ :: _, some .directory => t.resolve (directory ++ [name]) rest
    else .error .nameTooLong

/-- The path that a path leads to, with `..` at its start only; no name has a zero byte. -/
def locate (t : FileTree) (p : DiskPath) : Except DiskError DiskPath :=
  if p.any fun s => s.toList.contains '\x00' then .error .zeroByte else t.resolve [] p

/-- What there is at a path. -/
def find (t : FileTree) (p : DiskPath) : Except DiskError (Option DiskNode) :=
  (t.locate p).map t.node?

/-- There is a directory at the path. -/
def isDirectory (t : FileTree) (p : DiskPath) : Bool :=
  match t.find p with
  | .ok (some .directory) => true
  | _ => false

/-- There is a file or a directory at the path. -/
def isPresent (p : DiskPath) (t : FileTree) : Bool :=
  match t.find p with
  | .ok (some _) => true
  | _ => false

/-- The tree with something else at a path. -/
def put (t : FileTree) (p : DiskPath) (n : DiskNode) : FileTree :=
  { t with nodes := t.nodes.insert p n }

/-- The content of a file. -/
def read (t : FileTree) (p : DiskPath) : Except DiskError (List UInt8) :=
  match t.find p with
  | .error e => .error e
  | .ok none => .error .notFound
  | .ok (some .directory) => .error .isDirectory
  | .ok (some (.file bytes)) => .ok bytes

/-- The tree with a file of the given content. -/
def write (t : FileTree) (p : DiskPath) (bytes : List UInt8) : Except DiskError FileTree :=
  match t.locate p with
  | .error e => .error e
  | .ok q =>
    match t.node? q with
    | some .directory => .error .isDirectory
    | _ => .ok (t.put q (.file bytes))

/-- The tree without a file. -/
def unlink (t : FileTree) (p : DiskPath) : Except DiskError FileTree :=
  match t.locate p with
  | .error e => .error e
  | .ok q =>
    match t.node? q with
    | none => .error .notFound
    | some .directory => .error .isDirectory
    | some (.file _) => .ok { t with nodes := t.nodes.erase q }

/-- The tree with a file at another path. -/
def rename (t : FileTree) (p q : DiskPath) : Except DiskError FileTree :=
  match t.locate p, t.locate q with
  | .error e, _ => .error e
  | .ok _, .error e => .error e
  | .ok p', .ok q' =>
    match t.node? p', t.node? q' with
    | none, _ => .error .notFound
    | some .directory, _ => .error .isDirectory
    | some (.file _), some .directory => .error .isDirectory
    | some (.file bytes), _ =>
      .ok (FileTree.put { t with nodes := t.nodes.erase p' } q' (.file bytes))

/-- The tree with one more directory. -/
def makeDir (t : FileTree) (p : DiskPath) : Except DiskError FileTree :=
  match t.locate p with
  | .error e => .error e
  | .ok q =>
    match t.node? q with
    | some _ => .error .alreadyExists
    | none => .ok (t.put q .directory)

/-- The tree with a directory at a path, made if it is missing. -/
def makeDirOnce (t : FileTree) (p : DiskPath) : Except DiskError FileTree :=
  match t.makeDir p with
  | .ok t' => .ok t'
  | .error e => if t.isDirectory p then .ok t else .error e

/-- Makes a directory and all that are missing above it; the names come from the directory upwards.
-/
def createDirsUp (t : FileTree) : DiskPath → Except DiskError Unit × FileTree
  | [] => (.ok (), t)
  | name :: up =>
    match t.makeDirOnce (name :: up).reverse with
    | .ok t' => (.ok (), t')
    | .error .notFound =>
      match t.createDirsUp up with
      | (.error e, t') => (.error e, t')
      | (.ok (), t') =>
        match t'.makeDirOnce (name :: up).reverse with
        | .ok t'' => (.ok (), t'')
        | .error e => (.error e, t')
    | .error e => (.error e, t)

/-- A change that leaves the tree as it is where it is refused. -/
def change (f : FileTree → Except DiskError FileTree) : DiskAction FileTree Unit := fun t =>
  match f t with
  | .ok t' => (.ok (), t')
  | .error e => (.error e, t)

/-- The operations of a file tree. -/
def disk : Disk FileTree where
  createDirs p := fun t => t.createDirsUp p.reverse
  write p bytes := change fun t => t.write p bytes
  rename p q := change fun t => t.rename p q
  unlink p := change fun t => t.unlink p
  read p := fun t => (t.read p, t)
  isPresent := isPresent

end FileTree

end BiblioQuery
