import BiblioQuery.Archive.Failure
import BiblioQuery.Provider.Document

/-!
# Manifests

A manifest lists the documents of an archive on a disk: for each key the file, the digest and the
size of the document, and the version and the instant of the snapshot in it.

## Main definitions

* `ManifestEntry` : what is listed for a key.
* `Manifest` : the list, with `Manifest.get?`, `Manifest.upsert` and `Manifest.remove`.
* `Manifest.parse` : the manifest of a text, or what is wrong with it.

## Main results

* `Manifest.get?_upsert_self` : after an entry is put in, it is listed for its key.
-/

namespace BiblioQuery

/-- A key as an object. -/
def Key.toJson (k : Key) : Json :=
  .object [("provenance", .string k.provenance), ("task_type", .string k.taskType),
    ("operation", .string k.operation)]

/-- The key of a record. -/
def Key.ofJson? (j : Json) : Option Key := do
  let fields ← Json.record? ["provenance", "task_type", "operation"] 3 j
  let provenance ← Json.needed "provenance" Json.text? fields
  let taskType ← Json.needed "task_type" Json.text? fields
  let operation ← Json.needed "operation" Json.text? fields
  return ⟨provenance, taskType, operation⟩

/-! ### Entries -/

/-- What is listed for a key. -/
structure ManifestEntry where
  /-- The key. -/
  key : Key
  /-- The version of the snapshot. -/
  version : UInt64
  /-- When the snapshot was taken. -/
  capturedAt : Instant
  /-- The file of the document, below the root. -/
  file : String
  /-- The digest of the document. -/
  sha256 : String
  /-- The size of the document. -/
  sizeBytes : UInt64
  deriving DecidableEq

namespace ManifestEntry

/-- An entry as an object. -/
def toJson (e : ManifestEntry) : Json :=
  .object [("key", e.key.toJson), ("version", Json.ofWord e.version),
    ("captured_at", e.capturedAt.toJson), ("file", .string e.file), ("sha256", .string e.sha256),
    ("size_bytes", Json.ofWord e.sizeBytes)]

/-- The entry of a record. -/
def ofJson? (j : Json) : Option ManifestEntry := do
  let fields ←
    Json.record? ["key", "version", "captured_at", "file", "sha256", "size_bytes"] 6 j
  let key ← Json.needed "key" Key.ofJson? fields
  let version ← Json.needed "version" Json.word? fields
  let capturedAt ← Json.needed "captured_at" Instant.ofJson? fields
  let file ← Json.needed "file" Json.text? fields
  let sha256 ← Json.needed "sha256" Json.text? fields
  let sizeBytes ← Json.needed "size_bytes" Json.word? fields
  return ⟨key, version, capturedAt, file, sha256, sizeBytes⟩

/-- The first entry comes no later in the order of keys. -/
def keyLE (a b : ManifestEntry) : Bool := (compare a.key b.key).isLE

end ManifestEntry

/-! ### Manifests -/

/-- The list of the documents of an archive. -/
structure Manifest where
  /-- The number of the format. -/
  format : UInt64
  /-- When the list was written. -/
  writtenAt : Instant
  /-- The version of the program that wrote it. -/
  writerVersion : String
  /-- The entries. -/
  entries : List ManifestEntry
  deriving DecidableEq

namespace Manifest

/-- The number of the format that is read and written. -/
def currentFormat : UInt64 := 1

/-- The version of the program. -/
def currentWriter : String := "0.1.0"

/-- The list without entries, as it is written at an instant. -/
def empty (writtenAt : Instant) : Manifest := ⟨currentFormat, writtenAt, currentWriter, []⟩

/-- The entry of a key. -/
def get? (m : Manifest) (key : Key) : Option ManifestEntry := m.entries.find? fun e => e.key == key

/-- Entries with a new one in place of the first one of its key. -/
def replaceEntry (e : ManifestEntry) : List ManifestEntry → List ManifestEntry
  | [] => []
  | f :: r => if f.key = e.key then e :: r else f :: replaceEntry e r

/-- The list with an entry: in place of the one of its key, or among the others in the order of
keys. -/
def upsert (m : Manifest) (e : ManifestEntry) : Manifest :=
  { m with
    entries :=
      if (m.get? e.key).isSome then replaceEntry e m.entries
      else (m.entries ++ [e]).mergeSort ManifestEntry.keyLE }

/-- The list without the entries of a key. -/
def remove (m : Manifest) (key : Key) : Manifest :=
  { m with entries := m.entries.filter fun e => e.key != key }

/-- The keys in the order of the entries. -/
def keys (m : Manifest) : List Key := m.entries.map ManifestEntry.key

/-- The size of all documents, as a counter of 64 bits shows it. -/
def totalBytes (m : Manifest) : UInt64 := m.entries.foldl (fun n e => n + e.sizeBytes) 0

/-- A manifest as an object. -/
def toJson (m : Manifest) : Json :=
  .object [("format", Json.ofWord m.format), ("written_at", m.writtenAt.toJson),
    ("writer_version", .string m.writerVersion),
    ("snapshots", Json.ofList ManifestEntry.toJson m.entries)]

/-- A whole number that fits 32 bits. -/
def formatNumber? (j : Json) : Option UInt64 :=
  (Json.word? j).filter fun w => decide (w.toNat < UInt32.size)

/-- The manifest of a record, of whatever format. -/
def ofJson? (j : Json) : Option Manifest := do
  let fields ← Json.record? ["format", "written_at", "writer_version", "snapshots"] 4 j
  let format ← Json.needed "format" formatNumber? fields
  let writtenAt ← Json.needed "written_at" Instant.ofJson? fields
  let writerVersion ← Json.needed "writer_version" Json.text? fields
  let entries ← Json.needed "snapshots" (Json.list? ManifestEntry.ofJson?) fields
  return ⟨format, writtenAt, writerVersion, entries⟩

/-- The indented text of a manifest. -/
def pretty (m : Manifest) : String := m.toJson.pretty

/-- The manifest of a text, or what is wrong with it. -/
def parse (text : String) : Except ManifestFault Manifest :=
  match (Json.parse? text).bind ofJson? with
  | none => .error .unreadable
  | some m =>
    if m.format = currentFormat then .ok m else .error (.unsupportedFormat m.format.toNat)

/-- The text of a manifest for readers, a line each. -/
def text (m : Manifest) : String :=
  "Snapshot Manifest" ++
  "\n  Written:         " ++ m.writtenAt.spacedText ++
  "\n  Writer:          " ++ m.writerVersion ++
  "\n  Snapshots:       " ++ toString m.entries.length ++
  "\n  Total Size:      " ++ toString (m.totalBytes.toNat / 1024) ++ " KB"

/-! ### Entries that are listed -/

theorem find?_replaceEntry {e : ManifestEntry} {l : List ManifestEntry}
    (h : (l.find? fun f => f.key == e.key).isSome) :
    (replaceEntry e l).find? (fun f => f.key == e.key) = some e := by
  induction l with
  | nil => simp at h
  | cons f r ih =>
    rw [replaceEntry]
    by_cases hf : f.key = e.key
    · simp [hf]
    · have hr : (r.find? fun f => f.key == e.key).isSome := by
        simpa [List.find?_cons, hf] using h
      simp [hf, ih hr]

/-- After an entry is put in, it is listed for its key. -/
theorem get?_upsert_self (m : Manifest) (e : ManifestEntry) :
    (m.upsert e).get? e.key = some e := by
  rw [upsert, get?]
  split
  · rename_i h
    exact find?_replaceEntry h
  · rename_i h
    simp only [get?, List.find?_isSome, beq_iff_eq, not_exists, not_and] at h
    have hm (f : ManifestEntry) (hf : f ∈ (m.entries ++ [e]).mergeSort ManifestEntry.keyLE)
        (hk : f.key = e.key) : f = e := by
      rcases List.mem_append.1 (List.mem_mergeSort.1 hf) with hf | hf
      · exact absurd hk (h f hf)
      · exact List.mem_singleton.1 hf
    cases hfind : ((m.entries ++ [e]).mergeSort ManifestEntry.keyLE).find?
        (fun f => f.key == e.key) with
    | none =>
      have := List.find?_eq_none.1 hfind e
        (List.mem_mergeSort.2 (List.mem_append.2 (.inr (List.mem_singleton.2 rfl))))
      simp at this
    | some f =>
      have hk : f.key = e.key := by simpa using List.find?_some hfind
      rw [hm f (List.mem_of_find?_eq_some hfind) hk]

end Manifest

end BiblioQuery
