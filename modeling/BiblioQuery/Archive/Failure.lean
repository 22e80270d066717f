import BiblioQuery.Provider.Source

/-!
# Failures of archives

Why an archive of snapshots could not do what it was asked to.  When an archive serves as a source,
a failure is passed on as the failure of a source: what is absent is not found, a disk that does not
work may work later, and all else is invalid.

## Main definitions

* `DiskError` : what a disk answers when it refuses.
* `ManifestFault` : what is wrong with a manifest.
* `ArchiveError` : the failures, with `ArchiveError.message` and `ArchiveError.toSourceError`.
* `ArchiveError.ofManifest` : the failure that a refusal to read or write the manifest is.
-/

namespace BiblioQuery

/-- What a disk answers when it refuses. -/
inductive DiskError where
  /-- There is nothing at the path. -/
  | notFound
  /-- There is something at the path that was to be made. -/
  | alreadyExists
  /-- A part of the path is a file. -/
  | notDirectory
  /-- There is a directory at the path. -/
  | isDirectory
  /-- A part of the path is too long. -/
  | nameTooLong
  /-- A part of the path has a zero byte. -/
  | zeroByte
  /-- The disk broke off in the middle of the content of a file, with the message about it. -/
  | brokenOff (message : String)
  /-- Anything else that is wrong with the disk, with the message about it. -/
  | other (message : String)
  deriving DecidableEq

/-- The message about a refusal. -/
def DiskError.message : DiskError → String
  | .notFound => "No such file or directory (os error 2)"
  | .alreadyExists => "File exists (os error 17)"
  | .notDirectory => "Not a directory (os error 20)"
  | .isDirectory => "Is a directory (os error 21)"
  | .nameTooLong => "File name too long (os error 36)"
  | .zeroByte => "file name contained an unexpected NUL byte"
  | .brokenOff message | .other message => message

/-- What is wrong with a manifest. -/
inductive ManifestFault where
  /-- It is no document of a manifest. -/
  | unreadable
  /-- The disk broke off in the middle of it, with the message about it. -/
  | brokenOff (message : String)
  /-- It has a format of another number. -/
  | unsupportedFormat (format : Nat)
  deriving DecidableEq

/-- Why an archive could not do what it was asked to. -/
inductive ArchiveError where
  /-- The source behind the archive failed. -/
  | source (key : Key) (error : SourceError)
  /-- A snapshot is not valid, or a document is none of a snapshot. -/
  | invalidSnapshot (fault : SnapshotFault)
  /-- A part of a key cannot be part of a path. -/
  | invalidKey (part : String)
  /-- The disk refused. -/
  | disk (path : String) (error : DiskError)
  /-- The manifest makes no sense. -/
  | manifest (fault : ManifestFault)
  /-- The manifest does not list the key. -/
  | notInManifest (key : Key)
  /-- A document is not the one that was saved. -/
  | checksumMismatch (path expected actual : String)
  deriving DecidableEq

namespace ArchiveError

/-- The message about a failure. -/
def message : ArchiveError → String
  | .source key error => "failed to load snapshot " ++ key.text ++ ": " ++ error.message
  | .invalidSnapshot fault => "invalid snapshot: " ++ fault.message
  | .invalidKey part => "invalid snapshot key component '" ++ part ++ "'"
  | .disk path error => "I/O error at " ++ path ++ ": " ++ error.message
  | .manifest .unreadable => "manifest error"
  | .manifest (.brokenOff message) => "manifest error: " ++ message
  | .manifest (.unsupportedFormat format) =>
    "manifest error: unsupported manifest format " ++ toString format
  | .notInManifest key => "no manifest entry for " ++ key.text
  | .checksumMismatch path expected actual =>
    "checksum mismatch for " ++ path ++ ": expected " ++ expected ++ ", got " ++ actual

/-- The refusal to read or to write the manifest at a path.  The manifest is put into words as it is
written, and understood as it is read, so that what breaks off in the middle is a failure of the
manifest. -/
def ofManifest (path : String) : DiskError → ArchiveError
  | .brokenOff message => .manifest (.brokenOff message)
  | e => .disk path e

/-- The failure of the archive as the failure of a source that was asked for a key. -/
def toSourceError (key : Key) : ArchiveError → SourceError
  | .source _ error => error
  | .notInManifest _ | .disk _ .notFound => .notFound key
  | .disk path error => .unavailable (path ++ ": " ++ error.message)
  | e => .invalid e.message

end ArchiveError

end BiblioQuery
