import BiblioQuery.Calendar.Duration
import BiblioQuery.Provider.Snapshot

/-!
# Sources of snapshots

A source answers with the snapshot that holds for a key at an instant, or says why it has none.  A
failure is passing if the same question may well be answered later.

## Main definitions

* `SourceError` : why there is no snapshot, with `SourceError.message` and
  `SourceError.isTransient`.
* `Fetch` : what a source answers.
-/

namespace BiblioQuery

/-- Why a source has no snapshot. -/
inductive SourceError where
  /-- Nothing is filed under the key, or nothing that old. -/
  | notFound (key : Key)
  /-- The source cannot be reached. -/
  | unavailable (message : String)
  /-- The source did not answer in time. -/
  | timeout (after : Duration)
  /-- What the source has is no proper snapshot. -/
  | invalid (message : String)
  deriving DecidableEq

namespace SourceError

/-- The message about a failure. -/
def message : SourceError → String
  | .notFound key => "no snapshot for " ++ key.text
  | .unavailable m => "source unavailable: " ++ m
  | .timeout after => "source timed out after " ++ after.text
  | .invalid m => "invalid snapshot: " ++ m

/-- The failure is passing. -/
def isTransient : SourceError → Bool
  | .unavailable _ | .timeout _ => true
  | _ => false

end SourceError

/-- What a source answers. -/
abbrev Fetch : Type := Except SourceError Snapshot

end BiblioQuery
