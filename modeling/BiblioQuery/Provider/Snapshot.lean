import BiblioQuery.Calendar.Format
import BiblioQuery.Provider.Capability
import BiblioQuery.Provider.Rule

/-!
# Snapshots

A snapshot is what is known about one provider, for one task and one operation, at one instant: its
declarations, its dialect and its rules.  Not every snapshot makes sense, and `Snapshot.validate`
finds the first fault.

## Main definitions

* `Key` : provider, task and operation, which snapshots are filed under.
* `Snapshot` : the snapshots, with `Snapshot.key` and `Snapshot.reference`.
* `SnapshotFault` : what can be wrong with a snapshot, a template, a pattern or a limit.
* `Snapshot.validate` : the first fault of a snapshot.

## Main results

* `Snapshot.validate_empty` : a snapshot without declarations and rules is valid.
-/

namespace BiblioQuery

/-! ### Keys -/

/-- What snapshots are filed under. -/
structure Key where
  /-- The code of the provider. -/
  provenance : String
  /-- The task. -/
  taskType : String
  /-- The operation of the provider. -/
  operation : String
  deriving DecidableEq

namespace Key

/-- The parts of a key in order. -/
def parts (k : Key) : List String := [k.provenance, k.taskType, k.operation]

/-- The text of a key: its parts with slashes between them. -/
def text (k : Key) : String := k.provenance ++ "/" ++ k.taskType ++ "/" ++ k.operation

/-- Keys are ordered by their parts, the first one first. -/
instance : Ord Key := ⟨compareOn parts⟩

instance : Std.TransOrd Key := inferInstanceAs (Std.TransCmp (compareOn parts))

instance : Std.LawfulEqOrd Key where
  eq_of_compare {a b} h := by
    have h : compare a.parts b.parts = .eq := h
    have h : a.parts = b.parts := Std.LawfulEqCmp.eq_of_compare h
    cases a
    cases b
    simpa [parts] using h

end Key

/-! ### Snapshots -/

/-- What identifies a snapshot in answers. -/
structure SnapshotRef where
  /-- The number of the provider. -/
  provenanceId : UInt64
  /-- The code of the provider. -/
  code : String
  /-- The operation. -/
  operation : String
  /-- The version. -/
  version : UInt64
  /-- When the snapshot was taken. -/
  capturedAt : Instant
  deriving DecidableEq

/-- The text of a reference. -/
def SnapshotRef.text (r : SnapshotRef) : String :=
  r.code ++ "#" ++ toString r.provenanceId.toNat ++ "/" ++ r.operation ++ "@v" ++
    toString r.version.toNat

/-- What is known about a provider at an instant. -/
structure Snapshot where
  /-- The number of the provider. -/
  provenanceId : UInt64
  /-- The code of the provider. -/
  code : String
  /-- The task. -/
  taskType : String
  /-- The operation. -/
  operation : String
  /-- The version. -/
  version : UInt64
  /-- When the snapshot was taken. -/
  capturedAt : Instant
  /-- What the provider takes. -/
  declarations : List Declaration
  /-- How written atoms are put together. -/
  dialect : Dialect
  /-- How atoms are written. -/
  rules : List Rule
  deriving DecidableEq

namespace Snapshot

/-- What a snapshot is filed under. -/
def key (s : Snapshot) : Key := ⟨s.code, s.taskType, s.operation⟩

/-- What identifies a snapshot in answers. -/
def reference (s : Snapshot) : SnapshotRef :=
  ⟨s.provenanceId, s.code, s.operation, s.version, s.capturedAt⟩

/-- The declaration that governs a field in a snapshot. -/
def governing? (s : Snapshot) (field : String) : Option Declaration :=
  Declaration.governing? s.declarations field s.operation s.taskType s.capturedAt

end Snapshot

/-! ### Faults -/

/-- What a window belongs to. -/
inductive WindowOwner where
  /-- The declaration of a field. -/
  | declaration (field : String)
  /-- A rule. -/
  | rule (id : String)
  deriving DecidableEq

/-- The text of the owner of a window. -/
def WindowOwner.text : WindowOwner → String
  | .declaration field => "capability '" ++ field ++ "'"
  | .rule id => "render rule '" ++ id ++ "'"

/-- What can be wrong with a snapshot or a part of it. -/
inductive SnapshotFault where
  /-- A source is no pattern. -/
  | invalidPattern (source : String)
  /-- A source is no template. -/
  | invalidTemplate (source : String) (error : TemplateError)
  /-- A limit is no bound of its kind. -/
  | invalidLimit (kind : RangeKind) (input : String)
  /-- A format of dates or moments cannot be understood. -/
  | invalidFormat (format : String)
  /-- A window ends before it starts. -/
  | emptyWindow (owner : WindowOwner)
  /-- A rule writes to a parameter that it does not name. -/
  | missingParamKey (rule : String)
  /-- Two rules have one name. -/
  | duplicateRule (rule : String)
  /-- A text is no document of a snapshot. -/
  | unreadable
  deriving DecidableEq

/-- The message about a fault. -/
def SnapshotFault.message : SnapshotFault → String
  | .invalidPattern source => "invalid pattern '" ++ source ++ "'"
  | .invalidTemplate source error => "invalid template '" ++ source ++ "': " ++ error.message
  | .invalidLimit kind input => "invalid " ++ kind.name ++ " range limit '" ++ input ++ "'"
  | .invalidFormat format => "invalid date format '" ++ format ++ "'"
  | .emptyWindow owner => "empty effective window in " ++ owner.text
  | .missingParamKey rule => "render rule '" ++ rule ++ "' emits parameters but has no param_key"
  | .duplicateRule rule => "duplicate render rule id '" ++ rule ++ "'"
  | .unreadable => "snapshot document could not be parsed"

/-! ### Validation -/

/-- The bound of the text of a limit, if there is one. -/
def RangeCapability.limit (c : RangeCapability) :
    Option String → Except SnapshotFault (Option Bound)
  | none => .ok none
  | some text =>
    match Bound.parse? c.kind text with
    | some b => .ok (some b)
    | none => .error (.invalidLimit c.kind text)

/-- The least bound. -/
def RangeCapability.leastBound (c : RangeCapability) : Except SnapshotFault (Option Bound) :=
  c.limit c.least

/-- The greatest bound. -/
def RangeCapability.greatestBound (c : RangeCapability) : Except SnapshotFault (Option Bound) :=
  c.limit c.greatest

/-- The first fault of a declaration. -/
def Declaration.validate (d : Declaration) : Except SnapshotFault Unit :=
  if d.effective.isEmpty then .error (.emptyWindow (.declaration d.field))
  else
    match d.range with
    | none => .ok ()
    | some c => do
      let _ ← c.leastBound
      let _ ← c.greatestBound

/-- The parameters of a rule that are formats of dates and moments. -/
def Rule.formatKeys : List String := ["date_format", "datetime_format"]

/-- The first fault of a rule on its own. -/
def Rule.validate (r : Rule) : Except SnapshotFault Unit :=
  if r.effective.isEmpty then .error (.emptyWindow (.rule r.id))
  else if r.emit = .params ∧ r.paramKey = none then .error (.missingParamKey r.id)
  else
    match (Rule.formatKeys.filterMap r.params.get?).find? fun f => (Format.parse? f).isNone with
    | some f => .error (.invalidFormat f)
    | none => .ok ()

/-- The first fault of rules, where the given names are taken. -/
def Rule.validateAll (taken : List String) : List Rule → Except SnapshotFault Unit
  | [] => .ok ()
  | r :: rest =>
    if taken.contains r.id then .error (.duplicateRule r.id)
    else do
      r.validate
      validateAll (r.id :: taken) rest

/-- The first fault of a snapshot: of its declarations, then of its rules. -/
def Snapshot.validate (s : Snapshot) : Except SnapshotFault Unit := do
  s.declarations.forM Declaration.validate
  Rule.validateAll [] s.rules

/-- A snapshot without declarations and rules is valid. -/
theorem Snapshot.validate_empty {s : Snapshot} (h : s.declarations = []) (h' : s.rules = []) :
    s.validate = .ok () := by
  rw [validate, h, h']
  rfl

end BiblioQuery
