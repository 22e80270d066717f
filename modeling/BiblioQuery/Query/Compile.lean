import BiblioQuery.Expr.Normalize
import BiblioQuery.Expr.Decode
import BiblioQuery.Provider.Document
import BiblioQuery.Provider.Source
import BiblioQuery.Query.Options
import BiblioQuery.Query.Rendering
import BiblioQuery.Query.Violation

/-!
# Compilation

An expression becomes a query in steps: it is normalized, checked against the snapshot of the
provider, written, and measured.  The first step that finds an error ends the compilation, and then
there is no query.

## Main definitions

* `Compiled` : the outcome of a compilation, with its query and its report.
* `CompileError` : why there is no outcome.
* `Snapshot.compile` : the outcome for an expression with a snapshot.
* `Request`, `Request.run` : a compilation that asks a source for the snapshot.

## Main results

* `Compiled.query_rejected` : a rejected compilation has no query.
-/

namespace BiblioQuery

/-! ### Failures -/

/-- Why a compilation has no outcome. -/
inductive CompileError where
  /-- The expression has no proper form. -/
  | malformed (m : Malformed)
  /-- No such time zone is known. -/
  | unknownTimezone (zone : String)
  /-- The source has no snapshot. -/
  | unavailable (key : Key) (source : SourceError)
  /-- The source took too long. -/
  | deadlineExceeded (key : Key) (deadline : Duration)
  /-- The outcome is that there are errors. -/
  | rejected (kind : ErrorKind) (issues : List Issue)

namespace CompileError

/-- What a failure is about. -/
def kind : CompileError → ErrorKind
  | .malformed _ => .malformedExpression
  | .unknownTimezone _ => .invalidConfig
  | .unavailable _ _ | .deadlineExceeded _ _ => .dependencyUnavailable
  | .rejected kind _ => kind

/-- The message about a failure. -/
def message : CompileError → String
  | .malformed m => "malformed expression: " ++ m.message
  | .unknownTimezone zone => "invalid configuration: unsupported timezone '" ++ zone ++ "'"
  | .unavailable key source => "snapshot " ++ key.text ++ " unavailable: " ++ source.message
  | .deadlineExceeded key deadline =>
    "snapshot " ++ key.text ++ " not loaded within " ++ deadline.text
  | .rejected kind issues =>
    kind.name ++ ": compilation rejected with " ++ toString issues.length ++ " error issue(s)"

end CompileError

/-! ### Outcomes -/

/-- The outcome of a compilation. -/
structure Compiled where
  /-- The query. -/
  query : String
  /-- The parameters beside it. -/
  params : SortedMap String String
  /-- The normal form of the expression. -/
  normalized : Expr
  /-- What was found. -/
  report : Report
  /-- The snapshot that was used. -/
  snapshot : SnapshotRef
  /-- How the atoms were written, if that was asked for and done. -/
  trace : Option (List TraceRecord)
  deriving DecidableEq

namespace Compiled

/-- The outcome without query and parameters. -/
def rejected (s : Snapshot) (normalized : Expr) (report : Report)
    (trace : Option (List TraceRecord)) : Compiled where
  query := ""
  params := .empty
  normalized := normalized
  report := report
  snapshot := s.reference
  trace := trace

/-- A rejected compilation has no query. -/
@[simp]
theorem query_rejected (s : Snapshot) (normalized : Expr) (report : Report)
    (trace : Option (List TraceRecord)) : (rejected s normalized report trace).query = "" :=
  rfl

/-- There are no errors. -/
def isOk (c : Compiled) : Bool := !c.report.hasErrors

/-- The digest that identifies the normal form. -/
def idempotencyKey (c : Compiled) : String := c.normalized.hash

/-- The outcome, or its errors as a failure. -/
def toResult (c : Compiled) : Except CompileError Compiled :=
  match c.report.firstErrorKind? with
  | none => .ok c
  | some kind => .error (.rejected kind c.report.errors)

/-- An outcome as an object; a trace that is absent is left out. -/
def toJson (c : Compiled) : Json :=
  .object ([("query", .string c.query), ("params", Json.ofTextMap c.params),
    ("normalized", c.normalized.toJson), ("report", c.report.toJson),
    ("snapshot", c.snapshot.toJson)] ++
      c.trace.toList.map fun records => ("trace", TraceRecord.listToJson records))

end Compiled

/-! ### Compilation with a snapshot -/

/-- The issue of a query that is too long. -/
def budgetIssue (length limit : Nat) : Issue where
  severity := .error
  code := .outputBudgetExceeded
  message :=
    "rendered query has " ++ toString length ++ " characters, limit is " ++ toString limit
  context := .ofList [("length", toString length), ("max_query_length", toString limit)]

/-- The query is longer than the options allow. -/
def Options.isExceededBy (o : Options) (query : String) : Bool :=
  o.maxQueryLength != 0 && decide (o.maxQueryLength.toNat < query.length)

/-- The outcome for an expression in normal form, where moments without offset are taken to have the
assumed one. -/
def Snapshot.compileNormal (s : Snapshot) (o : Options) (assumed : Offset) (n : Expr) : Compiled :=
  let checked := Report.ofIssues (n.check s o.strict)
  if checked.hasErrors then .rejected s n checked none
  else
    let r := n.render s assumed o.traceEnabled
    let report := checked.append r.issues
    if report.hasErrors then .rejected s n report r.trace
    else if o.isExceededBy r.query then
      .rejected s n (report.push (budgetIssue r.query.length o.maxQueryLength.toNat)) r.trace
    else
      { query := r.query
        params := r.params
        normalized := n
        report := report
        snapshot := s.reference
        trace := r.trace }

/-- The outcome for an expression, or why there is none. -/
def Snapshot.compile (s : Snapshot) (o : Options) (e : Expr) : Except CompileError Compiled :=
  match o.offset? with
  | none => .error (.unknownTimezone o.timezone)
  | some assumed =>
    match e.normalize o.strict with
    | .error m => .error (.malformed m)
    | .ok n => .ok (s.compileNormal o assumed n)

/-! ### Requests -/

/-- An expression to be compiled for a provider. -/
structure Request where
  /-- The expression. -/
  expr : Expr
  /-- The code of the provider. -/
  provenance : String
  /-- The task. -/
  taskType : String
  /-- The operation. -/
  operation : String
  /-- The options, if they are not the usual ones. -/
  options : Option Options
  /-- The instant for which the snapshot is to hold, if that is not now. -/
  asOf : Option Instant
  deriving DecidableEq

namespace Request

/-- What the snapshot is filed under. -/
def key (r : Request) : Key := ⟨r.provenance, r.taskType, r.operation⟩

/-- A request as an object. -/
def toJson (r : Request) : Json :=
  .object [("expr", r.expr.toJson), ("provenance", .string r.provenance),
    ("task_type", .string r.taskType), ("operation", .string r.operation),
    ("options", Json.ofOption Options.toJson r.options),
    ("as_of", Json.ofOption Instant.toJson r.asOf)]

/-- The request of a record. -/
def ofJson? (j : Json) : Option Request := do
  let fields ←
    Json.record? ["expr", "provenance", "task_type", "operation", "options", "as_of"] 4 j
  let expr ← Json.needed "expr" (fun j => (Expr.ofJson j).toOption) fields
  let provenance ← Json.needed "provenance" Json.text? fields
  let taskType ← Json.needed "task_type" Json.text? fields
  let operation ← Json.needed "operation" Json.text? fields
  let options ← Json.orElse "options" none (Json.option? Options.ofJson?) fields
  let asOf ← Json.orElse "as_of" none (Json.option? Instant.ofJson?) fields
  return ⟨expr, provenance, taskType, operation, options, asOf⟩

/-- The snapshot that a source answered with, if it answered in time. -/
def snapshotInTime (key : Key) (deadline : Option Duration) (answer : Fetch) (elapsed : Duration) :
    Except CompileError Snapshot :=
  match answer with
  | .error f => .error (.unavailable key f)
  | .ok s =>
    match deadline with
    | none => .ok s
    | some d => if elapsed.isLongerThan d then .error (.deadlineExceeded key d) else .ok s

/-- The outcome of a request.  The source, which answers a key and an instant and takes some time
for it, is not asked if the options make no sense. -/
def run {m : Type → Type} [Monad m] (defaults : Options) (deadline : Option Duration)
    (now : Instant) (fetch : Key → Instant → m (Fetch × Duration)) (r : Request) :
    m (Except CompileError Compiled) :=
  let o := r.options.getD defaults
  match o.offset? with
  | none => pure (.error (.unknownTimezone o.timezone))
  | some _ => do
    let (answer, elapsed) ← fetch r.key (r.asOf.getD now)
    return do
      let s ← snapshotInTime r.key deadline answer elapsed
      s.compile o r.expr

end Request

end BiblioQuery
