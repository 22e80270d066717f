import BiblioQuery.Query.Fragment

/-!
# Rendering

An expression is written from its atoms upwards.  Truth leaves nothing, and members that leave
nothing are dropped from their group; a group of several fragments is put between delimiters.  What
goes to parameters leaves nothing in the query, so a parameter below a disjunction or a negation
restricts the answer more than the expression says, which is reported.

## Main definitions

* `TraceRecord` : how an atom was written.
* `Writing` : the fragment of an expression, what was found, and how its atoms were written.
* `Dialect.join` : the fragment of a group.
* `Expr.write` : the writing of an expression.
* `Dialect.params` : the parameters that records give.
* `Expr.render` : query, parameters, issues and trace of an expression.

## Main results

* `Expr.writeList_append` : joined lists are written one after the other.
-/

namespace BiblioQuery

/-! ### Records -/

/-- How an atom was written. -/
structure TraceRecord where
  /-- The field. -/
  field : String
  /-- The operator. -/
  operator : Operator
  /-- The rule. -/
  ruleId : String
  /-- The negation flag of the atom. -/
  negated : Bool
  /-- What the rule wrote was denied. -/
  negationWrapped : Bool
  /-- Where the fragment goes by the rule. -/
  emit : EmitTarget
  /-- The parameter that the rule names. -/
  paramKey : Option String
  /-- The fragment. -/
  fragment : String
  deriving DecidableEq

namespace TraceRecord

/-- The record of an atom and its fragment. -/
def of (a : Atom) (w : Applied) : TraceRecord where
  field := a.field
  operator := a.operator
  ruleId := w.rule.id
  negated := a.negated
  negationWrapped := w.denied
  emit := w.rule.emit
  paramKey := w.rule.paramKey
  fragment := w.fragment

/-- The parameter that the fragment went to, if it did not go to the query. -/
def paramTarget? (r : TraceRecord) : Option String :=
  match r.emit with
  | .query => none
  | .params => r.paramKey

/-- A record as an object. -/
def toJson (r : TraceRecord) : Json :=
  .object [("field", .string r.field), ("operator", .string r.operator.name),
    ("rule_id", .string r.ruleId), ("negated", .bool r.negated),
    ("negation_wrapped", .bool r.negationWrapped), ("emit", .string r.emit.name),
    ("param_key", Json.ofOption .string r.paramKey), ("fragment", .string r.fragment)]

/-- Records as an object. -/
def listToJson (rs : List TraceRecord) : Json := .object [("records", Json.ofList toJson rs)]

end TraceRecord

/-! ### Writings -/

/-- What comes out when an expression is written. -/
structure Writing where
  /-- The fragment. -/
  text : String
  /-- What was found, in the order of the expression. -/
  faults : List RenderFault
  /-- How the atoms were written, in the order of the expression. -/
  records : List TraceRecord
  deriving DecidableEq

namespace Dialect

/-- What stands between the members of a group. -/
def joiner (d : Dialect) : Connective → String
  | .all => d.andJoiner
  | .any => d.orJoiner

/-- The fragment of a group: empty members are dropped, and several are put between delimiters. -/
def join (d : Dialect) (c : Connective) (fragments : List String) : String :=
  match fragments.filter fun s => !s.isEmpty with
  | [] => ""
  | [s] => s
  | ss => d.group ((d.joiner c).intercalate ss)

/-- The writing of a group from the writings of its members. -/
def joinWritings (d : Dialect) (c : Connective) (ws : List Writing) : Writing where
  text := d.join c (ws.map Writing.text)
  faults := ws.flatMap Writing.faults
  records := ws.flatMap Writing.records

/-- The denial of a writing; where there is nothing to deny it stays as it is. -/
def denyWriting (d : Dialect) (w : Writing) : Writing :=
  if w.text.isEmpty then w
  else
    match d.deny none w.text with
    | .ok s => { w with text := s }
    | .error f => { w with text := "", faults := w.faults ++ [f] }

end Dialect

/-- The writing of an atom by its rule; `conditional` says that a disjunction or a negation stands
above it. -/
def Applied.writing (conditional : Bool) (a : Atom) (w : Applied) : Writing :=
  match w.rule.paramTarget? with
  | none => ⟨w.fragment, [], [.of a w]⟩
  | some key =>
    ⟨"", if conditional || a.negated then [.unconditionalParam a.field key] else [], [.of a w]⟩

/-! ### Expressions -/

namespace Expr

mutual

/-- The writing of an expression; `conditional` says that a disjunction or a negation stands above
it. -/
def write (s : Snapshot) (assumed : Offset) (conditional : Bool) : Expr → Writing
  | .const true => ⟨"", [], []⟩
  | .const false =>
    match s.dialect.matchNothing with
    | some marker => ⟨marker, [], []⟩
    | none => ⟨"", [.noMatchNothing], []⟩
  | .atom a =>
    match a.write s assumed with
    | .ok w => w.writing conditional a
    | .error f => ⟨"", [f], []⟩
  | .group c xs => s.dialect.joinWritings c (writeList s assumed (conditional || c == .any) xs)
  | .not x => s.dialect.denyWriting (write s assumed true x)

/-- The writings of a list of expressions. -/
def writeList (s : Snapshot) (assumed : Offset) (conditional : Bool) : List Expr → List Writing
  | [] => []
  | x :: xs => write s assumed conditional x :: writeList s assumed conditional xs

end

/-- Joined lists are written one after the other. -/
@[simp]
theorem writeList_append (s : Snapshot) (assumed : Offset) (conditional : Bool)
    (xs ys : List Expr) :
    writeList s assumed conditional (xs ++ ys) =
      writeList s assumed conditional xs ++ writeList s assumed conditional ys := by
  induction xs with
  | nil => simp [writeList]
  | cons x xs ih => simp [writeList, ih]

end Expr

/-! ### Parameters -/

namespace Dialect

/-- Parameters with one more fragment, put behind what the parameter holds already. -/
def addParam (d : Dialect) (params : SortedMap String String) (key fragment : String) :
    SortedMap String String :=
  params.insert key <|
    match params.get? key with
    | none => fragment
    | some held => held ++ d.paramJoiner ++ fragment

/-- Parameters with the fragment of a record, if it went to a parameter. -/
def addRecord (d : Dialect) (params : SortedMap String String) (r : TraceRecord) :
    SortedMap String String :=
  match r.paramTarget? with
  | none => params
  | some key => d.addParam params key r.fragment

/-- The parameters that records give. -/
def params (d : Dialect) (records : List TraceRecord) : SortedMap String String :=
  records.foldl d.addRecord .empty

end Dialect

/-! ### Queries -/

/-- A query with all that belongs to it. -/
structure Rendered where
  /-- The query. -/
  query : String
  /-- The parameters beside it. -/
  params : SortedMap String String
  /-- What was found. -/
  issues : List Issue
  /-- How the atoms were written, if that was asked for. -/
  trace : Option (List TraceRecord)
  deriving DecidableEq

/-- Some issue is an error. -/
def Rendered.hasErrors (r : Rendered) : Bool := r.issues.any Issue.isError

/-- The query of an expression, where moments without offset are taken to have the assumed one. -/
def Expr.render (s : Snapshot) (assumed : Offset) (traced : Bool) (e : Expr) : Rendered :=
  let w := e.write s assumed false
  { query := w.text
    params := s.dialect.params w.records
    issues := w.faults.map RenderFault.issue
    trace := if traced then some w.records else none }

end BiblioQuery
