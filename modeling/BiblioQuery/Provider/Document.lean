import BiblioQuery.Calendar.Reader
import BiblioQuery.Json.Reader
import BiblioQuery.Json.Record
import BiblioQuery.Json.Writer
import BiblioQuery.Provider.Snapshot

/-!
# Documents of snapshots

The JSON form of snapshots and of their parts.  A document is written with all fields in a fixed
order; in reading, a field that has a default may be absent.  A template, a pattern or an instant
that cannot be read makes the whole document unreadable.

## Main definitions

* `Window.toJson`, `Declaration.toJson`, `Rule.toJson`, `Dialect.toJson`, `Snapshot.toJson` : the
  documents.
* `Window.ofJson?`, `Declaration.ofJson?`, `Rule.ofJson?`, `Dialect.ofJson?`, `Snapshot.ofJson?` :
  what documents stand for.
* `Snapshot.parse` : the valid snapshot of a text, or what is wrong with it.
-/

namespace BiblioQuery

open Json

/-! ### Instants, windows, patterns and templates -/

/-- An instant as a string. -/
def Instant.toJson (i : Instant) : Json := .string i.text

/-- The instant of a string. -/
def Instant.ofJson? (j : Json) : Option Instant := (text? j).bind Instant.parse?

/-- A pattern as its source. -/
def Pattern.toJson (p : Pattern) : Json := .string p.source

/-- The pattern of a source. -/
def Pattern.ofJson? (j : Json) : Option Pattern := (text? j).bind Pattern.ofSource?

/-- A template as its source. -/
def Template.toJson (t : Template) : Json := .string t.source

/-- The template of a source. -/
def Template.ofJson? (j : Json) : Option Template :=
  (text? j).bind fun s => (Template.parse s).toOption

namespace Window

/-- A window as an object. -/
def toJson (w : Window) : Json :=
  .object [("from", ofOption Instant.toJson w.start), ("to", ofOption Instant.toJson w.stop)]

/-- The window of a record; an end that is absent is open. -/
def ofJson? (j : Json) : Option Window := do
  let fields ← record? ["from", "to"] 0 j
  let start ← orElse "from" none (option? Instant.ofJson?) fields
  let stop ← orElse "to" none (option? Instant.ofJson?) fields
  return ⟨start, stop⟩

end Window

/-! ### Capabilities -/

/-- A keyword as the string of its name. -/
def nameJson {α : Type} (name : α → String) (a : α) : Json := .string (name a)

namespace TermCapability

/-- The texts that are taken, as an object. -/
def toJson (c : TermCapability) : Json :=
  .object [("match_types", ofSet (nameJson MatchType.name) c.matchTypes),
    ("case_sensitive_allowed", .bool c.caseSensitiveAllowed), ("allow_blank", .bool c.allowBlank),
    ("min_length", ofOption ofWord c.minLength), ("max_length", ofOption ofWord c.maxLength),
    ("pattern", ofOption Pattern.toJson c.pattern)]

/-- The texts that a record says are taken. -/
def ofJson? (j : Json) : Option TermCapability := do
  let fields ← record? ["match_types", "case_sensitive_allowed", "allow_blank", "min_length",
    "max_length", "pattern"] 0 j
  let matchTypes ←
    orElse "match_types" standard.matchTypes (set? (keyword? MatchType.ofName?)) fields
  let caseSensitiveAllowed ← orElse "case_sensitive_allowed" false flag? fields
  let allowBlank ← orElse "allow_blank" false flag? fields
  let minLength ← orElse "min_length" none (option? word?) fields
  let maxLength ← orElse "max_length" none (option? word?) fields
  let pattern ← orElse "pattern" none (option? Pattern.ofJson?) fields
  return ⟨matchTypes, caseSensitiveAllowed, allowBlank, minLength, maxLength, pattern⟩

end TermCapability

namespace MemberCapability

/-- The alternatives that are taken, as an object. -/
def toJson (c : MemberCapability) : Json :=
  .object [("max_size", ofOption ofWord c.maxSize),
    ("case_sensitive_allowed", .bool c.caseSensitiveAllowed)]

/-- The alternatives that a record says are taken. -/
def ofJson? (j : Json) : Option MemberCapability := do
  let fields ← record? ["max_size", "case_sensitive_allowed"] 0 j
  let maxSize ← orElse "max_size" none (option? word?) fields
  let caseSensitiveAllowed ← orElse "case_sensitive_allowed" false flag? fields
  return ⟨maxSize, caseSensitiveAllowed⟩

end MemberCapability

namespace RangeCapability

/-- The ranges that are taken, as an object. -/
def toJson (c : RangeCapability) : Json :=
  .object [("kind", .string c.kind.name), ("allow_open_start", .bool c.allowOpenStart),
    ("allow_open_end", .bool c.allowOpenEnd), ("min", ofOption .string c.least),
    ("max", ofOption .string c.greatest), ("bounds_enforcement", .string c.enforcement.name)]

/-- The ranges that a record says are taken. -/
def ofJson? (j : Json) : Option RangeCapability := do
  let fields ← record? ["kind", "allow_open_start", "allow_open_end", "min", "max",
    "bounds_enforcement"] 1 j
  let kind ← needed "kind" (keyword? RangeKind.ofName?) fields
  let allowOpenStart ← orElse "allow_open_start" true flag? fields
  let allowOpenEnd ← orElse "allow_open_end" true flag? fields
  let least ← orElse "min" none (option? text?) fields
  let greatest ← orElse "max" none (option? text?) fields
  let enforcement ←
    orElse "bounds_enforcement" .hard (keyword? Enforcement.ofName?) fields
  return ⟨kind, allowOpenStart, allowOpenEnd, least, greatest, enforcement⟩

end RangeCapability

namespace TokenCapability

/-- The identifiers that are taken, as an object. -/
def toJson (c : TokenCapability) : Json :=
  .object [("kinds", ofSet .string c.kinds), ("pattern", ofOption Pattern.toJson c.pattern)]

/-- The identifiers that a record says are taken. -/
def ofJson? (j : Json) : Option TokenCapability := do
  let fields ← record? ["kinds", "pattern"] 0 j
  let kinds ← orElse "kinds" .empty (set? text?) fields
  let pattern ← orElse "pattern" none (option? Pattern.ofJson?) fields
  return ⟨kinds, pattern⟩

end TokenCapability

namespace Declaration

/-- A declaration as an object. -/
def toJson (d : Declaration) : Json :=
  .object [("field_key", .string d.field), ("scope", ofOption .string d.scope),
    ("task_type", ofOption .string d.taskType), ("effective", d.effective.toJson),
    ("operators", ofSet (nameJson Operator.name) d.operators),
    ("negatable_operators", ofSet (nameJson Operator.name) d.negatable),
    ("term", ofOption TermCapability.toJson d.term),
    ("in", ofOption MemberCapability.toJson d.member),
    ("range", ofOption RangeCapability.toJson d.range),
    ("exists_supported", .bool d.presenceSupported),
    ("token", ofOption TokenCapability.toJson d.token)]

/-- The declaration of a record. -/
def ofJson? (j : Json) : Option Declaration := do
  let fields ← record? ["field_key", "scope", "task_type", "effective", "operators",
    "negatable_operators", "term", "in", "range", "exists_supported", "token"] 1 j
  let field ← needed "field_key" text? fields
  let scope ← orElse "scope" none (option? text?) fields
  let taskType ← orElse "task_type" none (option? text?) fields
  let effective ← orElse "effective" .always Window.ofJson? fields
  let operators ← orElse "operators" .empty (set? (keyword? Operator.ofName?)) fields
  let negatable ← orElse "negatable_operators" .empty (set? (keyword? Operator.ofName?)) fields
  let term ← orElse "term" none (option? TermCapability.ofJson?) fields
  let member ← orElse "in" none (option? MemberCapability.ofJson?) fields
  let range ← orElse "range" none (option? RangeCapability.ofJson?) fields
  let presenceSupported ← orElse "exists_supported" true flag? fields
  let token ← orElse "token" none (option? TokenCapability.ofJson?) fields
  return ⟨field, scope, taskType, effective, operators, negatable, term, member, range,
    presenceSupported, token⟩

/-- The declarations of a provider as an object. -/
def listToJson (ds : List Declaration) : Json := .object [("declarations", ofList toJson ds)]

/-- The declarations of a record. -/
def listOfJson? (j : Json) : Option (List Declaration) := do
  let fields ← record? ["declarations"] 0 j
  orElse "declarations" [] (list? ofJson?) fields

end Declaration

/-! ### Rules and dialects -/

namespace Rule

/-- A rule as an object. -/
def toJson (r : Rule) : Json :=
  .object [("rule_id", .string r.id), ("field_key", ofOption .string r.field),
    ("scope", ofOption .string r.scope), ("task_type", ofOption .string r.taskType),
    ("operator", ofOption (nameJson Operator.name) r.operator),
    ("match_type", ofOption (nameJson MatchType.name) r.matchType),
    ("negated", ofOption .bool r.negated), ("value_type", ofOption .string r.valueType),
    ("emit", .string r.emit.name), ("param_key", ofOption .string r.paramKey),
    ("template", r.template.toJson), ("item_template", ofOption Template.toJson r.itemTemplate),
    ("joiner", ofOption .string r.joiner), ("wrap_group", .bool r.wrapGroup),
    ("priority", ofSmallInt r.priority), ("params", ofTextMap r.params),
    ("transform", ofOption (nameJson Transform.name) r.transform),
    ("effective", r.effective.toJson)]

/-- The rule of a record. -/
def ofJson? (j : Json) : Option Rule := do
  let fields ← record? ["rule_id", "field_key", "scope", "task_type", "operator", "match_type",
    "negated", "value_type", "emit", "param_key", "template", "item_template", "joiner",
    "wrap_group", "priority", "params", "transform", "effective"] 11 j
  let id ← needed "rule_id" text? fields
  let field ← orElse "field_key" none (option? text?) fields
  let scope ← orElse "scope" none (option? text?) fields
  let taskType ← orElse "task_type" none (option? text?) fields
  let operator ← orElse "operator" none (option? (keyword? Operator.ofName?)) fields
  let matchType ← orElse "match_type" none (option? (keyword? MatchType.ofName?)) fields
  let negated ← orElse "negated" none (option? flag?) fields
  let valueType ← orElse "value_type" none (option? text?) fields
  let emit ← orElse "emit" .query (keyword? EmitTarget.ofName?) fields
  let paramKey ← orElse "param_key" none (option? text?) fields
  let template ← needed "template" Template.ofJson? fields
  let itemTemplate ← orElse "item_template" none (option? Template.ofJson?) fields
  let joiner ← orElse "joiner" none (option? text?) fields
  let wrapGroup ← orElse "wrap_group" false flag? fields
  let priority ← orElse "priority" 0 smallInt? fields
  let params ← orElse "params" .empty textMap? fields
  let transform ← orElse "transform" none (option? (keyword? Transform.ofName?)) fields
  let effective ← orElse "effective" .always Window.ofJson? fields
  return ⟨id, field, scope, taskType, operator, matchType, negated, valueType, emit, paramKey,
    template, itemTemplate, joiner, wrapGroup, priority, params, transform, effective⟩

end Rule

namespace Dialect

/-- A dialect as an object. -/
def toJson (d : Dialect) : Json :=
  .object [("and_joiner", .string d.andJoiner), ("or_joiner", .string d.orJoiner),
    ("group_open", .string d.groupOpen), ("group_close", .string d.groupClose),
    ("not_template", ofOption Template.toJson d.notTemplate),
    ("match_nothing", ofOption .string d.matchNothing), ("param_joiner", .string d.paramJoiner)]

/-- The dialect of a record; what is absent is as in the standard dialect. -/
def ofJson? (j : Json) : Option Dialect := do
  let fields ← record? ["and_joiner", "or_joiner", "group_open", "group_close", "not_template",
    "match_nothing", "param_joiner"] 0 j
  let andJoiner ← orElse "and_joiner" standard.andJoiner text? fields
  let orJoiner ← orElse "or_joiner" standard.orJoiner text? fields
  let groupOpen ← orElse "group_open" standard.groupOpen text? fields
  let groupClose ← orElse "group_close" standard.groupClose text? fields
  let notTemplate ←
    orElse "not_template" standard.notTemplate (option? Template.ofJson?) fields
  let matchNothing ← orElse "match_nothing" standard.matchNothing (option? text?) fields
  let paramJoiner ← orElse "param_joiner" standard.paramJoiner text? fields
  return ⟨andJoiner, orJoiner, groupOpen, groupClose, notTemplate, matchNothing, paramJoiner⟩

/-- A dialect with the rules of a provider, as an object. -/
def rulesToJson (d : Dialect) (rules : List Rule) : Json :=
  .object [("dialect", d.toJson), ("rules", ofList Rule.toJson rules)]

/-- The dialect and the rules of a record. -/
def rulesOfJson? (j : Json) : Option (Dialect × List Rule) := do
  let fields ← record? ["dialect", "rules"] 0 j
  let dialect ← orElse "dialect" standard Dialect.ofJson? fields
  let rules ← orElse "rules" [] (list? Rule.ofJson?) fields
  return (dialect, rules)

end Dialect

/-! ### Snapshots -/

/-- The reference of a snapshot as an object. -/
def SnapshotRef.toJson (r : SnapshotRef) : Json :=
  .object [("provenance_id", ofWord r.provenanceId), ("code", .string r.code),
    ("operation", .string r.operation), ("version", ofWord r.version),
    ("captured_at", r.capturedAt.toJson)]

namespace Snapshot

/-- A snapshot as an object. -/
def toJson (s : Snapshot) : Json :=
  .object [("provenance_id", ofWord s.provenanceId), ("code", .string s.code),
    ("task_type", .string s.taskType), ("operation", .string s.operation),
    ("version", ofWord s.version), ("captured_at", s.capturedAt.toJson),
    ("capabilities", Declaration.listToJson s.declarations),
    ("render_rules", s.dialect.rulesToJson s.rules)]

/-- The snapshot of a record, valid or not. -/
def ofJson? (j : Json) : Option Snapshot := do
  let fields ← record? ["provenance_id", "code", "task_type", "operation", "version",
    "captured_at", "capabilities", "render_rules"] 6 j
  let provenanceId ← needed "provenance_id" word? fields
  let code ← needed "code" text? fields
  let taskType ← needed "task_type" text? fields
  let operation ← needed "operation" text? fields
  let version ← needed "version" word? fields
  let capturedAt ← needed "captured_at" Instant.ofJson? fields
  let declarations ← orElse "capabilities" [] Declaration.listOfJson? fields
  let (dialect, rules) ←
    orElse "render_rules" (Dialect.standard, []) Dialect.rulesOfJson? fields
  return ⟨provenanceId, code, taskType, operation, version, capturedAt, declarations, dialect,
    rules⟩

/-- The indented text of a snapshot. -/
def pretty (s : Snapshot) : String := s.toJson.pretty

/-- A snapshot if it is valid. -/
def validated (s : Snapshot) : Except SnapshotFault Snapshot :=
  match s.validate with
  | .ok () => .ok s
  | .error f => .error f

/-- The valid snapshot of a text, or what is wrong with it. -/
def parse (text : String) : Except SnapshotFault Snapshot :=
  match (Json.parse? text).bind ofJson? with
  | none => .error .unreadable
  | some s => s.validated

end Snapshot

end BiblioQuery
