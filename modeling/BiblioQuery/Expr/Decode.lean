import BiblioQuery.Expr.Encode
import BiblioQuery.Json.Reader

/-!
# Expressions from JSON

A node is read strictly: its type must be known, it has no key but its own, and required keys are
present and have values of the right kind.  Some freedom is left: keys come in any order, the
negation flag and the bounds may be absent or null, a bound may have any spelling that denotes it,
and the bound of a number range may be a JSON number.

## Main definitions

* `Json.required`, `Json.requiredText`, `Json.requiredBool` : the values of required keys.
* `AtomValue.ofFields` : the value of an atom.
* `Expr.ofJson` : the expression of a JSON value, or the first fault in it.
* `Expr.parse` : the expression of a text.

## Main results

* `Json.sizeOf_field?_lt` : the value of a field is smaller than the fields.
-/

namespace BiblioQuery

/-! ### Fields -/

namespace Json

/-- The value of a required key; `null` counts as absent. -/
def required (key : String) (fields : List (String × Json)) : Except Fault Json :=
  match field? key fields with
  | none | some .null => .error (.missingKey key)
  | some v => .ok v

/-- The text of a required key. -/
def requiredText (key : String) (fields : List (String × Json)) : Except Fault String :=
  match required key fields with
  | .error f => .error f
  | .ok (.string s) => .ok s
  | .ok _ => .error (.notString key)

/-- The truth value of a required key. -/
def requiredBool (key : String) (fields : List (String × Json)) : Except Fault Bool :=
  match required key fields with
  | .error f => .error f
  | .ok (.bool b) => .ok b
  | .ok _ => .error (.notBool key)

/-- The keyword that a required key names. -/
def requiredKeyword {α : Type} (key : String) (ofName? : String → Option α)
    (unknown : String → Fault) (fields : List (String × Json)) : Except Fault α :=
  match requiredText key fields with
  | .error f => .error f
  | .ok s =>
    match ofName? s with
    | some a => .ok a
    | none => .error (unknown s)

/-- The value of a field is smaller than the fields. -/
theorem sizeOf_field?_lt {key : String} {fields : List (String × Json)} {v : Json}
    (h : field? key fields = some v) : sizeOf v < sizeOf fields := by
  induction fields with
  | nil => simp [field?] at h
  | cons p r ih =>
    obtain ⟨k, w⟩ := p
    rw [field?] at h
    simp only [List.cons.sizeOf_spec, Prod.mk.sizeOf_spec]
    split at h
    · rename_i u hu
      have := ih (hu.trans h)
      omega
    · split at h
      · simp only [Option.some.injEq] at h
        subst h
        omega
      · cases h

end Json

/-! ### Values of atoms -/

/-- A fault of the part at hand. -/
def faultHere {α : Type} : Except Fault α → Except Malformed α
  | .ok a => .ok a
  | .error f => .error ⟨[], f⟩

/-- The alternatives of a list of JSON values, the first one with the given index. -/
def alternatives (i : Nat) : List Json → Except Malformed (List String)
  | [] => .ok []
  | .string s :: r => (alternatives (i + 1) r).map (s :: ·)
  | _ :: _ => .error ⟨[.values i], .alternativeNotString⟩

/-- The text that a JSON number has as the bound of a number range. -/
def Json.Numeral.boundText (n : Json.Numeral) : String := String.ofList n.chars

/-- The bound of a text, at the given step. -/
def boundOfText (kind : RangeKind) (step : Step) (text : String) :
    Except Malformed (Option Bound) :=
  match Bound.parse? kind text with
  | some b => .ok (some b)
  | none => .error ⟨[step], .invalidBound kind text⟩

/-- The bound under a key, if any. -/
def boundOfFields (kind : RangeKind) (key : String) (step : Step) (fields : List (String × Json)) :
    Except Malformed (Option Bound) :=
  match Json.field? key fields with
  | none | some .null => .ok none
  | some (.string s) => boundOfText kind step s
  | some (.number n) =>
    if kind = .number then boundOfText kind step n.boundText
    else .error ⟨[], .notBoundText key⟩
  | some _ => .error ⟨[], .notBoundText key⟩

/-- The value of an atom with the given operator, from the fields of its object. -/
def AtomValue.ofFields (operator : Operator) (fields : List (String × Json)) :
    Except Malformed AtomValue :=
  match Json.smallestOutside? operator.valueKeys fields with
  | some key => .error ⟨[], .foreignKey key operator⟩
  | none =>
    match operator with
    | .term => do
      let text ← faultHere (Json.requiredText "text" fields)
      let matchType ←
        faultHere (Json.requiredKeyword "match_type" MatchType.ofName? .unknownMatchType fields)
      let caseMode ←
        faultHere (Json.requiredKeyword "case_sensitivity" CaseMode.ofName? .unknownCaseMode fields)
      return .term ⟨text, matchType, caseMode⟩
    | .member => do
      let items ← faultHere (Json.required "values" fields)
      match items with
      | .array items =>
        let values ← alternatives 0 items
        let caseSensitive ← faultHere (Json.requiredBool "case_sensitive" fields)
        return .member ⟨values, caseSensitive⟩
      | _ => .error ⟨[], .notArray "values"⟩
    | .range => do
      let kind ←
        faultHere (Json.requiredKeyword "kind" RangeKind.ofName? .unknownRangeKind fields)
      let lower ← boundOfFields kind "lower" .lower fields
      let upper ← boundOfFields kind "upper" .upper fields
      let includeLower ← faultHere (Json.requiredBool "include_lower" fields)
      let includeUpper ← faultHere (Json.requiredBool "include_upper" fields)
      return .range ⟨kind, lower, upper, includeLower, includeUpper⟩
    | .presence => do
      let expected ← faultHere (Json.requiredBool "expected" fields)
      return .presence expected
    | .token => do
      let kind ← faultHere (Json.requiredText "kind" fields)
      let value ← faultHere (Json.requiredText "value" fields)
      return .token ⟨kind, value⟩

/-! ### Atoms -/

/-- The negation flag, off where it is absent or null. -/
def negatedOfFields (fields : List (String × Json)) : Except Fault Bool :=
  match Json.field? "negated" fields with
  | none | some .null => .ok false
  | some (.bool b) => .ok b
  | some _ => .error (.notBool "negated")

/-- The atom of the fields of its node. -/
def Atom.ofFields (fields : List (String × Json)) : Except Malformed Atom := do
  let field ← faultHere (Json.requiredText "field" fields)
  let operator ←
    faultHere (Json.requiredKeyword "operator" Operator.ofName? .unknownOperator fields)
  let negated ← faultHere (negatedOfFields fields)
  let value ← faultHere (Json.required "value" fields)
  match value with
  | .object valueFields =>
    let value ← (AtomValue.ofFields operator valueFields).mapError (Malformed.under .value)
    return ⟨field, value, negated⟩
  | _ => .error ⟨[.value], .notObject⟩

/-! ### Expressions -/

namespace Expr

mutual

/-- The expression of a JSON value, or the first fault in it. -/
def ofJson (j : Json) : Except Malformed Expr :=
  match j with
  | .object fields =>
    match Json.requiredKeyword "type" NodeType.ofName? .unknownNodeType fields with
    | .error f => .error ⟨[], f⟩
    | .ok type =>
      match Json.smallestOutside? type.keys fields with
      | some key => .error ⟨[], .unexpectedKey key⟩
      | none =>
        match type with
        | .const => (faultHere (Json.requiredBool "value" fields)).map .const
        | .atom => (Atom.ofFields fields).map .atom
        | .group c =>
          match _children : Json.field? "children" fields with
          | none | some .null => .error ⟨[], .missingKey "children"⟩
          | some (.array items) => (listOfJson 0 items).map (.group c)
          | some _ => .error ⟨[], .notArray "children"⟩
        | .not =>
          match _child : Json.field? "child" fields with
          | none | some .null => .error ⟨[], .missingKey "child"⟩
          | some child => ((ofJson child).mapError (Malformed.under .child)).map .not
  | _ => .error ⟨[], .notObject⟩
termination_by sizeOf j
decreasing_by
  all_goals
    have := Json.sizeOf_field?_lt ‹_ = _›
    simp_all only [Json.object.sizeOf_spec, Json.array.sizeOf_spec]
    omega

/-- The members of a group, the first one with the given index. -/
def listOfJson (i : Nat) (items : List Json) : Except Malformed (List Expr) :=
  match items with
  | [] => .ok []
  | j :: r =>
    match ofJson j with
    | .error m => .error (m.under (.children i))
    | .ok e => (listOfJson (i + 1) r).map (e :: ·)
termination_by sizeOf items
decreasing_by all_goals simp only [List.cons.sizeOf_spec]; omega

end

/-- The expression of a text, or the first fault in it. -/
def parse (text : String) : Except Malformed Expr :=
  match Json.parse? text with
  | some j => ofJson j
  | none => .error ⟨[], .notJson⟩

end Expr

end BiblioQuery
