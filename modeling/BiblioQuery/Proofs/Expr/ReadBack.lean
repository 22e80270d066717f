import BiblioQuery.Proofs.Collection.Results
import BiblioQuery.Proofs.Expr.Fields
import BiblioQuery.Proofs.Json.ReadBack

/-!
# Expressions read back

The JSON value of an expression is decoded to that expression, whatever its depth, provided the
bounds of each range are of its kind and some text denotes them.  The compact text stands for that
value; it is read as long as the value is not nested deeper than a document may be, and one level
more is refused as no JSON at all.

## Main definitions

* `AtomValue.bounds` : the bounds of the range of an atom.
* `AtomValue.Denotable`, `Expr.Denotable` : the bounds are of the kinds of their ranges, and some
  text denotes each of them.

## Main results

* `Expr.ofJson_toJson` : the JSON value of an expression is decoded to it.
* `Expr.isExact_toJson` : it has no number that a reader could round.
* `Expr.read_canonical` : the compact text is read back exactly up to the depth of a document.
-/

namespace BiblioQuery

/-! ### Bounds of an expression -/

/-- The bounds of a range; values of other shapes have none. -/
def AtomValue.bounds : AtomValue → List Bound
  | .range r => r.lower.toList ++ r.upper.toList
  | _ => []

/-- The bounds of a range are of its kind, and some text denotes each of them.  Values of other
shapes have no bounds. -/
structure AtomValue.Denotable (v : AtomValue) : Prop where
  /-- The bounds are of the kind of the range. -/
  kinds : ∀ r, v = .range r → r.KindsMatch
  /-- Some text denotes the bound. -/
  bounds : ∀ b ∈ v.bounds, b.Denotable

/-- The bounds of all ranges of the expression are of their kinds, and some text denotes each of
them. -/
def Expr.Denotable (e : Expr) : Prop := ∀ a ∈ e.atoms, a.value.Denotable

/-- The value of a range is denotable exactly if the bounds are of its kind and its literals are
readable. -/
theorem AtomValue.denotable_range_iff {r : RangeValue} :
    (AtomValue.range r).Denotable ↔
      r.KindsMatch ∧ ∀ t, .dateTime t ∈ (AtomValue.range r).bounds → t.Readable := by
  constructor
  · intro h
    exact ⟨h.kinds r rfl, fun t ht => Bound.denotable_iff.1 (h.bounds _ ht) t rfl⟩
  · rintro ⟨hkinds, hreadable⟩
    refine ⟨fun r' hr => AtomValue.range.inj hr ▸ hkinds, fun b hb => ?_⟩
    exact Bound.denotable_iff.2 fun t ht => hreadable t (ht ▸ hb)

/-! ### Values of atoms -/

theorem alternatives_map_string (i : Nat) (values : List String) :
    alternatives i (values.map .string) = .ok values := by
  induction values generalizing i with
  | nil => rfl
  | cons v r ih => simp [alternatives, ih, Except.map]

namespace AtomValue

variable {fields : List (String × Json)}

theorem ofFields_term {t : TermValue}
    (hkeys : Json.smallestOutside? Operator.term.valueKeys fields = none)
    (htext : Json.field? "text" fields = some (.string t.text))
    (hmatch : Json.field? "match_type" fields = some (.string t.matchType.name))
    (hcase : Json.field? "case_sensitivity" fields = some (.string t.caseMode.name)) :
    ofFields .term fields = .ok (.term t) := by
  have htext := Json.requiredText_eq_ok_iff.2 htext
  have hmatch := Json.requiredKeyword_name MatchType.ofName?_eq_some_iff .unknownMatchType hmatch
  have hcase := Json.requiredKeyword_name CaseMode.ofName?_eq_some_iff .unknownCaseMode hcase
  rw [ofFields, hkeys]
  simp only [htext, hmatch, hcase]
  rfl

theorem ofFields_member {m : MemberValue}
    (hkeys : Json.smallestOutside? Operator.member.valueKeys fields = none)
    (hvalues : Json.field? "values" fields = some (.array (m.values.map .string)))
    (hcase : Json.field? "case_sensitive" fields = some (.bool m.caseSensitive)) :
    ofFields .member fields = .ok (.member m) := by
  have hvalues := Json.required_eq_ok_iff.2 ⟨hvalues, nofun⟩
  have hcase := Json.requiredBool_eq_ok_iff.2 hcase
  rw [ofFields, hkeys]
  simp only [hvalues, hcase, faultHere, bind, Except.bind, alternatives_map_string]
  rfl

theorem ofFields_range {r : RangeValue}
    (hkeys : Json.smallestOutside? Operator.range.valueKeys fields = none)
    (hkind : Json.field? "kind" fields = some (.string r.kind.name))
    (hlower : boundOfFields r.kind "lower" .lower fields = .ok r.lower)
    (hupper : boundOfFields r.kind "upper" .upper fields = .ok r.upper)
    (hincludeLower : Json.field? "include_lower" fields = some (.bool r.includeLower))
    (hincludeUpper : Json.field? "include_upper" fields = some (.bool r.includeUpper)) :
    ofFields .range fields = .ok (.range r) := by
  have hkind := Json.requiredKeyword_name RangeKind.ofName?_eq_some_iff .unknownRangeKind hkind
  have hincludeLower := Json.requiredBool_eq_ok_iff.2 hincludeLower
  have hincludeUpper := Json.requiredBool_eq_ok_iff.2 hincludeUpper
  rw [ofFields, hkeys]
  simp only [hkind, hincludeLower, hincludeUpper, faultHere, bind, Except.bind, hlower, hupper]
  rfl

theorem ofFields_presence {expected : Bool}
    (hkeys : Json.smallestOutside? Operator.presence.valueKeys fields = none)
    (hexpected : Json.field? "expected" fields = some (.bool expected)) :
    ofFields .presence fields = .ok (.presence expected) := by
  have hexpected := Json.requiredBool_eq_ok_iff.2 hexpected
  rw [ofFields, hkeys]
  simp only [hexpected]
  rfl

theorem ofFields_token {t : TokenValue}
    (hkeys : Json.smallestOutside? Operator.token.valueKeys fields = none)
    (hkind : Json.field? "kind" fields = some (.string t.kind))
    (hvalue : Json.field? "value" fields = some (.string t.value)) :
    ofFields .token fields = .ok (.token t) := by
  have hkind := Json.requiredText_eq_ok_iff.2 hkind
  have hvalue := Json.requiredText_eq_ok_iff.2 hvalue
  rw [ofFields, hkeys]
  simp only [hkind, hvalue]
  rfl

/-- The value of an atom is an object, which is decoded to the value. -/
theorem exists_fields_toJson (v : AtomValue) (h : v.Denotable) :
    ∃ fields, v.toJson = .object fields ∧ ofFields v.operator fields = .ok v := by
  cases v with
  | term t => exact ⟨_, rfl, ofFields_term rfl rfl rfl rfl⟩
  | member m => exact ⟨_, rfl, ofFields_member rfl rfl rfl⟩
  | range r =>
    have hkinds := h.kinds r rfl
    refine ⟨_, rfl, ofFields_range rfl rfl ?_ ?_ rfl rfl⟩
    · exact boundOfFields_toJson rfl hkinds.lower_kind fun b hb =>
        h.bounds b (List.mem_append_left _ (Option.mem_toList.2 hb))
    · exact boundOfFields_toJson rfl hkinds.upper_kind fun b hb =>
        h.bounds b (List.mem_append_right _ (Option.mem_toList.2 hb))
  | presence expected => exact ⟨_, rfl, ofFields_presence rfl rfl⟩
  | token t => exact ⟨_, rfl, ofFields_token rfl rfl rfl⟩

end AtomValue

/-! ### Atoms -/

namespace Atom

theorem ofFields_eq_ok {a : Atom} {fields valueFields : List (String × Json)}
    (hfield : Json.field? "field" fields = some (.string a.field))
    (hoperator : Json.field? "operator" fields = some (.string a.operator.name))
    (hnegated : negatedOfFields fields = .ok a.negated)
    (hvalue : Json.field? "value" fields = some (.object valueFields))
    (hread : AtomValue.ofFields a.operator valueFields = .ok a.value) :
    ofFields fields = .ok a := by
  have hfield := Json.requiredText_eq_ok_iff.2 hfield
  have hoperator :=
    Json.requiredKeyword_name Operator.ofName?_eq_some_iff .unknownOperator hoperator
  have hvalue := Json.required_eq_ok_iff.2 ⟨hvalue, nofun⟩
  rw [ofFields]
  simp only [hfield, hoperator, hnegated, hvalue, faultHere, bind, Except.bind, hread,
    mapError_ok]
  rfl

end Atom

/-! ### Expressions -/

namespace Expr

variable {fields : List (String × Json)}

theorem ofJson_of_const {b : Bool}
    (htype : Json.field? "type" fields = some (.string NodeType.const.name))
    (hkeys : Json.smallestOutside? NodeType.const.keys fields = none)
    (hvalue : Json.field? "value" fields = some (.bool b)) :
    ofJson (.object fields) = .ok (.const b) := by
  have htype := Json.requiredKeyword_name NodeType.ofName?_eq_some_iff .unknownNodeType htype
  have hvalue := Json.requiredBool_eq_ok_iff.2 hvalue
  rw [ofJson]
  simp only [htype, hkeys, hvalue]
  rfl

theorem ofJson_of_atom {a : Atom}
    (htype : Json.field? "type" fields = some (.string NodeType.atom.name))
    (hkeys : Json.smallestOutside? NodeType.atom.keys fields = none)
    (hread : Atom.ofFields fields = .ok a) : ofJson (.object fields) = .ok (.atom a) := by
  have htype := Json.requiredKeyword_name NodeType.ofName?_eq_some_iff .unknownNodeType htype
  rw [ofJson]
  simp only [htype, hkeys, hread]
  rfl

theorem ofJson_of_group {c : Connective} {items : List Json} {xs : List Expr}
    (htype : Json.field? "type" fields = some (.string (NodeType.group c).name))
    (hkeys : Json.smallestOutside? (NodeType.group c).keys fields = none)
    (hchildren : Json.field? "children" fields = some (.array items))
    (hread : listOfJson 0 items = .ok xs) : ofJson (.object fields) = .ok (.group c xs) := by
  have htype := Json.requiredKeyword_name NodeType.ofName?_eq_some_iff .unknownNodeType htype
  rw [ofJson]
  simp only [htype, hkeys]
  split <;> simp_all [Except.map]

theorem ofJson_of_not {j : Json} {x : Expr}
    (htype : Json.field? "type" fields = some (.string NodeType.not.name))
    (hkeys : Json.smallestOutside? NodeType.not.keys fields = none)
    (hchild : Json.field? "child" fields = some j)
    (hread : ofJson j = .ok x) : ofJson (.object fields) = .ok (.not x) := by
  have htype := Json.requiredKeyword_name NodeType.ofName?_eq_some_iff .unknownNodeType htype
  have hnull : ofJson .null = .error ⟨[], .notObject⟩ := by
    rw [ofJson]
    intro fields h
    cases h
  rw [ofJson]
  simp only [htype, hkeys]
  split <;> simp_all [Except.map, mapError_ok]

mutual

/-- The JSON value of an expression is decoded to it. -/
theorem ofJson_toJson :
    (e : Expr) → e.Denotable → ofJson e.toJson = .ok e
  | .const b, _ => by
    rw [toJson]
    exact ofJson_of_const rfl rfl rfl
  | .atom a, h => by
    obtain ⟨valueFields, hvalue, hread⟩ := a.value.exists_fields_toJson (h a (by simp [atoms]))
    rw [toJson, Atom.toJson, hvalue]
    exact ofJson_of_atom rfl rfl (Atom.ofFields_eq_ok rfl rfl rfl rfl hread)
  | .group c xs, h => by
    have hread := listOfJson_listToJson xs h 0
    rw [toJson]
    refine ofJson_of_group rfl ?_ rfl hread
    cases c <;> rfl
  | .not x, h => by
    have hread := ofJson_toJson x h
    rw [toJson]
    exact ofJson_of_not rfl rfl rfl hread

/-- The JSON values of a list of expressions are decoded to it. -/
theorem listOfJson_listToJson : (xs : List Expr) →
    (∀ a ∈ atomsOfList xs, a.value.Denotable) → ∀ i, listOfJson i (listToJson xs) = .ok xs
  | [], _, i => by
    rw [listToJson, listOfJson]
  | x :: xs, h, i => by
    rw [atomsOfList, List.forall_mem_append] at h
    have hfirst := ofJson_toJson x h.1
    have hrest := listOfJson_listToJson xs h.2 (i + 1)
    rw [listToJson, listOfJson, hfirst]
    simp [hrest, Except.map]

end

/-! ### Texts -/

theorem isExact_boundToJson (bound : Option Bound) : (Bound.toJson bound).IsExact := by
  cases bound <;> exact trivial

theorem areExact_map_string (values : List String) : Json.AreExact (values.map .string) := by
  induction values with
  | nil => exact trivial
  | cons v r ih => exact ⟨trivial, ih⟩

theorem isExact_valueToJson (v : AtomValue) : v.toJson.IsExact := by
  cases v <;>
    simp [AtomValue.toJson, Json.IsExact, Json.FieldsAreExact, isExact_boundToJson,
      areExact_map_string]

mutual

/-- The JSON value of an expression has no number that a reader could round. -/
theorem isExact_toJson : (e : Expr) → e.toJson.IsExact
  | .const _ => by simp [toJson, Json.IsExact, Json.FieldsAreExact]
  | .atom a => by
    simp [toJson, Atom.toJson, Json.IsExact, Json.FieldsAreExact, isExact_valueToJson]
  | .group _ xs => by
    simp [toJson, Json.IsExact, Json.FieldsAreExact, areExact_listToJson xs]
  | .not x => by simp [toJson, Json.IsExact, Json.FieldsAreExact, isExact_toJson x]

theorem areExact_listToJson : (xs : List Expr) → Json.AreExact (listToJson xs)
  | [] => by simp [listToJson, Json.AreExact]
  | x :: xs => by
    simp [listToJson, Json.AreExact, isExact_toJson x, areExact_listToJson xs]

end

/-- The text of an expression stands for its JSON value, and is read by a reader that allows as many
levels as the expression is deep. -/
theorem parseWithin?_canonical (e : Expr) (n : Nat) :
    Json.parseWithin? n e.canonical = if e.depth ≤ n then some e.toJson else none := by
  rw [canonical, Json.parseWithin?_compact (isExact_toJson e), levels_toJson]

/-- The text of an expression stands for its JSON value, which is decoded to the expression; the
text is read up to the depth of a document, and a deeper one is no JSON. -/
theorem read_canonical {e : Expr} (h : e.Denotable) :
    (∀ n, e.depth ≤ n → Json.parseWithin? n e.canonical = some e.toJson) ∧
      ofJson e.toJson = .ok e ∧
      (e.depth ≤ 127 → parse e.canonical = .ok e) ∧
      (128 ≤ e.depth → parse e.canonical = .error ⟨[], .notJson⟩) := by
  have hread := ofJson_toJson e h
  have hlimit : Json.parse? e.canonical = if e.depth ≤ 127 then some e.toJson else none :=
    parseWithin?_canonical e Json.maxLevels
  refine ⟨fun n hn => ?_, hread, fun hshallow => ?_, fun hdeep => ?_⟩
  · rw [parseWithin?_canonical, if_pos hn]
  · rw [if_pos hshallow] at hlimit
    rw [parse, hlimit]
    exact hread
  · rw [if_neg (Nat.not_le.2 hdeep)] at hlimit
    rw [parse, hlimit]

/-- An expression with bounds of all kinds, one of them in a clock's own time. -/
def boundsOfAllKinds : Expr :=
  .and [
    .atom (.range "issued" (.dates (some Date.epoch) none)),
    .not (.atom (.range "score" (.numbers none (some Number.zero)))),
    .atom (.range "seen" (.dateTimes (some ⟨⟨Date.epoch, Clock.midnight⟩, some ⟨3600, by decide⟩⟩)
      none))]

theorem read_canonical_boundsOfAllKinds :
    boundsOfAllKinds.Denotable ∧ parse boundsOfAllKinds.canonical = .ok boundsOfAllKinds := by
  have hdenotable : boundsOfAllKinds.Denotable := by
    intro a ha
    simp only [boundsOfAllKinds, atoms, atomsOfList, List.append_nil, List.cons_append,
      List.nil_append, List.mem_cons, List.not_mem_nil, or_false] at ha
    rcases ha with rfl | rfl | rfl
    · refine AtomValue.denotable_range_iff.2 ⟨RangeValue.kindsMatch_dates _ _, fun t ht => ?_⟩
      simp [AtomValue.bounds, RangeValue.dates, RangeValue.between] at ht
    · refine AtomValue.denotable_range_iff.2 ⟨RangeValue.kindsMatch_numbers _ _, fun t ht => ?_⟩
      simp [AtomValue.bounds, RangeValue.numbers, RangeValue.between] at ht
    · refine AtomValue.denotable_range_iff.2 ⟨RangeValue.kindsMatch_dateTimes _ _, fun t ht => ?_⟩
      have ht : t = ⟨⟨Date.epoch, Clock.midnight⟩, some ⟨3600, by decide⟩⟩ := by
        simpa [AtomValue.bounds, RangeValue.dateTimes, RangeValue.between] using ht
      rw [ht]
      exact ⟨.inl (by decide), fun _ _ => by decide, fun o ho => by cases ho; decide⟩
  exact ⟨hdenotable, (read_canonical hdenotable).2.2.1 (by decide)⟩

end Expr

end BiblioQuery
