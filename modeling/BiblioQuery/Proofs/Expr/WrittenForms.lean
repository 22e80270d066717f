import BiblioQuery.Proofs.Collection.Results
import BiblioQuery.Proofs.Expr.Places
import BiblioQuery.Proofs.Expr.ReadBack

/-!
# Written forms of expressions

An expression is written as many JSON values.  They differ from `Expr.toJson` in the order of keys,
in whether a flag that is off and an open end are written at all, and in the text or the number that
stands for a bound.  The decoder reads exactly these values: a shape says which keys an object may
have and what is under each of them, and there is one shape for every value of an atom, for atoms
and for the other nodes.

A bound is written as any text that denotes it as a bound of the kind of its range.  A bound of
another kind, or one that no text denotes, is therefore not written at all, and neither is an
expression with such a bound.

## Main definitions

* `Json.Shape` : what has to be under the keys of an object.
* `AtomValue.shape`, `Atom.shape` : the shapes of the objects that an atom is written as.
* `Expr.IsWrittenAs` : the JSON values that an expression is written as.

## Main results

* `AtomValue.ofFields_eq_ok_iff`, `Atom.ofFields_eq_ok_iff` : what a value and an atom are read
  from.
* `Expr.ofJson_eq_ok_iff` : an expression is read from exactly the values that it is written as.
* `Expr.isWrittenAs_object_iff` : what the objects that it is written as have under their keys.
-/

namespace BiblioQuery

/-! ### Shapes of objects -/

/-- The keys of an object, each with what may be under it; `none` stands for a key that is
absent. -/
abbrev Json.Shape := List (String × (Option Json → Prop))

namespace Json.Shape

/-- The fields have no other keys, and under each key there is what may be.  The order of the fields
does not count. -/
structure Fits (shape : Shape) (fields : List (String × Json)) : Prop where
  /-- There are no other keys. -/
  keys : ∀ p ∈ fields, p.1 ∈ shape.map Prod.fst
  /-- Under each key there is what may be. -/
  values : ∀ q ∈ shape, q.2 (field? q.1 fields)

/-- The value is an object of this shape. -/
def IsObject (shape : Shape) (j : Json) : Prop := ∃ fields, j = .object fields ∧ shape.Fits fields

theorem fits_iff {shape : Shape} {fields : List (String × Json)} : shape.Fits fields ↔
    smallestOutside? (shape.map Prod.fst) fields = none ∧
      ∀ q ∈ shape, q.2 (field? q.1 fields) := by
  rw [smallestOutside?_eq_none_iff]
  exact ⟨fun h => ⟨h.keys, h.values⟩, fun h => ⟨h.1, h.2⟩⟩

end Json.Shape

/-! ### Values of atoms -/

theorem alternatives_eq_ok_iff {i : Nat} {items : List Json} {values : List String} :
    alternatives i items = .ok values ↔ items = values.map .string := by
  constructor
  · intro h
    induction items generalizing i values with
    | nil =>
      rw [← Except.ok.inj h]
      rfl
    | cons item items ih =>
      cases item with
      | string s =>
        obtain ⟨rest, hrest, rfl⟩ := ok_of_map_eq_ok h
        rw [ih hrest, List.map_cons]
      | _ => cases h
  · rintro rfl
    exact alternatives_map_string i values

namespace AtomValue

/-- The shape of the object that the value of an atom is written as. -/
def shape : AtomValue → Json.Shape
  | .term t =>
    [("text", (· = some (.string t.text))), ("match_type", (· = some (.string t.matchType.name))),
      ("case_sensitivity", (· = some (.string t.caseMode.name)))]
  | .member v =>
    [("values", (· = some (.array (v.values.map .string)))),
      ("case_sensitive", (· = some (.bool v.caseSensitive)))]
  | .range r =>
    [("kind", (· = some (.string r.kind.name))), ("lower", Bound.IsWrittenAs r.kind r.lower),
      ("upper", Bound.IsWrittenAs r.kind r.upper),
      ("include_lower", (· = some (.bool r.includeLower))),
      ("include_upper", (· = some (.bool r.includeUpper)))]
  | .presence expected => [("expected", (· = some (.bool expected)))]
  | .token t => [("kind", (· = some (.string t.kind))), ("value", (· = some (.string t.value)))]

/-- The keys of the shape are those of the operator. -/
theorem map_fst_shape (v : AtomValue) : v.shape.map Prod.fst = v.operator.valueKeys := by
  cases v <;> rfl

variable {operator : Operator} {fields : List (String × Json)} {v : AtomValue}

/-- What is read for an operator is a value of that operator, and the fields have its shape. -/
theorem fits_of_ofFields (h : ofFields operator fields = .ok v) :
    v.operator = operator ∧ v.shape.Fits fields := by
  unfold ofFields at h
  split at h
  · cases h
  rename_i hkeys
  have hfits (hv : v.operator = operator)
      (hvalues : ∀ q ∈ v.shape, q.2 (Json.field? q.1 fields)) :
      v.operator = operator ∧ v.shape.Fits fields := by
    refine ⟨hv, Json.Shape.fits_iff.2 ⟨?_, hvalues⟩⟩
    rw [map_fst_shape, hv, hkeys]
  cases operator with
  | term =>
    obtain ⟨text, htext, h⟩ := ok_of_bind_eq_ok h
    obtain ⟨matchType, hmatch, h⟩ := ok_of_bind_eq_ok h
    obtain ⟨caseMode, hcase, h⟩ := ok_of_bind_eq_ok h
    obtain rfl := Except.ok.inj h
    rw [faultHere_eq_ok_iff, Json.requiredText_eq_ok_iff] at htext
    rw [faultHere_eq_ok_iff, Json.requiredKeyword_eq_name_iff MatchType.ofName?_eq_some_iff]
      at hmatch
    rw [faultHere_eq_ok_iff, Json.requiredKeyword_eq_name_iff CaseMode.ofName?_eq_some_iff]
      at hcase
    exact hfits rfl (by simp [shape, htext, hmatch, hcase])
  | member =>
    obtain ⟨items, hitems, h⟩ := ok_of_bind_eq_ok h
    rw [faultHere_eq_ok_iff, Json.required_eq_ok_iff] at hitems
    split at h
    · obtain ⟨values, hvalues, h⟩ := ok_of_bind_eq_ok h
      obtain ⟨caseSensitive, hcase, h⟩ := ok_of_bind_eq_ok h
      obtain rfl := Except.ok.inj h
      rw [alternatives_eq_ok_iff] at hvalues
      rw [faultHere_eq_ok_iff, Json.requiredBool_eq_ok_iff] at hcase
      exact hfits rfl (by simp [shape, hitems.1, hvalues, hcase])
    · cases h
  | range =>
    obtain ⟨kind, hkind, h⟩ := ok_of_bind_eq_ok h
    obtain ⟨lower, hlower, h⟩ := ok_of_bind_eq_ok h
    obtain ⟨upper, hupper, h⟩ := ok_of_bind_eq_ok h
    obtain ⟨includeLower, hincludeLower, h⟩ := ok_of_bind_eq_ok h
    obtain ⟨includeUpper, hincludeUpper, h⟩ := ok_of_bind_eq_ok h
    obtain rfl := Except.ok.inj h
    rw [faultHere_eq_ok_iff, Json.requiredKeyword_eq_name_iff RangeKind.ofName?_eq_some_iff]
      at hkind
    rw [boundOfFields_eq_ok_iff] at hlower hupper
    rw [faultHere_eq_ok_iff, Json.requiredBool_eq_ok_iff] at hincludeLower hincludeUpper
    refine hfits rfl ?_
    simp only [shape, List.forall_mem_cons]
    exact ⟨hkind, hlower, hupper, hincludeLower, hincludeUpper, List.forall_mem_nil _⟩
  | presence =>
    obtain ⟨expected, hexpected, h⟩ := ok_of_bind_eq_ok h
    obtain rfl := Except.ok.inj h
    rw [faultHere_eq_ok_iff, Json.requiredBool_eq_ok_iff] at hexpected
    exact hfits rfl (by simp [shape, hexpected])
  | token =>
    obtain ⟨kind, hkind, h⟩ := ok_of_bind_eq_ok h
    obtain ⟨value, hvalue, h⟩ := ok_of_bind_eq_ok h
    obtain rfl := Except.ok.inj h
    rw [faultHere_eq_ok_iff, Json.requiredText_eq_ok_iff] at hkind hvalue
    exact hfits rfl (by simp [shape, hkind, hvalue])

/-- A value is read from the fields of its shape. -/
theorem ofFields_of_fits (h : v.shape.Fits fields) : ofFields v.operator fields = .ok v := by
  obtain ⟨hkeys, hvalues⟩ := Json.Shape.fits_iff.1 h
  rw [map_fst_shape] at hkeys
  cases v with
  | term t =>
    simp only [shape, List.forall_mem_cons] at hvalues
    exact ofFields_term hkeys hvalues.1 hvalues.2.1 hvalues.2.2.1
  | member m =>
    simp only [shape, List.forall_mem_cons] at hvalues
    exact ofFields_member hkeys hvalues.1 hvalues.2.1
  | range r =>
    simp only [shape, List.forall_mem_cons] at hvalues
    obtain ⟨hkind, hlower, hupper, hincludeLower, hincludeUpper, -⟩ := hvalues
    exact ofFields_range hkeys hkind (boundOfFields_eq_ok_iff.2 hlower)
      (boundOfFields_eq_ok_iff.2 hupper) hincludeLower hincludeUpper
  | presence expected =>
    simp only [shape, List.forall_mem_cons] at hvalues
    exact ofFields_presence hkeys hvalues.1
  | token t =>
    simp only [shape, List.forall_mem_cons] at hvalues
    exact ofFields_token hkeys hvalues.1 hvalues.2.1

/-- What is read for an operator are the values of that operator whose shape the fields have. -/
theorem ofFields_eq_ok_iff :
    ofFields operator fields = .ok v ↔ v.operator = operator ∧ v.shape.Fits fields := by
  constructor
  · exact fits_of_ofFields
  · rintro ⟨rfl, h⟩
    exact ofFields_of_fits h

end AtomValue

/-! ### Atoms -/

namespace Atom

/-- The shape of the object that an atom is written as. -/
def shape (a : Atom) : Json.Shape :=
  [("type", (· = some (.string NodeType.atom.name))), ("field", (· = some (.string a.field))),
    ("operator", (· = some (.string a.operator.name))),
    ("value", fun o => ∃ j ∈ o, a.value.shape.IsObject j), ("negated", FlagIsWrittenAs a.negated)]

/-- An atom is read from the fields of its shape. -/
theorem ofFields_eq_ok_iff {fields : List (String × Json)} {a : Atom} :
    ofFields fields = .ok a ↔
      Json.field? "field" fields = some (.string a.field) ∧
        Json.field? "operator" fields = some (.string a.operator.name) ∧
        (∃ j ∈ Json.field? "value" fields, a.value.shape.IsObject j) ∧
        FlagIsWrittenAs a.negated (Json.field? "negated" fields) := by
  constructor
  · intro h
    unfold ofFields at h
    obtain ⟨field, hfield, h⟩ := ok_of_bind_eq_ok h
    obtain ⟨operator, hoperator, h⟩ := ok_of_bind_eq_ok h
    obtain ⟨negated, hnegated, h⟩ := ok_of_bind_eq_ok h
    obtain ⟨value, hvalue, h⟩ := ok_of_bind_eq_ok h
    split at h
    · obtain ⟨v, hv, h⟩ := ok_of_bind_eq_ok h
      obtain rfl := Except.ok.inj h
      obtain ⟨rfl, hfits⟩ := AtomValue.ofFields_eq_ok_iff.1 (ok_of_mapError_eq_ok hv)
      rw [faultHere_eq_ok_iff, Json.requiredText_eq_ok_iff] at hfield
      rw [faultHere_eq_ok_iff, Json.requiredKeyword_eq_name_iff Operator.ofName?_eq_some_iff]
        at hoperator
      rw [faultHere_eq_ok_iff, negatedOfFields_eq_ok_iff] at hnegated
      rw [faultHere_eq_ok_iff, Json.required_eq_ok_iff] at hvalue
      exact ⟨hfield, hoperator, ⟨_, hvalue.1, _, rfl, hfits⟩, hnegated⟩
    · cases h
  · rintro ⟨hfield, hoperator, ⟨_, hvalue, valueFields, rfl, hfits⟩, hnegated⟩
    exact ofFields_eq_ok hfield hoperator (negatedOfFields_eq_ok_iff.2 hnegated) hvalue
      (AtomValue.ofFields_of_fits hfits)

end Atom

/-! ### Expressions -/

namespace Expr

mutual

/-- The JSON values that an expression is written as. -/
def IsWrittenAs : Expr → Json → Prop
  | .const b, j =>
    Json.Shape.IsObject
      [("type", (· = some (.string NodeType.const.name))), ("value", (· = some (.bool b)))] j
  | .atom a, j => a.shape.IsObject j
  | .group c xs, j =>
    Json.Shape.IsObject
      [("type", (· = some (.string (NodeType.group c).name))),
        ("children", fun o => ∃ items, o = some (.array items) ∧ AreWrittenAs xs items)] j
  | .not x, j =>
    Json.Shape.IsObject
      [("type", (· = some (.string NodeType.not.name))),
        ("child", fun o => ∃ k ∈ o, IsWrittenAs x k)] j

/-- The lists of JSON values that a list of expressions is written as. -/
def AreWrittenAs : List Expr → List Json → Prop
  | [], items => items = []
  | x :: xs, items => ∃ j r, items = j :: r ∧ IsWrittenAs x j ∧ AreWrittenAs xs r

end

/-- What is under the keys of a node, but for its type, is read as the expression. -/
def IsReadFrom (fields : List (String × Json)) : Expr → Prop
  | .const b => Json.field? "value" fields = some (.bool b)
  | .atom a => Atom.ofFields fields = .ok a
  | .group _ xs =>
    ∃ items, Json.field? "children" fields = some (.array items) ∧ listOfJson 0 items = .ok xs
  | .not x => ∃ k ∈ Json.field? "child" fields, ofJson k = .ok x

/-- A node is read by its type, its keys, and what is under them. -/
theorem ofJson_object_eq_ok_iff {fields : List (String × Json)} {e : Expr} :
    ofJson (.object fields) = .ok e ↔
      Json.field? "type" fields = some (.string e.nodeType.name) ∧
        Json.smallestOutside? e.nodeType.keys fields = none ∧ e.IsReadFrom fields := by
  constructor
  · intro h
    rw [ofJson] at h
    split at h
    · cases h
    rename_i type htype
    rw [Json.requiredKeyword_eq_name_iff NodeType.ofName?_eq_some_iff] at htype
    split at h
    · cases h
    rename_i hkeys
    split at h
    · obtain ⟨b, hb, rfl⟩ := ok_of_map_eq_ok h
      rw [faultHere_eq_ok_iff, Json.requiredBool_eq_ok_iff] at hb
      exact ⟨htype, hkeys, hb⟩
    · obtain ⟨a, ha, rfl⟩ := ok_of_map_eq_ok h
      exact ⟨htype, hkeys, ha⟩
    · split at h
      · cases h
      · cases h
      · rename_i items hchildren
        obtain ⟨xs, hxs, rfl⟩ := ok_of_map_eq_ok h
        exact ⟨htype, hkeys, items, hchildren, hxs⟩
      · cases h
    · split at h
      · cases h
      · cases h
      · rename_i k _ hchild
        obtain ⟨x, hx, rfl⟩ := ok_of_map_eq_ok h
        exact ⟨htype, hkeys, k, hchild, ok_of_mapError_eq_ok hx⟩
  · rintro ⟨htype, hkeys, hread⟩
    cases e with
    | const b => exact ofJson_of_const htype hkeys hread
    | atom a => exact ofJson_of_atom htype hkeys hread
    | group c xs =>
      obtain ⟨items, hchildren, hxs⟩ := hread
      exact ofJson_of_group htype hkeys hchildren hxs
    | not x =>
      obtain ⟨k, hchild, hx⟩ := hread
      exact ofJson_of_not htype hkeys hchild hx

/-- Only objects are read. -/
theorem ofJson_eq_ok_iff_exists_object {j : Json} {e : Expr} :
    ofJson j = .ok e ↔ ∃ fields, j = .object fields ∧ ofJson (.object fields) = .ok e := by
  cases j with
  | object fields => simp
  | _ => simp [ofJson]

theorem listOfJson_cons_eq_ok_iff {i : Nat} {j : Json} {r : List Json} {ys : List Expr} :
    listOfJson i (j :: r) = .ok ys ↔
      ∃ x xs, ys = x :: xs ∧ ofJson j = .ok x ∧ listOfJson (i + 1) r = .ok xs := by
  rw [listOfJson]
  constructor
  · intro h
    split at h
    · cases h
    · rename_i x hx
      obtain ⟨xs, hxs, rfl⟩ := ok_of_map_eq_ok h
      exact ⟨x, xs, rfl, hx, hxs⟩
  · rintro ⟨x, xs, rfl, hx, hxs⟩
    simp only [hx, hxs]
    rfl

/-- A node that has one key besides its type is of its shape if it has the type, no other key, and
under its key what may be. -/
theorem isObject_node_iff {type : NodeType} {key : String} {P : Option Json → Prop} {j : Json}
    (htype : type.keys = ["type", key]) :
    Json.Shape.IsObject [("type", (· = some (.string type.name))), (key, P)] j ↔
      ∃ fields, j = .object fields ∧ Json.field? "type" fields = some (.string type.name) ∧
        Json.smallestOutside? type.keys fields = none ∧ P (Json.field? key fields) := by
  simp only [Json.Shape.IsObject, Json.Shape.fits_iff, htype, List.map_cons, List.map_nil,
    List.forall_mem_cons]
  grind

/-- The object of an atom has its type, the keys of that type, and the parts of the atom. -/
theorem isObject_atom_iff {a : Atom} {j : Json} :
    a.shape.IsObject j ↔
      ∃ fields, j = .object fields ∧
        Json.field? "type" fields = some (.string NodeType.atom.name) ∧
        Json.smallestOutside? NodeType.atom.keys fields = none ∧ Atom.ofFields fields = .ok a := by
  simp only [Json.Shape.IsObject, Json.Shape.fits_iff, Atom.ofFields_eq_ok_iff, Atom.shape,
    NodeType.keys, List.map_cons, List.map_nil, List.forall_mem_cons]
  grind

mutual

/-- An expression is read from exactly the JSON values that it is written as. -/
theorem ofJson_eq_ok_iff : (e : Expr) → (j : Json) → (ofJson j = .ok e ↔ e.IsWrittenAs j)
  | .const b, j => by
    rw [ofJson_eq_ok_iff_exists_object, IsWrittenAs, isObject_node_iff rfl]
    simp only [ofJson_object_eq_ok_iff, nodeType, IsReadFrom]
  | .atom a, j => by
    rw [ofJson_eq_ok_iff_exists_object, IsWrittenAs, isObject_atom_iff]
    simp only [ofJson_object_eq_ok_iff, nodeType, IsReadFrom]
  | .group c xs, j => by
    rw [ofJson_eq_ok_iff_exists_object, IsWrittenAs, isObject_node_iff rfl]
    simp only [ofJson_object_eq_ok_iff, nodeType, IsReadFrom, listOfJson_eq_ok_iff xs]
  | .not x, j => by
    rw [ofJson_eq_ok_iff_exists_object, IsWrittenAs, isObject_node_iff rfl]
    simp only [ofJson_object_eq_ok_iff, nodeType, IsReadFrom, ofJson_eq_ok_iff x]

/-- The members of a group are read from exactly the lists that they are written as. -/
theorem listOfJson_eq_ok_iff : (xs : List Expr) → (i : Nat) → (items : List Json) →
    (listOfJson i items = .ok xs ↔ AreWrittenAs xs items)
  | [], i, items => by
    rw [AreWrittenAs]
    cases items with
    | nil => simp [listOfJson]
    | cons j r => simp [listOfJson_cons_eq_ok_iff]
  | x :: xs, i, items => by
    rw [AreWrittenAs]
    cases items with
    | nil => simp [listOfJson]
    | cons j r =>
      simp only [listOfJson_cons_eq_ok_iff, List.cons.injEq, ← ofJson_eq_ok_iff x,
        ← listOfJson_eq_ok_iff xs (i + 1)]
      grind

end

/-- An object that an expression is written as has its type, the keys of that type, and under them
what is read as the expression. -/
theorem isWrittenAs_object_iff {e : Expr} {fields : List (String × Json)} :
    e.IsWrittenAs (.object fields) ↔
      Json.field? "type" fields = some (.string e.nodeType.name) ∧
        Json.smallestOutside? e.nodeType.keys fields = none ∧ e.IsReadFrom fields := by
  rw [← ofJson_eq_ok_iff, ofJson_object_eq_ok_iff]

/-- An expression is written as objects only. -/
theorem IsWrittenAs.exists_object {e : Expr} {j : Json} (h : e.IsWrittenAs j) :
    ∃ fields, j = .object fields := by
  obtain ⟨fields, rfl, -⟩ := ofJson_eq_ok_iff_exists_object.1 ((ofJson_eq_ok_iff e j).2 h)
  exact ⟨fields, rfl⟩

end Expr

end BiblioQuery
