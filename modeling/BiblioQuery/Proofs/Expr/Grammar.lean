import BiblioQuery.Proofs.Expr.Ambiguity
import BiblioQuery.Proofs.Expr.Reread

/-!
# The grammar of nodes

Two tables say what a node of each type and the value of each operator have to have: the required
keys, each with the kind of its value.  Every node of a value that is read keeps to the tables, at
whatever depth it stands, so that a single node that does not makes the whole value malformed.

## Main definitions

* `NodeType.required`, `Operator.required` : the required keys of a node and of a value.
* `Json.IsProperNode` : the node keeps to the tables.

## Main results

* `Expr.IsWrittenAs.part?` : the nodes of a written form are written forms of the parts.
* `Expr.IsWrittenAs.isProperNode` : a written form is a proper node.
* `Expr.ofJson_iff_isWrittenAs` : what is read, what is refused, and what makes a value be refused.
-/

namespace BiblioQuery

/-! ### Required keys -/

/-- The kind of a JSON value. -/
inductive Json.Kind where
  /-- The value is `null`. -/
  | null
  /-- The value is a truth value. -/
  | bool
  /-- The value is a number. -/
  | number
  /-- The value is a string. -/
  | string
  /-- The value is an array. -/
  | array
  /-- The value is an object. -/
  | object
  deriving DecidableEq

/-- The kind of the value. -/
def Json.kind : Json → Json.Kind
  | .null => .null
  | .bool _ => .bool
  | .number _ => .number
  | .string _ => .string
  | .array _ => .array
  | .object _ => .object

/-- The required keys of a node, with the kinds of their values. -/
def NodeType.required : NodeType → List (String × Json.Kind)
  | .const => [("type", .string), ("value", .bool)]
  | .atom => [("type", .string), ("field", .string), ("operator", .string), ("value", .object)]
  | .group _ => [("type", .string), ("children", .array)]
  | .not => [("type", .string), ("child", .object)]

/-- The required keys of the value of an atom, with the kinds of their values. -/
def Operator.required : Operator → List (String × Json.Kind)
  | .term => [("text", .string), ("match_type", .string), ("case_sensitivity", .string)]
  | .member => [("values", .array), ("case_sensitive", .bool)]
  | .range => [("kind", .string), ("include_lower", .bool), ("include_upper", .bool)]
  | .presence => [("expected", .bool)]
  | .token => [("kind", .string), ("value", .string)]

namespace Json

/-- The fields have no keys but those that are known, and the required keys have values of their
kinds. -/
structure KeepsTo (known : List String) (required : List (String × Kind))
    (fields : List (String × Json)) : Prop where
  /-- The keys are known. -/
  known : ∀ p ∈ fields, p.1 ∈ known
  /-- The required keys are there. -/
  required : ∀ q ∈ required, (field? q.1 fields).map kind = some q.2

/-- The node has a known type and keeps to it; if it is an atom, it has a known operator and its
value keeps to that. -/
def IsProperNode (node : Json) : Prop :=
  ∃ (fields : List (String × Json)) (type : NodeType), node = .object fields ∧
    field? "type" fields = some (.string type.name) ∧ KeepsTo type.keys type.required fields ∧
    (type = .atom → ∃ (operator : Operator) (valueFields : List (String × Json)),
      field? "operator" fields = some (.string operator.name) ∧
        field? "value" fields = some (.object valueFields) ∧
        KeepsTo operator.valueKeys operator.required valueFields)

end Json

/-- The object that a value is written as keeps to the operator. -/
theorem AtomValue.keepsTo_of_fits {v : AtomValue} {fields : List (String × Json)}
    (h : v.shape.Fits fields) :
    Json.KeepsTo v.operator.valueKeys v.operator.required fields := by
  have hvalues := h.values
  refine ⟨v.map_fst_shape ▸ h.keys, ?_⟩
  cases v <;> simp only [shape, List.forall_mem_cons] at hvalues <;>
    simp [operator, Operator.required, Json.kind, hvalues]

namespace Expr

/-! ### Nodes of written forms -/

/-- A written form is a proper node. -/
theorem IsWrittenAs.isProperNode {e : Expr} {j : Json} (h : e.IsWrittenAs j) :
    j.IsProperNode := by
  obtain ⟨fields, rfl⟩ := h.exists_object
  obtain ⟨htype, hkeys, hread⟩ := isWrittenAs_object_iff.1 h
  have hproper (hrequired : ∀ q ∈ e.nodeType.required,
      (Json.field? q.1 fields).map Json.kind = some q.2) :
      Json.KeepsTo e.nodeType.keys e.nodeType.required fields :=
    ⟨Json.smallestOutside?_eq_none_iff.1 hkeys, hrequired⟩
  refine ⟨fields, e.nodeType, rfl, htype, ?_⟩
  cases e with
  | const b =>
    have hvalue : Json.field? "value" fields = some (.bool b) := hread
    exact ⟨hproper (by simp [nodeType, NodeType.required, Json.kind, htype, hvalue]),
      by simp [nodeType]⟩
  | atom a =>
    obtain ⟨hfield, hoperator, ⟨_, hvalue, valueFields, rfl, hfits⟩, -⟩ :=
      Atom.ofFields_eq_ok_iff.1 hread
    rw [Option.mem_def] at hvalue
    refine ⟨hproper ?_, fun _ =>
      ⟨a.operator, valueFields, hoperator, hvalue, AtomValue.keepsTo_of_fits hfits⟩⟩
    simp [nodeType, NodeType.required, Json.kind, htype, hfield, hoperator, hvalue]
  | group c xs =>
    obtain ⟨items, hchildren, -⟩ := hread
    exact ⟨hproper (by simp [nodeType, NodeType.required, Json.kind, htype, hchildren]),
      by simp [nodeType]⟩
  | not x =>
    obtain ⟨k, hchild, hx⟩ := hread
    rw [Option.mem_def] at hchild
    obtain ⟨childFields, rfl⟩ := ((ofJson_eq_ok_iff x k).1 hx).exists_object
    exact ⟨hproper (by simp [nodeType, NodeType.required, Json.kind, htype, hchild]),
      by simp [nodeType]⟩

theorem AreWrittenAs.getElem? {xs : List Expr} {items : List Json} (h : AreWrittenAs xs items)
    {i : Nat} {k : Json} (hk : items[i]? = some k) : ∃ x, xs[i]? = some x ∧ x.IsWrittenAs k := by
  induction xs generalizing items i with
  | nil =>
    rw [AreWrittenAs] at h
    simp [h] at hk
  | cons x xs ih =>
    rw [AreWrittenAs] at h
    obtain ⟨j, r, rfl, hx, hxs⟩ := h
    cases i with
    | zero =>
      obtain rfl := Option.some.inj hk
      exact ⟨x, rfl, hx⟩
    | succ i => exact ih hxs hk

/-- Only negations have something under the key of a child. -/
theorem IsWrittenAs.of_child {e : Expr} {fields : List (String × Json)} {k : Json}
    (h : e.IsWrittenAs (.object fields)) (hchild : Json.field? "child" fields = some k) :
    ∃ x, e = .not x ∧ x.IsWrittenAs k := by
  obtain ⟨-, hkeys, hread⟩ := isWrittenAs_object_iff.1 h
  have hkey := Json.mem_of_field?_eq_some hkeys hchild
  cases e with
  | not x =>
    obtain ⟨k', hchild', hx⟩ := hread
    obtain rfl := Option.some.inj (hchild.symm.trans hchild')
    exact ⟨x, rfl, (ofJson_eq_ok_iff x k).1 hx⟩
  | _ => simp [nodeType, NodeType.keys] at hkey

/-- Only groups have something under the key of the children. -/
theorem IsWrittenAs.of_children {e : Expr} {fields : List (String × Json)} {items : List Json}
    (h : e.IsWrittenAs (.object fields))
    (hchildren : Json.field? "children" fields = some (.array items)) :
    ∃ c xs, e = .group c xs ∧ AreWrittenAs xs items := by
  obtain ⟨-, hkeys, hread⟩ := isWrittenAs_object_iff.1 h
  have hkey := Json.mem_of_field?_eq_some hkeys hchildren
  cases e with
  | group c xs =>
    obtain ⟨items', hchildren', hxs⟩ := hread
    obtain rfl := Json.array.inj (Option.some.inj (hchildren.symm.trans hchildren'))
    exact ⟨c, xs, rfl, (listOfJson_eq_ok_iff xs 0 items).1 hxs⟩
  | _ => simp [nodeType, NodeType.keys] at hkey

/-- A step from a written form to a node leads to a written form of the part behind that step. -/
theorem IsWrittenAs.step? {e : Expr} {j k : Json} (h : e.IsWrittenAs j) {t : Step}
    (ht : t.toNode = true) (hk : j.step? t = some k) :
    ∃ x : Expr, (∀ p, e.part? (t :: p) = x.part? p) ∧ x.IsWrittenAs k := by
  obtain ⟨fields, rfl, ⟨rfl, hchild⟩ | ⟨i, items, rfl, hchildren, hitem⟩⟩ :=
    Json.step?_of_toNode ht hk
  · obtain ⟨x, rfl, hx⟩ := h.of_child hchild
    exact ⟨x, fun p => by rw [Expr.part?], hx⟩
  · obtain ⟨c, xs, rfl, hxs⟩ := h.of_children hchildren
    obtain ⟨x, hx, hwritten⟩ := hxs.getElem? hitem
    exact ⟨x, fun p => by simp only [Expr.part?, hx], hwritten⟩

/-- The nodes of a written form are written forms of the parts of the expression. -/
theorem IsWrittenAs.part? {e : Expr} {j node : Json} (h : e.IsWrittenAs j) {p : List Step}
    (hp : ∀ t ∈ p, t.toNode = true) (hnode : j.part? p = some node) :
    ∃ x, e.part? p = some x ∧ x.IsWrittenAs node := by
  induction p generalizing e j with
  | nil =>
    obtain rfl := Option.some.inj hnode
    exact ⟨e, by rw [Expr.part?], h⟩
  | cons t p ih =>
    rw [List.forall_mem_cons] at hp
    rw [Json.part?] at hnode
    obtain ⟨k, hk, hnode⟩ := Option.bind_eq_some_iff.1 hnode
    obtain ⟨x, hpart, hx⟩ := h.step? hp.1 hk
    rw [hpart]
    exact ih hx hp.2 hnode

/-! ### What is read and what is refused -/

/-- Its own JSON value is one that an expression is written as exactly if its bounds are of the
kinds of their ranges and some text denotes each of them. -/
theorem isWrittenAs_toJson_iff {e : Expr} : e.IsWrittenAs e.toJson ↔ e.Denotable := by
  rw [← ofJson_eq_ok_iff]
  constructor
  · intro h
    exact (rereadable_of_ofJson h).denotable
  · exact ofJson_toJson e

/-- A value is refused exactly if it is no written form of any expression. -/
theorem exists_ofJson_eq_error_iff {j : Json} :
    (∃ m, ofJson j = .error m) ↔ ∀ e : Expr, ¬ e.IsWrittenAs j := by
  simp only [← ofJson_eq_ok_iff]
  cases ofJson j <;> simp

/-- An expression is read from exactly the values that it is written as: objects with the keys of
`Expr.toJson` in any order, where a flag that is off may be `null` or absent, an open end may be
absent, and a bound may be any text that denotes it or, in a number range, any number whose text
does.  Its own JSON value is one of them if its bounds are of the kinds of their ranges and some
text denotes each of them, and else there is none.  Every other value is malformed, and so is every
value with a node, at whatever depth, that has an unknown key, in itself or in the value of an atom,
or that has nothing, `null` or a value of another kind under a required key. -/
theorem ofJson_iff_isWrittenAs (j : Json) :
    (∀ e, ofJson j = .ok e ↔ e.IsWrittenAs j) ∧
      ((∃ m, ofJson j = .error m) ↔ ∀ e : Expr, ¬ e.IsWrittenAs j) ∧
      (∀ (p : List Step) (node : Json), (∀ t ∈ p, t.toNode = true) → j.part? p = some node →
        ¬ node.IsProperNode → ∃ m, ofJson j = .error m) ∧
      (∀ e : Expr, e.IsWrittenAs e.toJson ↔ e.Denotable) ∧
      ∀ e : Expr, e.IsWrittenAs j → e.Denotable := by
  refine ⟨fun e => ofJson_eq_ok_iff e j, exists_ofJson_eq_error_iff, fun p node hp hnode hbad => ?_,
    fun e => isWrittenAs_toJson_iff, fun e he => ?_⟩
  · rw [exists_ofJson_eq_error_iff]
    intro e he
    obtain ⟨x, -, hx⟩ := he.part? hp hnode
    exact hbad hx.isProperNode
  · exact (rereadable_of_ofJson ((ofJson_eq_ok_iff e j).2 he)).denotable

end Expr

end BiblioQuery
