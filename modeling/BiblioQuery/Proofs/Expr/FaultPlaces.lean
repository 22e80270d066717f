import BiblioQuery.Proofs.Collection.Results
import BiblioQuery.Proofs.Expr.Places
import BiblioQuery.Proofs.Expr.ReadBack

/-!
# Places of faults

The decoder reports the first fault that it meets, with the steps that lead there.  Either the node
itself is at fault, and then the place lies in its own fields; or it is known by its type and keys,
and the fault is one of a node below it, behind members that were read.  Followed to its end, this
says that the place exists, and that the innermost node on the way has the fault by itself.

## Main definitions

* `Malformed.LiesIn` : the fault is at a place of the node that is no other node.
* `Json.FailsBelow` : the fault is one of a node right below.
* `Json.Locates` : how the place of a fault is divided at the innermost node.

## Main results

* `AtomValue.liesIn_of_ofFields`, `Atom.liesIn_of_ofFields` : atoms have their faults in themselves.
* `Expr.liesIn_or_failsBelow_of_ofJson` : one step towards the place of a fault.
* `Expr.exists_locates_of_ofJson` : where the place of a fault is.
-/

namespace BiblioQuery

/-! ### Faults of one node -/

/-- The place of the fault is a part of the node that no step to another node leads to. -/
structure Malformed.LiesIn (node : Json) (m : Malformed) : Prop where
  /-- No step leads to another node. -/
  inside : ∀ t ∈ m.path, t.toNode = false
  /-- The place exists. -/
  exists_part : ∃ v, node.part? m.path = some v

namespace Malformed.LiesIn

/-- What is wrong with a node as a whole lies in it. -/
theorem here (node : Json) (f : Fault) : LiesIn node ⟨[], f⟩ := ⟨nofun, node, rfl⟩

theorem of_faultHere {α : Type} {r : Except Fault α} {m : Malformed} (node : Json)
    (h : faultHere r = .error m) : LiesIn node m := by
  cases r with
  | ok a => cases h
  | error f =>
    obtain rfl := Except.error.inj h
    exact here node f

/-- Of two steps in turn, the first of which reads from the node as a whole, the fault lies in the
node if that of the second one does. -/
theorem of_bind {α β : Type} {node : Json} {r : Except Fault α} {f : α → Except Malformed β}
    {m : Malformed} (h : faultHere r >>= f = .error m)
    (hf : ∀ a, r = .ok a → f a = .error m → LiesIn node m) : LiesIn node m := by
  cases r with
  | ok a => exact hf a rfl h
  | error g => exact of_faultHere (r := .error g) node h

/-- What is wrong with a value inside a node lies in the node. -/
theorem of_step {node v : Json} {t : Step} (ht : t.toNode = false) (hv : node.step? t = some v)
    (f : Fault) : LiesIn node ⟨[t], f⟩ :=
  ⟨by simpa using ht, v, Json.part?_cons hv []⟩

end Malformed.LiesIn

/-! ### Values of atoms -/

/-- The item that is no alternative is one of the items. -/
theorem exists_of_alternatives_eq_error {i : Nat} {items : List Json} {m : Malformed}
    (h : alternatives i items = .error m) :
    ∃ k v, items[k]? = some v ∧ m = ⟨[.values (i + k)], .alternativeNotString⟩ := by
  induction items generalizing i with
  | nil => cases h
  | cons item items ih =>
    cases item with
    | string s =>
      obtain ⟨k, v, hv, rfl⟩ := ih (error_of_map_eq_error h)
      exact ⟨k + 1, v, hv, by rw [Nat.add_right_comm, Nat.add_assoc]⟩
    | _ => exact ⟨0, _, rfl, (Except.error.inj h).symm⟩

theorem liesIn_of_boundOfText {kind : RangeKind} {step : Step} {text : String} {node v : Json}
    {m : Malformed} (hstep : step.toNode = false) (hv : node.step? step = some v)
    (h : boundOfText kind step text = .error m) : m.LiesIn node := by
  unfold boundOfText at h
  split at h
  · cases h
  · obtain rfl := Except.error.inj h
    exact .of_step hstep hv _

theorem liesIn_of_boundOfFields {kind : RangeKind} {key : String} {step : Step}
    {fields : List (String × Json)} {m : Malformed} (hstep : step.toNode = false)
    (hkey : (Json.object fields).step? step = Json.field? key fields)
    (h : boundOfFields kind key step fields = .error m) : m.LiesIn (.object fields) := by
  unfold boundOfFields at h
  split at h
  · cases h
  · cases h
  · rename_i hfield
    exact liesIn_of_boundOfText hstep (hkey.trans hfield) h
  · rename_i hfield
    split at h
    · exact liesIn_of_boundOfText hstep (hkey.trans hfield) h
    · obtain rfl := Except.error.inj h
      exact .here _ _
  · obtain rfl := Except.error.inj h
    exact .here _ _

/-- The value of an atom has its faults in itself. -/
theorem AtomValue.liesIn_of_ofFields {operator : Operator} {fields : List (String × Json)}
    {m : Malformed} (h : ofFields operator fields = .error m) : m.LiesIn (.object fields) := by
  unfold ofFields at h
  split at h
  · obtain rfl := Except.error.inj h
    exact .here _ _
  cases operator with
  | term =>
    refine .of_bind h fun text _ h => ?_
    refine .of_bind h fun matchType _ h => ?_
    refine .of_bind h fun caseMode _ h => ?_
    cases h
  | member =>
    refine .of_bind h fun items hitems h => ?_
    have hfield := (Json.required_eq_ok_iff.1 hitems).1
    split at h
    · obtain h | ⟨values, -, h⟩ := error_or_of_bind_eq_error h
      · obtain ⟨k, v, hv, rfl⟩ := exists_of_alternatives_eq_error h
        refine .of_step rfl (v := v) ?_ _
        simp [Json.step?, hfield, Json.item?, hv]
      · refine .of_bind h fun caseSensitive _ h => ?_
        cases h
    · obtain rfl := Except.error.inj h
      exact .here _ _
  | range =>
    refine .of_bind h fun kind _ h => ?_
    obtain h | ⟨lower, -, h⟩ := error_or_of_bind_eq_error h
    · exact liesIn_of_boundOfFields rfl rfl h
    obtain h | ⟨upper, -, h⟩ := error_or_of_bind_eq_error h
    · exact liesIn_of_boundOfFields rfl rfl h
    refine .of_bind h fun includeLower _ h => ?_
    refine .of_bind h fun includeUpper _ h => ?_
    cases h
  | presence =>
    refine .of_bind h fun expected _ h => ?_
    cases h
  | token =>
    refine .of_bind h fun kind _ h => ?_
    refine .of_bind h fun value _ h => ?_
    cases h

/-! ### Atoms -/

/-- The atom of a node has its faults in the node. -/
theorem Atom.liesIn_of_ofFields {fields : List (String × Json)} {m : Malformed}
    (h : ofFields fields = .error m) : m.LiesIn (.object fields) := by
  unfold ofFields at h
  refine .of_bind h fun field _ h => ?_
  refine .of_bind h fun operator _ h => ?_
  refine .of_bind h fun negated _ h => ?_
  refine .of_bind h fun value hvalue h => ?_
  have hstep : (Json.object fields).step? .value = some value :=
    (Json.required_eq_ok_iff.1 hvalue).1
  split at h
  · obtain h | ⟨v, -, h⟩ := error_or_of_bind_eq_error h
    · obtain ⟨m', hm', rfl⟩ := error_of_mapError_eq_error h
      obtain ⟨hinside, v, hv⟩ := AtomValue.liesIn_of_ofFields hm'
      exact ⟨List.forall_mem_cons.2 ⟨rfl, hinside⟩, v, (Json.part?_cons hstep _).trans hv⟩
    · cases h
  · obtain rfl := Except.error.inj h
    exact .of_step rfl hstep _

/-! ### Nodes -/

/-- The fault of the node is that of a node right below, behind members that are read. -/
structure Json.FailsBelow (j : Json) (m : Malformed) (t : Step) (k : Json) (below : Malformed) :
    Prop where
  /-- The fault is seen from one step further out. -/
  eq_under : m = below.under t
  /-- The step leads to a node. -/
  toNode : t.toNode = true
  /-- The node is behind that step. -/
  step? : j.step? t = some k
  /-- The node has the fault. -/
  ofJson_eq : Expr.ofJson k = .error below
  /-- The outer node is known. -/
  isKnownNode : j.IsKnownNode
  /-- Earlier members are read. -/
  earlier : ∀ i, t = .children i → ∀ l < i,
    ∃ v x, j.step? (.children l) = some v ∧ Expr.ofJson v = .ok x

namespace Expr

/-- The first member that is not read is at fault. -/
theorem exists_of_listOfJson_eq_error {i : Nat} {items : List Json} {m : Malformed}
    (h : listOfJson i items = .error m) :
    ∃ k v m', items[k]? = some v ∧ ofJson v = .error m' ∧ m = m'.under (.children (i + k)) ∧
      ∀ l < k, ∃ v x, items[l]? = some v ∧ ofJson v = .ok x := by
  induction items generalizing i with
  | nil =>
    rw [listOfJson] at h
    cases h
  | cons item items ih =>
    rw [listOfJson] at h
    split at h
    · rename_i m' hitem
      exact ⟨0, item, m', rfl, hitem, (Except.error.inj h).symm, by simp⟩
    · rename_i x hitem
      obtain ⟨k, v, m', hv, hm', rfl, hearlier⟩ := ih (error_of_map_eq_error h)
      refine ⟨k + 1, v, m', hv, hm', by rw [Nat.add_right_comm, Nat.add_assoc], fun l hl => ?_⟩
      cases l with
      | zero => exact ⟨item, x, rfl, hitem⟩
      | succ l => exact hearlier l (Nat.lt_of_succ_lt_succ hl)

/-- A fault lies in the node itself, or it is that of a node right below. -/
theorem liesIn_or_failsBelow_of_ofJson {j : Json} {m : Malformed} (h : ofJson j = .error m) :
    m.LiesIn j ∨ ∃ t k below, j.FailsBelow m t k below := by
  rw [ofJson.eq_def] at h
  split at h
  · rename_i fields
    split at h
    · obtain rfl := Except.error.inj h
      exact .inl (.here _ _)
    rename_i type htype
    rw [Json.requiredKeyword_eq_name_iff NodeType.ofName?_eq_some_iff] at htype
    split at h
    · obtain rfl := Except.error.inj h
      exact .inl (.here _ _)
    rename_i hkeys
    have hknown : (Json.object fields).IsKnownNode :=
      ⟨fields, type, rfl, htype, Json.smallestOutside?_eq_none_iff.1 hkeys⟩
    split at h
    · exact .inl (.of_faultHere _ (error_of_map_eq_error h))
    · exact .inl (Atom.liesIn_of_ofFields (error_of_map_eq_error h))
    · split at h
      · obtain rfl := Except.error.inj h
        exact .inl (.here _ _)
      · obtain rfl := Except.error.inj h
        exact .inl (.here _ _)
      · rename_i items hchildren
        obtain ⟨i, k, below, hk, hbelow, rfl, hearlier⟩ :=
          exists_of_listOfJson_eq_error (error_of_map_eq_error h)
        have hstep (l : Nat) : (Json.object fields).step? (.children l) = items[l]? := by
          simp [Json.step?, hchildren, Json.item?]
        rw [Nat.zero_add]
        refine .inr ⟨.children i, k, below, rfl, rfl, (hstep i).trans hk, hbelow, hknown, ?_⟩
        intro i' hi l hl
        obtain rfl := Step.children.inj hi
        rw [hstep]
        exact hearlier l hl
      · obtain rfl := Except.error.inj h
        exact .inl (.here _ _)
    · split at h
      · obtain rfl := Except.error.inj h
        exact .inl (.here _ _)
      · obtain rfl := Except.error.inj h
        exact .inl (.here _ _)
      · rename_i k _ hchild
        obtain ⟨below, hbelow, rfl⟩ := error_of_mapError_eq_error (error_of_map_eq_error h)
        exact .inr ⟨.child, k, below, rfl, rfl, hchild, hbelow, hknown, by simp⟩
  · obtain rfl := Except.error.inj h
    exact .inl (.here _ _)

end Expr

/-! ### Places of faults -/

/-- The path of the fault first leads through nodes, along `outer`, to the innermost node on it, and
then along `inner` to a part of that node. -/
structure Json.Locates (j : Json) (m : Malformed) (outer inner : List Step) (node : Json) :
    Prop where
  /-- The path has two parts. -/
  path_eq : m.path = outer ++ inner
  /-- The outer part leads from node to node. -/
  toNode_outer : ∀ t ∈ outer, t.toNode = true
  /-- The inner part stays in one node. -/
  toNode_inner : ∀ t ∈ inner, t.toNode = false
  /-- The outer part leads to the innermost node. -/
  part?_outer : j.part? outer = some node
  /-- The inner part leads to a part of it. -/
  part?_inner : ∃ v, node.part? inner = some v
  /-- By itself, that node has the same fault, at the inner part of the path. -/
  ofJson_eq : Expr.ofJson node = .error ⟨inner, m.fault⟩
  /-- The nodes on the way to it are known. -/
  isKnownNode : ∀ p t q, outer = p ++ t :: q → ∃ v, j.part? p = some v ∧ v.IsKnownNode
  /-- Members of groups on the way that come before the one taken are read. -/
  earlier : ∀ p i q, outer = p ++ .children i :: q → ∀ l < i,
    ∃ v x, j.part? (p ++ [.children l]) = some v ∧ Expr.ofJson v = .ok x

namespace Json

/-- A fault that lies in the node is located there. -/
theorem locates_of_liesIn {j : Json} {m : Malformed} (h : Expr.ofJson j = .error m)
    (hlies : m.LiesIn j) : j.Locates m [] m.path j where
  path_eq := rfl
  toNode_outer := nofun
  toNode_inner := hlies.inside
  part?_outer := rfl
  part?_inner := hlies.exists_part
  ofJson_eq := h
  isKnownNode p t q hp := by simp at hp
  earlier p i q hp := by simp at hp

/-- A fault of a node right below is located from there. -/
theorem FailsBelow.locates {j k : Json} {m below : Malformed} {t : Step}
    (h : j.FailsBelow m t k below) {outer inner : List Step} {node : Json}
    (hbelow : k.Locates below outer inner node) : j.Locates m (t :: outer) inner node where
  path_eq := by rw [h.eq_under, Malformed.path_under, hbelow.path_eq, List.cons_append]
  toNode_outer := List.forall_mem_cons.2 ⟨h.toNode, hbelow.toNode_outer⟩
  toNode_inner := hbelow.toNode_inner
  part?_outer := (part?_cons h.step? outer).trans hbelow.part?_outer
  part?_inner := hbelow.part?_inner
  ofJson_eq := by rw [h.eq_under, Malformed.fault_under, hbelow.ofJson_eq]
  isKnownNode p u q hp := by
    cases p with
    | nil => exact ⟨j, rfl, h.isKnownNode⟩
    | cons v p =>
      obtain ⟨rfl, hrest⟩ := List.cons.inj hp
      rw [part?_cons h.step?]
      exact hbelow.isKnownNode p u q hrest
  earlier p i q hp l hl := by
    cases p with
    | nil =>
      obtain ⟨ht, -⟩ := List.cons.inj hp
      obtain ⟨v, x, hv, hx⟩ := h.earlier i ht l hl
      exact ⟨v, x, part?_cons hv [], hx⟩
    | cons v p =>
      obtain ⟨rfl, hrest⟩ := List.cons.inj hp
      rw [List.cons_append, part?_cons h.step?]
      exact hbelow.earlier p i q hrest l hl

/-- Each fault that the decoder reports is located. -/
theorem exists_locates {j : Json} {m : Malformed} (h : Expr.ofJson j = .error m) :
    ∃ outer inner node, j.Locates m outer inner node := by
  obtain ⟨p, f⟩ := m
  induction p generalizing j with
  | nil =>
    obtain hlies | ⟨t, k, below, hbelow⟩ := Expr.liesIn_or_failsBelow_of_ofJson h
    · exact ⟨[], _, j, locates_of_liesIn h hlies⟩
    · cases hbelow.eq_under
  | cons t p ih =>
    obtain hlies | ⟨u, k, ⟨q, g⟩, hbelow⟩ := Expr.liesIn_or_failsBelow_of_ofJson h
    · exact ⟨[], _, j, locates_of_liesIn h hlies⟩
    · cases hbelow.eq_under
      obtain ⟨outer, inner, node, hlocates⟩ := ih hbelow.ofJson_eq
      exact ⟨_, _, _, hbelow.locates hlocates⟩

/-- The place of a located fault is a part of the value. -/
theorem Locates.exists_part {j node : Json} {m : Malformed} {outer inner : List Step}
    (h : j.Locates m outer inner node) : ∃ v, j.part? m.path = some v := by
  rw [h.path_eq, part?_append, h.part?_outer]
  exact h.part?_inner

end Json

namespace Expr

/-- Where a value is refused, the reported path, whose text stands for no other path, leads to a
part of it.  The innermost node on the path is refused by itself with the same fault, at what is
left of the path from there; the nodes on the way to it are of known types and have no unexpected
keys; and in each group on the way the members before the one taken are read. -/
theorem exists_locates_of_ofJson {j : Json} {m : Malformed} (h : ofJson j = .error m) :
    (∃ outer inner node, j.Locates m outer inner node) ∧ (∃ v, j.part? m.path = some v) ∧
      ∀ p, pathText p = pathText m.path → p = m.path := by
  obtain ⟨outer, inner, node, hlocates⟩ := Json.exists_locates h
  exact ⟨⟨outer, inner, node, hlocates⟩, hlocates.exists_part, fun p => pathText_injective⟩

/-- An atom whose lower bound is no date. -/
def undatedAtom : Json :=
  .object [("type", .string "atom"), ("field", .string "issued"), ("operator", .string "RANGE"),
    ("value", .object [("kind", .string "DATE"), ("lower", .string "soon"),
      ("include_lower", .bool true), ("include_upper", .bool true)])]

/-- The group of falsity and the atom. -/
def undatedGroup : Json :=
  .object [("type", .string "or"),
    ("children", .array [.object [("type", .string "const"), ("value", .bool false)], undatedAtom])]

/-- The denial of the group. -/
def undated : Json := .object [("type", .string "not"), ("child", undatedGroup)]

theorem ofJson_undated :
    ofJson undated =
      .error ⟨[.child, .children 1, .value, .lower], .invalidBound .date "soon"⟩ := by
  have hatom : ofJson undatedAtom = .error ⟨[.value, .lower], .invalidBound .date "soon"⟩ := by
    rw [undatedAtom, ofJson]
    rfl
  have hmembers : listOfJson 0
      [.object [("type", .string "const"), ("value", .bool false)], undatedAtom] =
        .error ⟨[.children 1, .value, .lower], .invalidBound .date "soon"⟩ := by
    rw [listOfJson, ofJson_of_const rfl rfl rfl, listOfJson, hatom]
    rfl
  have hgroup : ofJson undatedGroup =
      .error ⟨[.children 1, .value, .lower], .invalidBound .date "soon"⟩ := by
    rw [undatedGroup, ofJson]
    exact congrArg (Except.map (group .any)) hmembers
  rw [undated, ofJson]
  exact congrArg (fun r => (Except.mapError (Malformed.under .child) r).map not) hgroup

theorem exists_locates_of_ofJson_undated :
    ∃ m, ofJson undated = .error m ∧ pathText m.path = "$.child.children[1].value.lower" ∧
      (∃ outer inner node, undated.Locates m outer inner node) ∧
      ∃ v, undated.part? m.path = some v := by
  obtain ⟨hlocates, hpart, -⟩ := exists_locates_of_ofJson ofJson_undated
  exact ⟨_, ofJson_undated, rfl, hlocates, hpart⟩

end Expr

end BiblioQuery
