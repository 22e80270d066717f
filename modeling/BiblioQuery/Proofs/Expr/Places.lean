import BiblioQuery.Expr.Decode

/-!
# Places in JSON values

A fault names the place where it is by the steps that lead there.  Steps are followed through a JSON
value by looking up keys and indices, so that a path leads to a part of the value or to nothing.
The text of a path tells the steps apart, as each of them starts with a point and has no other one.

An expression that is written as JSON has its parts below two of the steps: the operand of a
negation and the members of a group.  The values that such steps lead to are its nodes; the other
steps lead to values inside one node.

## Main definitions

* `Step.toNode` : a step leads from a node to a node inside it.
* `Json.part?` : the part of a JSON value that a path leads to.
* `Json.IsKnownNode` : a node of a known type that has no key but those of its type.

## Main results

* `pathText_injective` : the text of a path determines the path.
* `Json.part?_append` : two paths in a row.
* `Json.smallestOutside?_eq_none_iff` : no key is found exactly if all of them are expected.
-/

namespace BiblioQuery

/-! ### Texts of paths -/

namespace Step

/-- The step leads from a node to a node inside it. -/
def toNode : Step → Bool
  | .child | .children _ => true
  | _ => false

/-- The text of a step starts with a point and has no other one. -/
theorem exists_text_eq (t : Step) :
    ∃ cs, t.text.toList = '.' :: cs ∧ ∀ c ∈ cs, (c != '.') = true := by
  have hindex (i : Nat) : ∀ c ∈ Nat.toDigits 10 i ++ [']'], (c != '.') = true := by
    intro c hc
    rcases List.mem_append.1 hc with hc | hc
    · have hdigit := Nat.isDigit_of_mem_toDigits (by decide) (by decide) hc
      refine bne_iff_ne.2 ?_
      rintro rfl
      exact absurd hdigit (by decide)
    · rw [List.mem_singleton.1 hc]
      decide
  cases t with
  | child => exact ⟨"child".toList, rfl, List.all_eq_true.1 rfl⟩
  | children i =>
    refine ⟨"children[".toList ++ (Nat.toDigits 10 i ++ [']']), by simp [text], ?_⟩
    exact List.forall_mem_append.2 ⟨List.all_eq_true.1 rfl, hindex i⟩
  | value => exact ⟨"value".toList, rfl, List.all_eq_true.1 rfl⟩
  | values i =>
    refine ⟨"values[".toList ++ (Nat.toDigits 10 i ++ [']']), by simp [text], ?_⟩
    exact List.forall_mem_append.2 ⟨List.all_eq_true.1 rfl, hindex i⟩
  | lower => exact ⟨"lower".toList, rfl, List.all_eq_true.1 rfl⟩
  | upper => exact ⟨"upper".toList, rfl, List.all_eq_true.1 rfl⟩

theorem text_injective {t u : Step} (h : t.text = u.text) : t = u := by
  have hindex {i j : Nat} (h : Nat.toDigits 10 i = Nat.toDigits 10 j) : i = j := by
    have hback := congrArg (Nat.ofDigitChars 10 · 0) h
    simpa only [Nat.ofDigitChars_ten_toDigits] using hback
  have h := congrArg String.toList h
  cases t <;> cases u <;> simp [text] at h ⊢
  · exact hindex h
  · exact hindex h

end Step

/-- The steps of a path, one text after the other. -/
def pathChars (p : List Step) : List Char := p.flatMap fun t => t.text.toList

theorem takeWhile_pathChars (p : List Step) : (pathChars p).takeWhile (· != '.') = [] := by
  cases p with
  | nil => rfl
  | cons t p =>
    obtain ⟨cs, htext, -⟩ := t.exists_text_eq
    rw [pathChars, List.flatMap_cons, htext]
    rfl

/-- The texts of the steps of a path tell the steps. -/
theorem pathChars_injective {p q : List Step} (h : pathChars p = pathChars q) : p = q := by
  induction p generalizing q with
  | nil =>
    cases q with
    | nil => rfl
    | cons u q =>
      obtain ⟨ds, hu, -⟩ := u.exists_text_eq
      simp [pathChars, hu] at h
  | cons t p ih =>
    obtain ⟨cs, ht, hcs⟩ := t.exists_text_eq
    cases q with
    | nil => simp [pathChars, ht] at h
    | cons u q =>
      obtain ⟨ds, hu, hds⟩ := u.exists_text_eq
      have hstep : cs ++ pathChars p = ds ++ pathChars q := by
        simpa [pathChars, ht, hu] using h
      -- what comes before the next point belongs to the first step
      have hwhile := congrArg (List.takeWhile (· != '.')) hstep
      rw [List.takeWhile_append_of_pos hcs, List.takeWhile_append_of_pos hds,
        takeWhile_pathChars, takeWhile_pathChars, List.append_nil, List.append_nil] at hwhile
      subst hwhile
      have htu : t = u := Step.text_injective (String.toList_inj.1 (ht.trans hu.symm))
      rw [htu, ih (List.append_cancel_left hstep)]

/-- The text of a path determines the path. -/
theorem pathText_injective {p q : List Step} (h : pathText p = pathText q) : p = q := by
  have htext (p : List Step) : (pathText p).toList = '$' :: pathChars p := by
    simp [pathText, pathChars, List.flatMap_def, Function.comp_def]
  have h := congrArg String.toList h
  rw [htext, htext] at h
  exact pathChars_injective (List.cons.inj h).2

/-! ### Parts of JSON values -/

namespace Json

/-- The item of an array with the given index. -/
def item? (i : Nat) : Json → Option Json
  | .array items => items[i]?
  | _ => none

/-- The value that a step leads to. -/
def step? (t : Step) : Json → Option Json
  | .object fields =>
    match t with
    | .child => field? "child" fields
    | .children i => (field? "children" fields).bind (item? i)
    | .value => field? "value" fields
    | .values i => (field? "values" fields).bind (item? i)
    | .lower => field? "lower" fields
    | .upper => field? "upper" fields
  | _ => none

/-- The part that a path leads to. -/
def part? : Json → List Step → Option Json
  | j, [] => some j
  | j, t :: p => (j.step? t).bind (part? · p)

theorem part?_cons {j k : Json} {t : Step} (h : j.step? t = some k) (p : List Step) :
    j.part? (t :: p) = k.part? p := by
  rw [part?, h]
  rfl

/-- Two paths in a row lead where the second one leads from where the first one does. -/
theorem part?_append (j : Json) (p q : List Step) :
    j.part? (p ++ q) = (j.part? p).bind (part? · q) := by
  induction p generalizing j with
  | nil => rfl
  | cons t p ih =>
    rw [List.cons_append, part?, part?, Option.bind_assoc]
    simp only [ih]

/-- A step to a node goes to what is under the key of a child, or to an item of the array under the
key of the children. -/
theorem step?_of_toNode {j k : Json} {t : Step} (ht : t.toNode = true) (h : j.step? t = some k) :
    ∃ fields, j = .object fields ∧
      (t = .child ∧ field? "child" fields = some k ∨
        ∃ i items, t = .children i ∧ field? "children" fields = some (.array items) ∧
          items[i]? = some k) := by
  cases j with
  | object fields =>
    refine ⟨fields, rfl, ?_⟩
    cases t with
    | child => exact .inl ⟨rfl, h⟩
    | children i =>
      obtain ⟨v, hv, hitem⟩ := Option.bind_eq_some_iff.1 h
      cases v with
      | array items => exact .inr ⟨i, items, rfl, hv, hitem⟩
      | _ => cases hitem
    | _ => cases ht
  | _ => cases h

/-! ### Keys of nodes -/

/-- No unexpected key is found exactly if all keys are expected. -/
theorem smallestOutside?_eq_none_iff {expected : List String} {fields : List (String × Json)} :
    smallestOutside? expected fields = none ↔ ∀ p ∈ fields, p.1 ∈ expected := by
  have hempty : smallestOutside? expected fields = none ↔
      ((fields.map Prod.fst).filter fun k => !expected.contains k) = [] := by
    rw [smallestOutside?]
    cases (fields.map Prod.fst).filter fun k => !expected.contains k <;> simp
  rw [hempty, List.filter_eq_nil_iff]
  simp

/-- Where all keys are expected, so is a key that has a value. -/
theorem mem_of_field?_eq_some {expected : List String} {fields : List (String × Json)}
    {key : String} {v : Json} (hkeys : smallestOutside? expected fields = none)
    (h : field? key fields = some v) : key ∈ expected := by
  refine Decidable.byContradiction fun hkey => ?_
  have hnone : field? key fields = none := field?_eq_none_iff.2 fun p hp hpkey =>
    hkey (hpkey ▸ smallestOutside?_eq_none_iff.1 hkeys p hp)
  simp [hnone] at h

/-- The node is of a known type and has no key but those of its type. -/
def IsKnownNode (node : Json) : Prop :=
  ∃ (fields : List (String × Json)) (type : NodeType), node = .object fields ∧
    field? "type" fields = some (.string type.name) ∧ ∀ p ∈ fields, p.1 ∈ type.keys

end Json

end BiblioQuery
