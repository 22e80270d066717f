import BiblioQuery.Proofs.Expr.Statements
import BiblioQuery.Proofs.Expr.WrittenForms
import BiblioQuery.Proofs.Json.Nesting

/-!
# Expressions read again

A text leaves some freedom: the order of keys, what may be absent, how a bound is spelled.  What is
read from any of them has bounds of the kinds of their ranges, each of which some text denotes, and
is nested no deeper than the text.  It is therefore read again from its own text, and so is its
normal form, which has no other bounds and is nested no deeper.

## Main definitions

* `Expr.Rereadable` : what it takes for an expression to be read from its own text.

## Main results

* `Expr.rereadable_of_ofJson` : what is read from a JSON value can be read again.
* `Expr.Rereadable.normalForm` : so can its normal form.
* `Expr.parse_canonical_of_parse` : what is read is read again from its own text, and so is its
  normal form.
-/

namespace BiblioQuery

/-! ### Bounds and nesting -/

/-- A value that is written is denotable. -/
theorem AtomValue.denotable_of_fits {v : AtomValue} {fields : List (String × Json)}
    (h : v.shape.Fits fields) : v.Denotable := by
  have hvalues := h.values
  cases v with
  | range r =>
    simp only [shape, List.forall_mem_cons] at hvalues
    obtain ⟨-, hlower, hupper, -⟩ := hvalues
    refine ⟨?_, fun b hb => ?_⟩
    · rintro _ ⟨⟩
      exact ⟨fun b hb => (hb ▸ hlower).kind_eq, fun b hb => (hb ▸ hupper).kind_eq⟩
    · rcases List.mem_append.1 hb with hb | hb
      · rw [Option.mem_toList.1 hb] at hlower
        exact hlower.denotable
      · rw [Option.mem_toList.1 hb] at hupper
        exact hupper.denotable
  | _ =>
    refine ⟨fun r hr => ?_, by simp [bounds]⟩
    cases hr

/-- A value that is written is nested no deeper than its object. -/
theorem AtomValue.valueDepth_le_of_fits {v : AtomValue} {fields : List (String × Json)}
    (h : v.shape.Fits fields) : Expr.valueDepth v ≤ Json.levelsFields fields + 1 := by
  cases v with
  | member v =>
    have hvalues := h.values
    simp only [shape, List.forall_mem_cons] at hvalues
    have hlevels := Json.levels_le_of_field? hvalues.1
    rw [Json.levels] at hlevels
    rw [Expr.valueDepth]
    omega
  | _ => exact Nat.le_add_left ..

namespace Expr

mutual

/-- An expression that is written is denotable, and is nested no deeper than the JSON value. -/
theorem of_isWrittenAs : (e : Expr) → {j : Json} → e.IsWrittenAs j →
    e.Denotable ∧ e.depth ≤ j.levels
  | .const b, j, h => by
    obtain ⟨fields, rfl⟩ := h.exists_object
    exact ⟨by simp [Denotable, atoms], by simp [depth, Json.levels]⟩
  | .atom a, j, h => by
    obtain ⟨fields, rfl⟩ := h.exists_object
    obtain ⟨-, -, hread⟩ := isWrittenAs_object_iff.1 h
    obtain ⟨-, -, ⟨_, hvalue, valueFields, rfl, hfits⟩, -⟩ := Atom.ofFields_eq_ok_iff.1 hread
    have hdenotable := AtomValue.denotable_of_fits hfits
    have hdepth := AtomValue.valueDepth_le_of_fits hfits
    have hlevels := Json.levels_le_of_field? hvalue
    simp only [Json.levels] at hlevels ⊢
    exact ⟨by simpa [Denotable, atoms] using hdenotable, by rw [depth]; omega⟩
  | .group c xs, j, h => by
    obtain ⟨fields, rfl⟩ := h.exists_object
    obtain ⟨-, -, items, hchildren, hread⟩ := isWrittenAs_object_iff.1 h
    obtain ⟨hdenotable, hdepth⟩ := of_areWrittenAs xs ((listOfJson_eq_ok_iff xs 0 items).1 hread)
    have hlevels := Json.levels_le_of_field? hchildren
    simp only [Json.levels] at hlevels ⊢
    exact ⟨hdenotable, by rw [depth]; omega⟩
  | .not x, j, h => by
    obtain ⟨fields, rfl⟩ := h.exists_object
    obtain ⟨-, -, k, hchild, hread⟩ := isWrittenAs_object_iff.1 h
    obtain ⟨hdenotable, hdepth⟩ := of_isWrittenAs x ((ofJson_eq_ok_iff x k).1 hread)
    have hlevels := Json.levels_le_of_field? hchild
    rw [Json.levels]
    exact ⟨hdenotable, by rw [depth]; omega⟩

/-- The same of a list of expressions. -/
theorem of_areWrittenAs : (xs : List Expr) → {items : List Json} → AreWrittenAs xs items →
    (∀ a ∈ atomsOfList xs, a.value.Denotable) ∧ depthOfList xs ≤ Json.levelsList items
  | [], items, _ => ⟨by simp [atomsOfList], by simp [depthOfList]⟩
  | x :: xs, items, h => by
    rw [AreWrittenAs] at h
    obtain ⟨j, r, rfl, hx, hxs⟩ := h
    obtain ⟨hfirst, hfirstDepth⟩ := of_isWrittenAs x hx
    obtain ⟨hrest, hrestDepth⟩ := of_areWrittenAs xs hxs
    rw [atomsOfList, List.forall_mem_append, depthOfList, Json.levelsList]
    exact ⟨⟨hfirst, hrest⟩, by omega⟩

end

/-! ### Reading again -/

/-- The text of the expression is read again where values may be nested to the given level: its
bounds are of the kinds of their ranges, some text denotes each of them, and the expression is
nested no deeper. -/
structure Rereadable (levels : Nat) (e : Expr) : Prop where
  /-- The bounds are of the kinds of their ranges, and some text denotes each of them. -/
  denotable : e.Denotable
  /-- The expression is nested no deeper. -/
  depth_le : e.depth ≤ levels

/-- What is read from a value can be read again where that value can be read. -/
theorem rereadable_of_ofJson {j : Json} {e : Expr} (h : ofJson j = .ok e) :
    e.Rereadable j.levels := by
  obtain ⟨hdenotable, hdepth⟩ := of_isWrittenAs e ((ofJson_eq_ok_iff e j).1 h)
  exact ⟨hdenotable, hdepth⟩

/-- What is read from a document can be read again from a document. -/
theorem rereadable_of_parse {text : String} {e : Expr} (h : parse text = .ok e) :
    e.Rereadable Json.maxLevels := by
  rw [parse] at h
  split at h
  · rename_i j hj
    have hread := rereadable_of_ofJson h
    exact ⟨hread.denotable, Nat.le_trans hread.depth_le (Json.levels_le_of_parse? hj)⟩
  · cases h

namespace Rereadable

variable {levels : Nat} {e : Expr}

/-- A normal form has no other bounds and is nested no deeper. -/
theorem normalForm (h : e.Rereadable levels) : e.normalForm.Rereadable levels := by
  refine ⟨fun a ha => ?_, Nat.le_trans (depth_normalForm_le e) h.depth_le⟩
  obtain ⟨a', ha', hvalue⟩ := value_mem_of_mem_normalForm ha
  rw [← hvalue]
  exact h.denotable a' ha'

/-- The text of the expression is read as a document, and gives the expression. -/
theorem parse_canonical (h : e.Rereadable Json.maxLevels) : parse e.canonical = .ok e := by
  have hjson : Json.parse? e.canonical = some e.toJson :=
    (parseWithin?_canonical e Json.maxLevels).trans (if_pos h.depth_le)
  rw [parse, hjson]
  exact ofJson_toJson e h.denotable

end Rereadable

/-- An expression that is read from a text, however that spells it, is read again from its own text.
It has a lenient normal form, and each of its normal forms, lenient or strict, is read from its own
text too. -/
theorem parse_canonical_of_parse {text : String} {e : Expr} (h : parse text = .ok e) :
    parse e.canonical = .ok e ∧ (∃ n, normalize false e = .ok n) ∧
      ∀ (strict : Bool) (n : Expr), normalize strict e = .ok n → parse n.canonical = .ok n := by
  have hread := rereadable_of_parse h
  refine ⟨hread.parse_canonical, ⟨normalForm e, normalize_false e⟩, fun strict n hn => ?_⟩
  rw [eq_normalForm_of_normalize e hn]
  exact hread.normalForm.parse_canonical

/-- The range from a leap second to a moment without offset. -/
def sinceLeapSecond : RangeValue :=
  .dateTimes
    (some ⟨⟨(Date.of? 2024 1 5).getD .epoch, ⟨36059, 1500000000, by decide, by decide⟩⟩,
      some .utc⟩)
    (some ⟨⟨(Date.of? 2024 1 6).getD .epoch, ⟨25200, 0, by decide, Clock.midnight.nano_lt⟩⟩, none⟩)

/-- The range as an atom, with keys in an order of their own, a flag that is null, and bounds in
unusual spellings. -/
def looselySpelledAtom : Json :=
  .object [("negated", .null),
    ("value", .object [("include_upper", .bool true), ("upper", .string " 2024-1- 6T7:0:00"),
      ("lower", .string "2024-01-05t10:00:60.5z "), ("kind", .string "DATETIME"),
      ("include_lower", .bool true)]),
    ("operator", .string "RANGE"), ("field", .string "seen"), ("type", .string "atom")]

/-- The denial that falsity or the denial of the atom holds. -/
def looselySpelled : Json :=
  .object [("child", .object [("children", .array [
      .object [("value", .bool false), ("type", .string "const")],
      .object [("type", .string "not"), ("child", looselySpelledAtom)]]),
    ("type", .string "or")]), ("type", .string "not")]

theorem ofJson_looselySpelled : ofJson looselySpelled =
    .ok (.not (.or [.const false, .not (.atom (.range "seen" sinceLeapSecond))])) := by
  have hatom : ofJson looselySpelledAtom = .ok (.atom (.range "seen" sinceLeapSecond)) :=
    ofJson_of_atom rfl rfl rfl
  refine ofJson_of_not rfl rfl rfl (ofJson_of_group rfl rfl rfl ?_)
  rw [listOfJson, ofJson_of_const rfl rfl rfl, listOfJson, ofJson_of_not rfl rfl rfl hatom,
    listOfJson]
  rfl

theorem parse_canonical_of_parse_looselySpelled :
    let e : Expr := .not (.or [.const false, .not (.atom (.range "seen" sinceLeapSecond))])
    let n : Expr := .atom (.range "seen" sinceLeapSecond)
    parse looselySpelled.pretty = .ok e ∧ parse e.canonical = .ok e ∧
      normalize false e = .ok n ∧ parse n.canonical = .ok n := by
  intro e n
  have hread : parse looselySpelled.pretty = .ok e := by
    have hjson : Json.parse? looselySpelled.pretty = some looselySpelled := by
      refine (Json.parseWithin?_pretty ?_ Json.maxLevels).trans (if_pos (by decide))
      simp [looselySpelled, looselySpelledAtom, Json.IsExact, Json.AreExact, Json.FieldsAreExact]
    rw [parse, hjson]
    exact ofJson_looselySpelled
  obtain ⟨hagain, -, hnormal⟩ := parse_canonical_of_parse hread
  have hn : normalize false e = .ok n := rfl
  exact ⟨hread, hagain, hn, hnormal false n hn⟩

end Expr

end BiblioQuery
