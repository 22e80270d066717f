import BiblioQuery.Expr.Decode
import BiblioQuery.Proofs.Expr.BoundReadBack

/-!
# Keys of nodes

What it takes for a required key to be read: it has a value of the right kind, and a keyword is the
name of what it is read as.  The negation flag and the ends of a range need not be written: a flag
that is off and an open end are read from `null` and from nothing as well.  A bound is read from any
text that denotes it.

## Main definitions

* `Atom.FlagIsWrittenAs`, `Bound.IsWrittenAs` : what may be under the key of the flag and of an end.

## Main results

* `Json.requiredText_eq_ok_iff`, `Json.requiredBool_eq_ok_iff` : required scalars.
* `Json.requiredKeyword_eq_ok_iff` : required keywords.
* `negatedOfFields_eq_ok_iff`, `boundOfFields_eq_ok_iff` : flags and ends of ranges.
-/

namespace BiblioQuery

/-! ### Required keys -/

namespace Json

variable {key : String} {fields : List (String × Json)}

theorem required_eq_ok_iff {j : Json} :
    required key fields = .ok j ↔ field? key fields = some j ∧ j ≠ .null := by
  rw [required]
  cases field? key fields with
  | none => simp
  | some v => cases v <;> grind

theorem requiredText_eq_ok_iff {s : String} :
    requiredText key fields = .ok s ↔ field? key fields = some (.string s) := by
  rw [requiredText, required]
  cases field? key fields with
  | none => simp
  | some v => cases v <;> simp

theorem requiredBool_eq_ok_iff {b : Bool} :
    requiredBool key fields = .ok b ↔ field? key fields = some (.bool b) := by
  rw [requiredBool, required]
  cases field? key fields with
  | none => simp
  | some v => cases v <;> simp

theorem requiredKeyword_eq_ok_iff {α : Type} {ofName? : String → Option α}
    {unknown : String → Fault} {a : α} :
    requiredKeyword key ofName? unknown fields = .ok a ↔
      ∃ s, field? key fields = some (.string s) ∧ ofName? s = some a := by
  simp only [← requiredText_eq_ok_iff]
  rw [requiredKeyword]
  cases requiredText key fields with
  | error f => simp
  | ok s => cases h : ofName? s <;> simp [h]

/-- A keyword is read from its name, and from nothing else. -/
theorem requiredKeyword_eq_name_iff {α : Type} {ofName? : String → Option α} {name : α → String}
    (hname : ∀ {s a}, ofName? s = some a ↔ name a = s) {unknown : String → Fault} {a : α} :
    requiredKeyword key ofName? unknown fields = .ok a ↔
      field? key fields = some (.string (name a)) := by
  simp [requiredKeyword_eq_ok_iff, hname]

/-- A keyword is read from its name. -/
theorem requiredKeyword_name {α : Type} {ofName? : String → Option α} {name : α → String}
    (hname : ∀ {s a}, ofName? s = some a ↔ name a = s) (unknown : String → Fault) {a : α}
    (h : field? key fields = some (.string (name a))) :
    requiredKeyword key ofName? unknown fields = .ok a :=
  (requiredKeyword_eq_name_iff hname).2 h

end Json

theorem faultHere_eq_ok_iff {α : Type} {r : Except Fault α} {a : α} :
    faultHere r = .ok a ↔ r = .ok a := by
  cases r <;> simp [faultHere]

/-! ### Negation flags -/

/-- What may be under the key of the negation flag.  A flag that is off may be absent. -/
inductive Atom.FlagIsWrittenAs : Bool → Option Json → Prop
  /-- The flag is a truth value. -/
  | bool (b : Bool) : FlagIsWrittenAs b (some (.bool b))
  /-- A flag that is off is `null`. -/
  | null : FlagIsWrittenAs false (some .null)
  /-- A flag that is off is absent. -/
  | absent : FlagIsWrittenAs false none

theorem negatedOfFields_eq_ok_iff {fields : List (String × Json)} {b : Bool} :
    negatedOfFields fields = .ok b ↔ Atom.FlagIsWrittenAs b (Json.field? "negated" fields) := by
  rw [negatedOfFields]
  generalize Json.field? "negated" fields = o
  constructor
  · intro h
    split at h
    · exact Except.ok.inj h ▸ .absent
    · exact Except.ok.inj h ▸ .null
    · exact Except.ok.inj h ▸ .bool _
    · cases h
  · intro h
    cases h <;> rfl

/-! ### Bounds -/

/-- What may be under the key of an end of a range.  An open end may be absent. -/
inductive Bound.IsWrittenAs (kind : RangeKind) : Option Bound → Option Json → Prop
  /-- An open end is absent. -/
  | absent : IsWrittenAs kind none none
  /-- An open end is `null`. -/
  | null : IsWrittenAs kind none (some .null)
  /-- A bound is any text that denotes it. -/
  | text {b : Bound} {s : String} (h : parse? kind s = some b) :
    IsWrittenAs kind (some b) (some (.string s))
  /-- The bound of a number range is any number whose text denotes it. -/
  | numeral {b : Bound} {n : Json.Numeral} (hkind : kind = .number)
    (h : parse? kind n.boundText = some b) : IsWrittenAs kind (some b) (some (.number n))

namespace Bound.IsWrittenAs

variable {kind : RangeKind} {b : Bound} {o : Option Json}

/-- A bound that is written is one that some text denotes as a bound of the kind. -/
theorem exists_parse? (h : IsWrittenAs kind (some b) o) : ∃ text, parse? kind text = some b := by
  cases h with
  | text hb => exact ⟨_, hb⟩
  | numeral _ hb => exact ⟨_, hb⟩

/-- A bound that is written is of the kind of the range. -/
theorem kind_eq (h : IsWrittenAs kind (some b) o) : b.kind = kind := by
  obtain ⟨text, htext⟩ := h.exists_parse?
  exact kind_of_parse? htext

/-- A bound that is written is one that some text denotes. -/
theorem denotable (h : IsWrittenAs kind (some b) o) : b.Denotable := by
  obtain ⟨text, htext⟩ := h.exists_parse?
  exact ⟨text, h.kind_eq ▸ htext⟩

end Bound.IsWrittenAs

section

variable {kind : RangeKind} {step : Step} {bound : Option Bound}

/-- A text is read as a bound exactly if it denotes the bound. -/
theorem boundOfText_eq_ok_iff {text : String} :
    boundOfText kind step text = .ok bound ↔
      ∃ b, bound = some b ∧ Bound.parse? kind text = some b := by
  rw [boundOfText]
  cases Bound.parse? kind text <;> simp [eq_comm]

/-- An end of a range is read from exactly what it may be written as. -/
theorem boundOfFields_eq_ok_iff {key : String} {fields : List (String × Json)} :
    boundOfFields kind key step fields = .ok bound ↔
      Bound.IsWrittenAs kind bound (Json.field? key fields) := by
  rw [boundOfFields]
  generalize Json.field? key fields = o
  constructor
  · intro h
    split at h
    · exact Except.ok.inj h ▸ .absent
    · exact Except.ok.inj h ▸ .null
    · obtain ⟨b, rfl, hb⟩ := boundOfText_eq_ok_iff.1 h
      exact .text hb
    · split at h
      · rename_i hkind
        obtain ⟨b, rfl, hb⟩ := boundOfText_eq_ok_iff.1 h
        exact .numeral hkind hb
      · cases h
    · cases h
  · intro h
    cases h with
    | absent => rfl
    | null => rfl
    | text hb => exact boundOfText_eq_ok_iff.2 ⟨_, rfl, hb⟩
    | numeral hkind hb =>
      simp only [if_pos hkind]
      exact boundOfText_eq_ok_iff.2 ⟨_, rfl, hb⟩

/-- A bound that some text denotes is read from the JSON value that it is written as. -/
theorem boundOfFields_toJson {key : String} {fields : List (String × Json)}
    (hfield : Json.field? key fields = some (Bound.toJson bound))
    (hkind : ∀ b, bound = some b → b.kind = kind)
    (hbound : ∀ b, bound = some b → b.Denotable) :
    boundOfFields kind key step fields = .ok bound := by
  rw [boundOfFields_eq_ok_iff, hfield]
  cases bound with
  | none => exact .null
  | some b => exact .text (hkind b rfl ▸ Bound.parse?_canonical (hbound b rfl))

end

end BiblioQuery
