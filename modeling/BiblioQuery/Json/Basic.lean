import BiblioQuery.Number.Text

/-!
# JSON values

A JSON value.  An object is the list of its fields in the order of the text; where a key repeats,
the last field counts.  A whole number in the range of 64-bit words is kept exactly, every other
number is a finite binary number.

## Main definitions

* `Json` : a value, with `Json.Numeral` for its numbers.
* `Json.field?` : the value of a key in a list of fields.
* `Json.smallestOutside?` : the first key in order that is not expected.
* `Json.levels` : how deep arrays and objects are nested.

## Main results

* `Json.field?_cons_self`, `Json.field?_cons_of_ne` : looking up in a list with a new first field.
-/

namespace BiblioQuery

/-- A number of a JSON text. -/
inductive Json.Numeral where
  /-- A whole number, written without point and exponent, that fits a 64-bit word. -/
  | integer (n : Int)
  /-- Any other number. -/
  | binary (x : Number)
  deriving DecidableEq

/-- A JSON value. -/
inductive Json where
  /-- The value `null`. -/
  | null
  /-- A truth value. -/
  | bool (b : Bool)
  /-- A number. -/
  | number (n : Json.Numeral)
  /-- A string. -/
  | string (s : String)
  /-- An array with its items. -/
  | array (items : List Json)
  /-- An object with its fields in the order of the text. -/
  | object (fields : List (String × Json))

namespace Json

/-- A whole number as a JSON value. -/
def nat (n : Nat) : Json := .number (.integer n)

/-- The value of the last field with the given key. -/
def field? (key : String) : List (String × Json) → Option Json
  | [] => none
  | (k, v) :: r =>
    match field? key r with
    | some w => some w
    | none => if k = key then some v else none

/-- A key that does not occur has no value. -/
theorem field?_eq_none_iff {key : String} {fields : List (String × Json)} :
    field? key fields = none ↔ ∀ p ∈ fields, p.1 ≠ key := by
  induction fields with
  | nil => simp [field?]
  | cons p r ih =>
    obtain ⟨k, v⟩ := p
    rw [field?]
    cases h : field? key r with
    | some w =>
      have : ¬ ∀ p ∈ r, p.1 ≠ key := fun h' => by simp [ih.2 h'] at h
      simp only [reduceCtorEq, List.mem_cons, false_iff]
      exact fun h' => this fun p hp => h' p (.inr hp)
    | none =>
      have hr := ih.1 h
      simp only [List.forall_mem_cons]
      by_cases hk : k = key
      · simp [hk]
      · simpa [hk] using hr

/-- The first field counts if its key does not occur again. -/
theorem field?_cons_self {key : String} {v : Json} {fields : List (String × Json)}
    (h : field? key fields = none) : field? key ((key, v) :: fields) = some v := by
  simp [field?, h]

/-- A field with another key does not count. -/
theorem field?_cons_of_ne {key k : String} {v : Json} {fields : List (String × Json)}
    (h : k ≠ key) : field? key ((k, v) :: fields) = field? key fields := by
  rw [field?]
  cases field? key fields <;> simp [h]

/-- The smaller of two keys, in the order of their characters. -/
def smallerKey (a b : String) : String := if b < a then b else a

/-- The smallest key, in the order of their characters, that is not among the expected ones. -/
def smallestOutside? (expected : List String) (fields : List (String × Json)) : Option String :=
  match (fields.map Prod.fst).filter fun k => !expected.contains k with
  | [] => none
  | k :: r => some (r.foldl smallerKey k)

mutual

/-- How deep arrays and objects are nested: none in a scalar, one in an empty array. -/
def levels : Json → Nat
  | .array items => levelsList items + 1
  | .object fields => levelsFields fields + 1
  | _ => 0

/-- The depth of the deepest item. -/
def levelsList : List Json → Nat
  | [] => 0
  | j :: r => max (levels j) (levelsList r)

/-- The depth of the deepest field. -/
def levelsFields : List (String × Json) → Nat
  | [] => 0
  | (_, j) :: r => max (levels j) (levelsFields r)

end

end Json

end BiblioQuery
