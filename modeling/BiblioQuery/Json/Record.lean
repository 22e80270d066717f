import BiblioQuery.Json.Basic
import BiblioQuery.Collection.SortedMap

/-!
# Records in JSON

A record is written as an object with all its fields in their order.  It is read from an object,
where fields come in any order and keys that the record does not know are passed over, or from an
array with the values of the first fields in their order.  What the value of a field may be depends
on its type alone; a reader of one type is a function from JSON values to optional values.

## Main definitions

* `Json.record?` : the known fields of a record.
* `Json.needed`, `Json.orElse` : the value of a field that has to be there, or that has a default.
* `Json.text?`, `Json.flag?`, `Json.word?`, … : readers of single values.
* `Json.ofWord`, `Json.ofOption`, `Json.ofList`, … : the values that these readers read.

## Main results

* `Json.word?_ofWord`, `Json.option?_ofOption`, `Json.list?_ofList`, `Json.textMap?_ofTextMap` :
  what is written is read back.
-/

namespace BiblioQuery.Json

/-! ### Fields -/

/-- The known fields of a record: from an object in which none of them repeats, or from an array
with a value for each of the first `least` fields and none beyond the last. -/
def record? (names : List String) (least : Nat) : Json → Option (List (String × Json))
  | .object fields =>
    let known := fields.filter fun p => names.contains p.1
    if (known.map Prod.fst).Nodup then some known else none
  | .array items =>
    if least ≤ items.length ∧ items.length ≤ names.length then some (names.zip items) else none
  | _ => none

/-- The value of a field that has to be there. -/
def needed {α : Type} (key : String) (read : Json → Option α) (fields : List (String × Json)) :
    Option α :=
  (field? key fields).bind read

/-- The value of a field, or a default where the field is absent. -/
def orElse {α : Type} (key : String) (default : α) (read : Json → Option α)
    (fields : List (String × Json)) : Option α :=
  match field? key fields with
  | none => some default
  | some j => read j

/-! ### Scalars -/

/-- The text of a string. -/
def text? : Json → Option String
  | .string s => some s
  | _ => none

/-- The truth value of a boolean. -/
def flag? : Json → Option Bool
  | .bool b => some b
  | _ => none

/-- A whole number as a word of 64 bits. -/
def word? : Json → Option UInt64
  | .number (.integer n) => if 0 ≤ n ∧ n.toNat < UInt64.size then some (.ofNat n.toNat) else none
  | _ => none

/-- A word of 64 bits as a number. -/
def ofWord (w : UInt64) : Json := .nat w.toNat

/-- A word is read back. -/
@[simp]
theorem word?_ofWord (w : UInt64) : word? (ofWord w) = some w := by
  have h : 0 ≤ (w.toNat : Int) ∧ (w.toNat : Int).toNat < UInt64.size :=
    ⟨Int.natCast_nonneg _, w.toNat_lt_size⟩
  simp only [word?, ofWord, nat]
  rw [if_pos h]
  simp

/-- A whole number as a signed word of 32 bits. -/
def smallInt? : Json → Option Int32
  | .number (.integer n) =>
    if Int32.minValue.toInt ≤ n ∧ n ≤ Int32.maxValue.toInt then some (.ofInt n) else none
  | _ => none

/-- A signed word of 32 bits as a number. -/
def ofSmallInt (w : Int32) : Json := .number (.integer w.toInt)

/-- A signed word is read back. -/
@[simp]
theorem smallInt?_ofSmallInt (w : Int32) : smallInt? (ofSmallInt w) = some w := by
  simp only [smallInt?, ofSmallInt]
  rw [if_pos ⟨w.minValue_le_toInt, w.toInt_le⟩]
  simp

/-- The keyword that a string names; an object with that name alone, for `null`, is as good. -/
def keyword? {α : Type} (ofName? : String → Option α) : Json → Option α
  | .string s => ofName? s
  | .object [(s, .null)] => ofName? s
  | _ => none

/-! ### Compounds -/

/-- A value that may be `null`. -/
def option? {α : Type} (read : Json → Option α) : Json → Option (Option α)
  | .null => some none
  | j => (read j).map some

/-- An optional value, `null` where there is none. -/
def ofOption {α : Type} (write : α → Json) : Option α → Json
  | none => .null
  | some a => write a

/-- An optional value is read back, if none of the values is `null`. -/
theorem option?_ofOption {α : Type} {read : Json → Option α} {write : α → Json}
    (h : ∀ a, read (write a) = some a) (h' : ∀ a, write a ≠ .null) (o : Option α) :
    option? read (ofOption write o) = some o := by
  cases o with
  | none => rfl
  | some a =>
    have := h a
    have := h' a
    cases hw : write a <;> simp_all [option?, ofOption]

/-- The items of an array. -/
def list? {α : Type} (read : Json → Option α) : Json → Option (List α)
  | .array items => items.mapM read
  | _ => none

/-- A list as an array. -/
def ofList {α : Type} (write : α → Json) (l : List α) : Json := .array (l.map write)

/-- A list is read back. -/
theorem list?_ofList {α : Type} {read : Json → Option α} {write : α → Json} {l : List α}
    (h : ∀ a ∈ l, read (write a) = some a) : list? read (ofList write l) = some l := by
  simp only [list?, ofList]
  induction l with
  | nil => rfl
  | cons a r ih =>
    rw [List.map_cons, List.mapM_cons, h a List.mem_cons_self,
      ih fun b hb => h b (List.mem_cons_of_mem _ hb)]
    rfl

/-- The members of an array as a set. -/
def set? {κ : Type} [Ord κ] [Std.TransOrd κ] (read : Json → Option κ) (j : Json) :
    Option (SortedSet κ) :=
  (list? read j).map SortedSet.ofList

/-- A set as an array in ascending order. -/
def ofSet {κ : Type} [Ord κ] (write : κ → Json) (s : SortedSet κ) : Json := ofList write s.toList

/-- A set is read back. -/
theorem set?_ofSet {κ : Type} [Ord κ] [Std.TransOrd κ] {read : Json → Option κ}
    {write : κ → Json} (h : ∀ a, read (write a) = some a) (s : SortedSet κ) :
    set? read (ofSet write s) = some s := by
  rw [set?, ofSet, list?_ofList fun a _ => h a, Option.map_some, SortedSet.ofList_toList]

/-- The texts of an object under their keys, the last one where a key repeats. -/
def textMap? : Json → Option (SortedMap String String)
  | .object fields =>
    (fields.mapM fun p => (text? p.2).map fun s => (p.1, s)).map SortedMap.ofList
  | _ => none

/-- Texts under keys as an object in ascending order of keys. -/
def ofTextMap (m : SortedMap String String) : Json :=
  .object (m.entries.map fun p => (p.1, .string p.2))

/-- Texts under keys are read back. -/
@[simp]
theorem textMap?_ofTextMap (m : SortedMap String String) : textMap? (ofTextMap m) = some m := by
  have h (l : List (String × String)) :
      (l.map fun p => (p.1, Json.string p.2)).mapM
        (fun p => (text? p.2).map fun s => (p.1, s)) = some l := by
    induction l with
    | nil => rfl
    | cons p r ih =>
      rw [List.map_cons, List.mapM_cons, ih]
      rfl
  rw [ofTextMap, textMap?, h, Option.map_some, SortedMap.ofList_entries]

end BiblioQuery.Json
