import BiblioQuery.Json.Record
import BiblioQuery.Proofs.Json.Nesting
import BiblioQuery.Proofs.Json.ReadBack

/-!
# Records read back

A record that is written as an object with all its fields in their order is read field by field.
Whether the text of a record is read at all depends on two things: its numbers have to be whole
numbers of 64-bit words, and it must not be nested too deep.  Both are put together in one
condition, which is checked value by value.

## Main definitions

* `Json.Fits` : the numbers of a value are exact, and it is nested no deeper than a limit.

## Main results

* `Json.record?_object` : all fields of a written record are known.
* `Json.option?_text`, `Json.option?_flag`, `Json.option?_word` : optional scalars are read back.
* `Json.of_orElse`, `Json.of_mem_option?`, `Json.of_mem_list?` : what holds of all that is read
  holds of fields, options and lists of it.
* `Json.object_fits_iff` : what an object takes to fit.
* `Json.Fits.parse?_pretty` : a value that fits is read from its indented text.
-/

namespace BiblioQuery.Json

/-! ### Fields -/

/-- All fields of a written record are known, and none of them repeats. -/
theorem record?_object {names : List String} {least : Nat} {fields : List (String × Json)}
    (hkeys : fields.map Prod.fst = names) (hnodup : names.Nodup) :
    record? names least (.object fields) = some fields := by
  subst hkeys
  have hknown : (fields.filter fun p => (fields.map Prod.fst).contains p.1) = fields := by
    refine List.filter_eq_self.2 fun p hp => ?_
    simpa using ⟨p.2, hp⟩
  rw [record?]
  simp only [hknown, if_pos hnodup]

-- The next two take the place of the definitions where the fields of a record are read one after
-- the other: the rest of the reader is simplified only after the field is known, and only once.
/-- A reader goes on with what was read. -/
theorem bind_eq_elim {α β : Type} (o : Option α) (f : α → Option β) :
    o.bind f = o.elim none f := by
  cases o <;> rfl

/-- The value of a field with a default. -/
theorem orElse_eq {α : Type} (key : String) (default : α) (read : Json → Option α)
    (fields : List (String × Json)) :
    orElse key default read fields = (field? key fields).elim (some default) read := by
  rw [orElse]
  cases field? key fields <;> rfl

/-! ### Optional scalars -/

/-- An optional text is read back. -/
@[simp]
theorem option?_text (o : Option String) : option? text? (ofOption .string o) = some o :=
  @option?_ofOption _ text? string (fun _ => rfl) (fun _ => nofun) o

/-- An optional truth value is read back. -/
@[simp]
theorem option?_flag (o : Option Bool) : option? flag? (ofOption .bool o) = some o :=
  @option?_ofOption _ flag? bool (fun _ => rfl) (fun _ => nofun) o

/-- An optional word is read back. -/
@[simp]
theorem option?_word (o : Option UInt64) : option? word? (ofOption ofWord o) = some o :=
  option?_ofOption word?_ofWord (fun _ => nofun) o

/-- A set of texts is read back. -/
@[simp]
theorem set?_text (s : SortedSet String) : set? text? (ofSet .string s) = some s :=
  @set?_ofSet _ _ _ text? string (fun _ => rfl) s

/-! ### What is read -/

section Read

variable {α : Type} {P : α → Prop} {read : Json → Option α}

/-- What holds of the default and of all that is read holds of the value of a field. -/
theorem of_orElse {key : String} {default a : α} {fields : List (String × Json)}
    (hdefault : P default) (hread : ∀ j b, read j = some b → P b)
    (h : orElse key default read fields = some a) : P a := by
  rw [orElse] at h
  split at h
  · exact Option.some.inj h ▸ hdefault
  · exact hread _ a h

/-- What holds of all that is read holds of an optional value. -/
theorem of_mem_option? {j : Json} {o : Option α} (hread : ∀ j b, read j = some b → P b)
    (h : option? read j = some o) : ∀ a ∈ o, P a := by
  intro a ha
  obtain rfl := ha
  rw [option?.eq_def] at h
  split at h
  · cases h
  · obtain ⟨b, hb, heq⟩ := Option.map_eq_some_iff.1 h
    exact Option.some.inj heq ▸ hread _ b hb

/-- What holds of all that is read holds of the items of a list. -/
theorem of_mem_list? {j : Json} {l : List α} (hread : ∀ j b, read j = some b → P b)
    (h : list? read j = some l) : ∀ a ∈ l, P a := by
  rw [list?.eq_def] at h
  split at h
  · rename_i items
    induction items generalizing l with
    | nil =>
      obtain rfl := Option.some.inj h
      exact List.forall_mem_nil P
    | cons j items ih =>
      rw [List.mapM_cons] at h
      obtain ⟨a, ha, h⟩ := Option.bind_eq_some_iff.1 h
      obtain ⟨r, hr, h⟩ := Option.bind_eq_some_iff.1 h
      obtain rfl := Option.some.inj h
      exact List.forall_mem_cons.2 ⟨hread j a ha, ih hr⟩
  · cases h

end Read

/-! ### Values that fit -/

/-- The numbers of a value are whole numbers of 64-bit words, and at most `n` arrays and objects are
nested in it. -/
structure Fits (n : Nat) (j : Json) : Prop where
  /-- The numbers are exact. -/
  isExact : j.IsExact
  /-- The nesting is within the limit. -/
  levels_le : j.levels ≤ n

/-- A value that fits a limit fits a greater one. -/
theorem Fits.mono {m n : Nat} {j : Json} (h : j.Fits m) (hle : m ≤ n) : j.Fits n :=
  ⟨h.isExact, Nat.le_trans h.levels_le hle⟩

variable {α : Type} {n : Nat} {write : α → Json}

theorem areExact_iff {items : List Json} : AreExact items ↔ ∀ j ∈ items, j.IsExact := by
  induction items with
  | nil => simp [AreExact]
  | cons j r ih => rw [AreExact, ih, List.forall_mem_cons]

theorem fieldsAreExact_iff {fields : List (String × Json)} :
    FieldsAreExact fields ↔ ∀ p ∈ fields, p.2.IsExact := by
  induction fields with
  | nil => simp [FieldsAreExact]
  | cons p r ih => rw [FieldsAreExact, ih, List.forall_mem_cons]

@[simp]
theorem fits_null : null.Fits n := ⟨trivial, Nat.zero_le _⟩

@[simp]
theorem fits_bool (b : Bool) : (bool b).Fits n := ⟨trivial, Nat.zero_le _⟩

@[simp]
theorem fits_string (s : String) : (string s).Fits n := ⟨trivial, Nat.zero_le _⟩

@[simp]
theorem fits_ofWord (w : UInt64) : (ofWord w).Fits n := by
  refine ⟨?_, Nat.zero_le _⟩
  have hsize := w.toNat_lt_size
  simp only [ofWord, nat, IsExact, Numeral.IsWord]
  simp only [UInt64.size] at hsize
  omega

@[simp]
theorem fits_ofSmallInt (w : Int32) : (ofSmallInt w).Fits n := by
  refine ⟨?_, Nat.zero_le _⟩
  have hleast := w.le_toInt
  have hgreatest := w.toInt_lt
  simp only [ofSmallInt, IsExact, Numeral.IsWord]
  omega

/-- An array fits if its items do, one level further in. -/
@[simp]
theorem array_fits_iff {items : List Json} :
    (array items).Fits (n + 1) ↔ ∀ j ∈ items, j.Fits n := by
  constructor
  · rintro ⟨hexact, hlevels⟩ j hj
    rw [levels, Nat.succ_le_succ_iff] at hlevels
    exact ⟨areExact_iff.1 hexact j hj, levelsList_le_iff.1 hlevels j hj⟩
  · intro h
    refine ⟨areExact_iff.2 fun j hj => (h j hj).isExact, ?_⟩
    rw [levels]
    exact Nat.succ_le_succ (levelsList_le_iff.2 fun j hj => (h j hj).levels_le)

/-- An object fits if the values of its fields do, one level further in. -/
@[simp]
theorem object_fits_iff {fields : List (String × Json)} :
    (object fields).Fits (n + 1) ↔ ∀ p ∈ fields, p.2.Fits n := by
  constructor
  · rintro ⟨hexact, hlevels⟩ p hp
    rw [levels, Nat.succ_le_succ_iff] at hlevels
    exact ⟨fieldsAreExact_iff.1 hexact p hp, levelsFields_le_iff.1 hlevels p hp⟩
  · intro h
    refine ⟨fieldsAreExact_iff.2 fun p hp => (h p hp).isExact, ?_⟩
    rw [levels]
    exact Nat.succ_le_succ (levelsFields_le_iff.2 fun p hp => (h p hp).levels_le)

theorem fits_ofOption (h : ∀ a, (write a).Fits n) (o : Option α) : (ofOption write o).Fits n := by
  cases o with
  | none => exact fits_null
  | some a => exact h a

theorem fits_ofList (h : ∀ a, (write a).Fits n) (l : List α) :
    (ofList write l).Fits (n + 1) := by
  rw [ofList, array_fits_iff]
  exact List.forall_mem_map.2 fun a _ => h a

theorem fits_ofSet {κ : Type} [Ord κ] {write : κ → Json} (h : ∀ a, (write a).Fits n)
    (s : SortedSet κ) : (ofSet write s).Fits (n + 1) :=
  fits_ofList h s.toList

@[simp]
theorem fits_ofTextMap (m : SortedMap String String) : (ofTextMap m).Fits (n + 1) := by
  rw [ofTextMap, object_fits_iff]
  exact List.forall_mem_map.2 fun p _ => fits_string p.2

/-- A value that fits is read from its indented text. -/
theorem Fits.parse?_pretty {j : Json} (h : j.Fits maxLevels) : parse? j.pretty = some j := by
  rw [parse?, parseWithin?_pretty h.isExact, if_pos h.levels_le]

end BiblioQuery.Json
