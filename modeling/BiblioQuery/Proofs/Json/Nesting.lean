import BiblioQuery.Json.Reader

/-!
# Nesting of values that are read

The reader of values counts the arrays and objects that are open.  What it reads is therefore nested
no deeper than its limit, and so is everything inside.

## Main results

* `Json.levels_le_of_field?` : the value of a field is nested no deeper than the fields.
* `Json.levels_le_of_run` : a value that is read is nested no deeper than the limit.
* `Json.levels_le_of_parse?` : the same of the value of a document.
-/

namespace BiblioQuery.Json

/-! ### Parts of values -/

/-- The value of a field is nested no deeper than the fields. -/
theorem levels_le_of_field? {key : String} {fields : List (String × Json)} {v : Json}
    (h : field? key fields = some v) : v.levels ≤ levelsFields fields := by
  induction fields with
  | nil => simp [field?] at h
  | cons p r ih =>
    obtain ⟨k, w⟩ := p
    rw [field?] at h
    rw [levelsFields]
    cases hr : field? key r with
    | some u =>
      simp only [hr] at h
      exact Nat.le_trans (ih (hr.trans h)) (Nat.le_max_right ..)
    | none =>
      simp only [hr] at h
      split at h
      · rw [← Option.some.inj h]
        exact Nat.le_max_left ..
      · cases h

theorem levelsList_le_iff {n : Nat} {items : List Json} :
    levelsList items ≤ n ↔ ∀ j ∈ items, j.levels ≤ n := by
  induction items with
  | nil => simp [levelsList]
  | cons j r ih => rw [levelsList, Nat.max_le, ih, List.forall_mem_cons]

theorem levelsFields_le_iff {n : Nat} {fields : List (String × Json)} :
    levelsFields fields ≤ n ↔ ∀ p ∈ fields, p.2.levels ≤ n := by
  induction fields with
  | nil => simp [levelsFields]
  | cons p r ih => rw [levelsFields, Nat.max_le, ih, List.forall_mem_cons]

/-! ### Readers -/

namespace Reader

variable {α : Type} {item : Reader α} {close : Char} {P : α → Prop}

/-- What holds of every item that is read holds of all items of a list. -/
theorem forall_of_separated (hitem : ∀ {s a r}, item.run s = some (a, r) → P a) {s r : List Char}
    {as : List α} (h : item.separated close s = some (as, r)) : ∀ a ∈ as, P a := by
  fun_induction separated item close s generalizing as r with
  | case1 | case2 | case5 => simp at h
  | case3 s a r₁ hread r' hrest ih =>
    obtain ⟨⟨as', r''⟩, hmore, heq⟩ := Option.map_eq_some_iff.1 h
    obtain ⟨rfl, rfl⟩ := Prod.mk.inj heq
    exact List.forall_mem_cons.2 ⟨hitem hread, ih hmore⟩
  | case4 s a r₁ hread r' hrest =>
    obtain ⟨rfl, rfl⟩ := Prod.mk.inj (Option.some.inj h)
    exact List.forall_mem_singleton.2 (hitem hread)

/-- What holds of every item that is read holds of all items between two brackets. -/
theorem forall_of_enclosed (hitem : ∀ {s a r}, item.run s = some (a, r) → P a) {s r : List Char}
    {as : List α} (h : item.enclosed close s = some (as, r)) : ∀ a ∈ as, P a := by
  unfold enclosed at h
  split at h
  · cases h
  · split at h
    · obtain ⟨rfl, rfl⟩ := Prod.mk.inj (Option.some.inj h)
      exact nofun
    · exact forall_of_separated hitem h

end Reader

/-- What holds of every value that is read holds of the value of a field. -/
theorem of_fieldOf_run {v : Reader Json} {P : Json → Prop}
    (hvalue : ∀ {s j r}, v.run s = some (j, r) → P j) {s r : List Char} {f : String × Json}
    (h : (fieldOf v).run s = some (f, r)) : P f.2 := by
  simp only [fieldOf] at h
  split at h
  · split at h
    · cases h
    · split at h
      · obtain ⟨⟨j, r'⟩, hread, heq⟩ := Option.map_eq_some_iff.1 h
        obtain ⟨rfl, rfl⟩ := Prod.mk.inj heq
        exact hvalue hread
      · cases h
  · cases h

/-- A scalar is not nested. -/
theorem levels_of_scalar? {s r : List Char} {j : Json} (h : scalar? s = some (j, r)) :
    j.levels = 0 := by
  unfold scalar? at h
  split at h <;>
    · obtain ⟨_, _, heq⟩ := Option.map_eq_some_iff.1 h
      rw [← (Prod.mk.inj heq).1]
      rfl

/-- A value that is read is nested no deeper than the limit. -/
theorem levels_le_of_run {n : Nat} {s r : List Char} {j : Json}
    (h : (value n).run s = some (j, r)) : j.levels ≤ n := by
  induction n generalizing s r j with
  | zero => exact Nat.le_of_eq (levels_of_scalar? h)
  | succ n ih =>
    simp only [value] at h
    split at h
    · obtain ⟨⟨items, r'⟩, hread, heq⟩ := Option.map_eq_some_iff.1 h
      obtain ⟨rfl, rfl⟩ := Prod.mk.inj heq
      have hitems := levelsList_le_iff.2 (Reader.forall_of_enclosed (P := (·.levels ≤ n)) ih hread)
      rw [levels]
      exact Nat.succ_le_succ hitems
    · obtain ⟨⟨fields, r'⟩, hread, heq⟩ := Option.map_eq_some_iff.1 h
      obtain ⟨rfl, rfl⟩ := Prod.mk.inj heq
      have hfields := levelsFields_le_iff.2
        (Reader.forall_of_enclosed (P := (·.2.levels ≤ n)) (of_fieldOf_run ih) hread)
      rw [levels]
      exact Nat.succ_le_succ hfields
    · rw [levels_of_scalar? h]
      exact Nat.zero_le _

/-- The value of a document is nested no deeper than a document may be. -/
theorem levels_le_of_parse? {text : String} {j : Json} (h : parse? text = some j) :
    j.levels ≤ maxLevels := by
  rw [parse?, parseWithin?] at h
  split at h
  · cases h
  · rename_i hread
    split at h
    · obtain rfl := Option.some.inj h
      exact levels_le_of_run hread
    · cases h

end BiblioQuery.Json
