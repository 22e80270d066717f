import BiblioQuery.Text.Blank

/-!
# Trimmed texts

Trimming takes blanks away at both ends and nothing else.  What it leaves does not end in a blank,
and a text with no blank at its ends is left as it is.

## Main definitions

* `Text.NoBlanks` : a list has no blanks.

## Main results

* `Text.trim_sublist` : nothing is added.
* `Text.isBlank_of_getLast?_trim` : what is left does not end in a blank.
* `Text.trim_eq_self_of_ends` : a text without blanks at its ends is left as it is.
* `Text.trim_eq_self` : so is a text without blanks.
-/

namespace BiblioQuery.Text

variable {c : Char} {cs ds r : List Char}

/-! ### The ends of a text -/

/-- A text that does not start with a blank keeps its start. -/
theorem trimStart_cons (h : isBlank c = false) : trimStart (c :: r) = c :: r := by
  simp [trimStart, h]

/-- A text that does not end in a blank keeps its end. -/
theorem trimEnd_eq_self (h : ∀ c ∈ cs.getLast?, isBlank c = false) : trimEnd cs = cs := by
  induction cs with
  | nil => rfl
  | cons c r ih =>
    cases r with
    | nil => simp [trimEnd, h c rfl]
    | cons d r =>
      rw [List.getLast?_cons_cons] at h
      rw [trimEnd, ih h]

theorem trimEnd_sublist (cs : List Char) : (trimEnd cs).Sublist cs := by
  induction cs with
  | nil => exact .refl _
  | cons c r ih =>
    rw [trimEnd]
    cases htrim : trimEnd r with
    | nil =>
      dsimp only
      split
      · exact List.nil_sublist _
      · exact List.singleton_sublist.2 List.mem_cons_self
    | cons d s =>
      rw [htrim] at ih
      exact ih.cons_cons c

/-- What is left after trimming the end does not end in a blank. -/
theorem isBlank_of_getLast?_trimEnd (cs : List Char) :
    ∀ c ∈ (trimEnd cs).getLast?, isBlank c = false := by
  induction cs with
  | nil => simp [trimEnd]
  | cons c r ih =>
    rw [trimEnd]
    cases htrim : trimEnd r with
    | nil =>
      dsimp only
      split
      · simp
      · next hc => simpa using hc
    | cons d s =>
      rw [htrim] at ih
      rwa [List.getLast?_cons_cons]

/-! ### Trimming -/

/-- Trimming adds nothing to a text. -/
theorem trim_sublist (cs : List Char) : (trim cs).Sublist cs :=
  (trimEnd_sublist _).trans (List.dropWhile_sublist _)

/-- A trimmed text does not end in a blank. -/
theorem isBlank_of_getLast?_trim (cs : List Char) : ∀ c ∈ (trim cs).getLast?, isBlank c = false :=
  isBlank_of_getLast?_trimEnd _

/-- A text without blanks at its ends is trimmed to itself. -/
theorem trim_eq_self_of_ends (hhead : ∀ c ∈ cs.head?, isBlank c = false)
    (hlast : ∀ c ∈ cs.getLast?, isBlank c = false) : trim cs = cs := by
  have hstart : trimStart cs = cs := by
    cases cs with
    | nil => rfl
    | cons c r => exact trimStart_cons (hhead c rfl)
  rw [trim, hstart, trimEnd_eq_self hlast]

/-! ### Texts without blanks -/

/-- The list has no blanks. -/
def NoBlanks (cs : List Char) : Prop := ∀ c ∈ cs, isBlank c = false

@[simp]
theorem noBlanks_nil : NoBlanks [] := nofun

@[simp]
theorem noBlanks_cons (c : Char) (r : List Char) :
    NoBlanks (c :: r) ↔ isBlank c = false ∧ NoBlanks r := List.forall_mem_cons

@[simp]
theorem noBlanks_append (cs ds : List Char) :
    NoBlanks (cs ++ ds) ↔ NoBlanks cs ∧ NoBlanks ds := List.forall_mem_append

/-- A text without blanks is trimmed to itself. -/
theorem trim_eq_self (h : NoBlanks cs) : trim cs = cs :=
  trim_eq_self_of_ends (fun c hc => h c (List.mem_of_head? hc))
    fun c hc => h c (List.mem_of_getLast? hc)

end BiblioQuery.Text
