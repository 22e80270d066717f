import BiblioQuery.Number.Text
import BiblioQuery.Proofs.Text.Trimming
import Mathlib.Algebra.Group.Int.Defs
import Mathlib.Algebra.Group.Nat.Defs

/-!
# Digits written and read

The digits of a number denote it again, also with zeros in front.  A run of digits is read to its
end when no digit follows, and texts of digits and signs have no blanks to trim.

## Main definitions

* `NoDigitAhead` : a list does not start with a digit.

## Main results

* `digitsValue_decimalDigits`, `digitsValue_paddedDigits` : digits denote their number.
* `spanDigits_append` : a run of digits is read to its end.
* `Text.noBlanks_of_isDigit` : digits are not blank.
-/

namespace BiblioQuery

/-! ### Values of digits -/

theorem digitsValue_eq_ofDigitChars (cs : List Char) :
    digitsValue cs = Nat.ofDigitChars 10 cs 0 := rfl

/-- The digits of a number denote it. -/
@[simp]
theorem digitsValue_decimalDigits (n : Nat) : digitsValue (decimalDigits n) = n :=
  Nat.ofDigitChars_ten_toDigits

/-- Digits in front weigh by the number of digits that follow. -/
theorem digitsValue_append (cs ds : List Char) :
    digitsValue (cs ++ ds) = 10 ^ ds.length * digitsValue cs + digitsValue ds := by
  rw [digitsValue_eq_ofDigitChars, Nat.ofDigitChars_append, Nat.ofDigitChars_eq_ofDigitChars_zero,
    ← digitsValue_eq_ofDigitChars, ← digitsValue_eq_ofDigitChars]

@[simp]
theorem digitsValue_replicate_zero (n : Nat) : digitsValue (List.replicate n '0') = 0 := by
  rw [digitsValue_eq_ofDigitChars, Nat.ofDigitChars_replicate_zero, Nat.mul_zero]

/-- Zeros in front do not change the number. -/
@[simp]
theorem digitsValue_paddedDigits (width n : Nat) : digitsValue (paddedDigits width n) = n := by
  rw [paddedDigits, digitsValue_append, digitsValue_replicate_zero, digitsValue_decimalDigits,
    Nat.mul_zero, Nat.zero_add]

/-- A list of digits denotes a number with no more digits. -/
theorem digitsValue_lt {ds : List Char} (h : ∀ c ∈ ds, c.isDigit = true) :
    digitsValue ds < 10 ^ ds.length := by
  induction ds with
  | nil => decide
  | cons d ds ih =>
    rw [List.forall_mem_cons] at h
    have hd : digitsValue [d] ≤ 9 := by
      have h' : 48 ≤ d.toNat ∧ d.toNat ≤ 57 := by
        simpa [Char.isDigit, Char.le_def, UInt32.le_iff_toNat_le] using h.1
      change 10 * 0 + (d.toNat - 48) ≤ 9
      omega
    have hmul : 10 ^ ds.length * digitsValue [d] ≤ 10 ^ ds.length * 9 := Nat.mul_le_mul_left _ hd
    have ih := ih h.2
    rw [← List.singleton_append, digitsValue_append, List.length_append, List.length_singleton,
      Nat.pow_add, Nat.pow_one]
    omega

/-! ### Shapes of digits -/

theorem isDigit_of_mem_decimalDigits {n : Nat} {c : Char} (h : c ∈ decimalDigits n) :
    c.isDigit = true :=
  Nat.isDigit_of_mem_toDigits (by decide) (by decide) h

theorem decimalDigits_ne_nil (n : Nat) : decimalDigits n ≠ [] := Nat.toDigits_ne_nil

theorem length_decimalDigits_le_iff {n k : Nat} (h : 0 < k) :
    (decimalDigits n).length ≤ k ↔ n < 10 ^ k :=
  Nat.length_toDigits_le_iff (by decide) h

theorem isDigit_of_mem_paddedDigits {width n : Nat} {c : Char} (h : c ∈ paddedDigits width n) :
    c.isDigit = true := by
  rcases List.mem_append.1 h with h | h
  · rw [List.eq_of_mem_replicate h]
    rfl
  · exact isDigit_of_mem_decimalDigits h

theorem paddedDigits_ne_nil (width n : Nat) : paddedDigits width n ≠ [] :=
  List.append_ne_nil_of_right_ne_nil _ (decimalDigits_ne_nil n)

theorem le_length_paddedDigits (width n : Nat) : width ≤ (paddedDigits width n).length := by
  rw [paddedDigits, List.length_append, List.length_replicate]
  omega

/-- Numbers that are short enough fill the width exactly. -/
theorem length_paddedDigits {width n : Nat} (hw : 0 < width) (h : n < 10 ^ width) :
    (paddedDigits width n).length = width := by
  have := (length_decimalDigits_le_iff hw).2 h
  rw [paddedDigits, List.length_append, List.length_replicate]
  omega

/-! ### Runs of digits -/

/-- The list does not start with a digit. -/
def NoDigitAhead : List Char → Prop
  | [] => True
  | c :: _ => c.isDigit = false

@[simp]
theorem noDigitAhead_nil : NoDigitAhead [] := trivial

@[simp]
theorem noDigitAhead_cons (c : Char) (r : List Char) :
    NoDigitAhead (c :: r) ↔ c.isDigit = false := Iff.rfl

/-- A run of digits is read to its end. -/
theorem spanDigits_append {ds r : List Char} (hds : ∀ c ∈ ds, c.isDigit = true)
    (hr : NoDigitAhead r) : spanDigits (ds ++ r) = (ds, r) := by
  induction ds with
  | nil =>
    cases r with
    | nil => rfl
    | cons c r => simp [spanDigits, (noDigitAhead_cons c r).1 hr]
  | cons d ds ih =>
    rw [List.forall_mem_cons] at hds
    have ih := Prod.mk.inj (ih hds.2)
    simp [spanDigits, hds.1, ih.1, ih.2]

/-! ### Digits and blanks -/

namespace Text

theorem isBlank_of_isDigit {c : Char} (h : c.isDigit = true) : isBlank c = false := by
  have h' : 48 ≤ c.toNat ∧ c.toNat ≤ 57 := by
    simpa [Char.isDigit, Char.le_def, UInt32.le_iff_toNat_le] using h
  simp only [isBlank, Bool.or_eq_false_iff, Bool.and_eq_false_iff, decide_eq_false_iff_not,
    beq_eq_false_iff_ne]
  omega

theorem noBlanks_of_isDigit {cs : List Char} (h : ∀ c ∈ cs, c.isDigit = true) : NoBlanks cs :=
  fun c hc => isBlank_of_isDigit (h c hc)

@[simp]
theorem noBlanks_paddedDigits (width n : Nat) : NoBlanks (paddedDigits width n) :=
  noBlanks_of_isDigit fun _ hc => isDigit_of_mem_paddedDigits hc

end Text

end BiblioQuery
