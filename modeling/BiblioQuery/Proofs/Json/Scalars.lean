import BiblioQuery.Json.Reader
import BiblioQuery.Json.Writer
import BiblioQuery.Proofs.Number.Digits

/-!
# Scalars of JSON read back

Strings, truth values, `null` and whole numbers of 64-bit words are read back from the texts they
are written as.  A string is read to its closing quote whatever stands in it, since each character
is escaped so that it is read as itself; a number is read to its end only where the text does not go
on like a number.

## Main definitions

* `Json.NumberEnds` : a text does not go on like a number.
* `Json.Numeral.IsWord` : a whole number of a 64-bit word.

## Main results

* `Json.stringBody?_flatMap_escapedChar` : strings are read back.
* `Json.numeral?_chars` : whole numbers of 64-bit words are read back.
* `Json.scalar?_quotedChars`, `Json.scalar?_boolChars` : strings and truth values as scalars.
-/

namespace BiblioQuery.Json

/-! ### Strings -/

/-- The two digits of an escaped control give its number. -/
theorem hexQuad?_control {n : Nat} (h : n < 32) :
    hexQuad? '0' '0' (Nat.digitChar (n / 16)) (Nat.digitChar (n % 16)) = some n := by
  have hall : ∀ m : Fin 32,
      hexQuad? '0' '0' (Nat.digitChar (m / 16)) (Nat.digitChar (m % 16)) = some m.1 := by decide
  exact hall ⟨n, h⟩

/-- A character is read from its escape. -/
theorem stringBody?_escapedChar (c : Char) (r : List Char) :
    stringBody? (escapedChar c ++ r) = (stringBody? r).map fun p => (c :: p.1, p.2) := by
  unfold escapedChar
  split
  · rename_i hquote
    subst hquote
    rfl
  rename_i hquote
  split
  · rename_i hbackslash
    subst hbackslash
    rfl
  rename_i hbackslash
  split
  · rename_i hprintable
    have hraw : ¬ (c = '\\' ∨ c.toNat < 0x20) := by
      rintro (h | h)
      · exact hbackslash h
      · omega
    rw [List.singleton_append, stringBody?, if_neg hraw]
    · exact hquote
    · intro _ _ _ _ _ h _
      exact hbackslash h
    · intro _ _ h _
      exact hbackslash h
  rename_i hcontrol
  iterate 5
    split
    · rename_i h
      subst h
      rfl
  have hlt : c.toNat < 32 := by omega
  have hhigh : isHighSurrogate c.toNat = false := by
    simp only [isHighSurrogate, Bool.and_eq_false_iff, decide_eq_false_iff_not]
    omega
  have hlow : isLowSurrogate c.toNat = false := by
    simp only [isLowSurrogate, Bool.and_eq_false_iff, decide_eq_false_iff_not]
    omega
  simp [stringBody?, hexQuad?_control hlt, hhigh, hlow]

/-- A string is read back up to its closing quote. -/
theorem stringBody?_flatMap_escapedChar (cs r : List Char) :
    stringBody? (cs.flatMap escapedChar ++ '"' :: r) = some (cs, r) := by
  induction cs with
  | nil => rfl
  | cons c cs ih =>
    rw [List.flatMap_cons, List.append_assoc, stringBody?_escapedChar, ih]
    rfl

/-! ### Whole numbers -/

/-- The text does not go on like a number: no digit, no point and no exponent follows. -/
structure NumberEnds (r : List Char) : Prop where
  /-- No digit follows. -/
  noDigit : NoDigitAhead r
  /-- No point follows. -/
  noPoint : fractionDigits? r = some (none, r)
  /-- No exponent follows. -/
  noExponent : exponentPart? r = some (none, r)

theorem numberEnds_nil : NumberEnds [] := ⟨noDigitAhead_nil, rfl, rfl⟩

/-- A number ends where a sign of punctuation or a blank follows. -/
theorem numberEnds_cons {c : Char} (h : c = ',' ∨ c = ']' ∨ c = '\x7d' ∨ isSpace c = true)
    (r : List Char) : NumberEnds (c :: r) := by
  have hcases : c = ',' ∨ c = ']' ∨ c = '\x7d' ∨ c = ' ' ∨ c = '\t' ∨ c = '\n' ∨ c = '\r' := by
    simpa [isSpace, or_assoc] using h
  rcases hcases with rfl | rfl | rfl | rfl | rfl | rfl | rfl <;>
    exact ⟨(noDigitAhead_cons _ _).2 (by decide), rfl, rfl⟩

/-- A whole number that fits a 64-bit word, signed if it is negative. -/
def Numeral.IsWord : Numeral → Prop
  | .integer n => -(2 ^ 63) ≤ n ∧ n < 2 ^ 64
  | .binary _ => False

/-- Only the number zero is written with a zero in front. -/
theorem decimalDigits_ne_zero_cons_cons (n : Nat) (c : Char) (ds : List Char) :
    decimalDigits n ≠ '0' :: c :: ds := by
  intro h
  have hvalue : n = digitsValue (c :: ds) := by
    have hzero : digitsValue ['0'] = 0 := by decide
    rw [← digitsValue_decimalDigits n, h, ← List.singleton_append, digitsValue_append, hzero]
    simp
  have hdigits : ∀ d ∈ c :: ds, d.isDigit = true := by
    intro d hd
    exact isDigit_of_mem_decimalDigits (n := n) (by rw [h]; exact List.mem_cons_of_mem _ hd)
  have hlength := (length_decimalDigits_le_iff (n := n) (k := (c :: ds).length) (by simp)).2
    (hvalue ▸ digitsValue_lt hdigits)
  rw [h, List.length_cons] at hlength
  omega

theorem wholeDigits?_decimalDigits (n : Nat) {r : List Char} (hr : NoDigitAhead r) :
    wholeDigits? (decimalDigits n ++ r) = some (decimalDigits n, r) := by
  rw [wholeDigits?, spanDigits_append (fun c hc => isDigit_of_mem_decimalDigits hc) hr]
  split
  · rename_i heq
    exact absurd (Prod.mk.inj heq).1 (decimalDigits_ne_nil n)
  · rename_i heq
    exact absurd (Prod.mk.inj heq).1 (decimalDigits_ne_zero_cons_cons n _ _)
  · rename_i heq
    obtain ⟨rfl, rfl⟩ := Prod.mk.inj heq
    rfl

theorem splitMinus_decimalDigits (n : Nat) (r : List Char) :
    splitMinus (decimalDigits n ++ r) = (false, decimalDigits n ++ r) := by
  obtain ⟨c, ds, hds⟩ := List.exists_cons_of_ne_nil (decimalDigits_ne_nil n)
  have hdigit : c.isDigit = true := isDigit_of_mem_decimalDigits (n := n) (by simp [hds])
  have hminus : c ≠ '-' := by rintro rfl; exact absurd hdigit (by decide)
  rw [hds]
  simp [splitMinus, hminus]

/-- Whole numbers of 64-bit words are read back. -/
theorem numeral?_chars {n : Numeral} (hn : n.IsWord) {r : List Char} (hr : NumberEnds r) :
    numeral? (n.chars ++ r) = some (n, r) := by
  cases n with
  | binary x => exact hn.elim
  | integer n =>
    have hsize : UInt64.size = 2 ^ 64 := rfl
    simp only [Numeral.IsWord] at hn
    obtain ⟨m, hm⟩ : ∃ m : Nat, n.natAbs = m := ⟨_, rfl⟩
    have hwhole := wholeDigits?_decimalDigits m hr.noDigit
    simp only [Numeral.chars, integerChars, hm]
    split
    · rename_i hneg
      have hvalue : -(m : Int) = n := by omega
      have hfits : 0 < m ∧ 2 * m ≤ UInt64.size := by omega
      simp [numeral?, splitMinus, hwhole, hr.noPoint, hr.noExponent, wholeNumeral?, hfits, hvalue]
    · have hvalue : (m : Int) = n := by omega
      have hfits : m < UInt64.size := by omega
      simp [numeral?, splitMinus_decimalDigits, hwhole, hr.noPoint, hr.noExponent, wholeNumeral?,
        hfits, hvalue]

/-! ### Scalars -/

theorem after?_append (word r : List Char) : after? word (word ++ r) = some r := by
  have hprefix : word.isPrefixOf (word ++ r) = true := by simp
  rw [after?, if_pos hprefix, List.drop_left]

theorem scalar?_null (r : List Char) : scalar? ("null".toList ++ r) = some (.null, r) := by
  change (after? "ull".toList ("ull".toList ++ r)).map _ = _
  rw [after?_append]
  rfl

theorem scalar?_boolChars (b : Bool) (r : List Char) :
    scalar? (boolChars b ++ r) = some (.bool b, r) := by
  cases b with
  | true =>
    change (after? "rue".toList ("rue".toList ++ r)).map _ = _
    rw [after?_append]
    rfl
  | false =>
    change (after? "alse".toList ("alse".toList ++ r)).map _ = _
    rw [after?_append]
    rfl

theorem quotedChars_append (s : String) (r : List Char) :
    quotedChars s ++ r = '"' :: (s.toList.flatMap escapedChar ++ '"' :: r) := by
  simp [quotedChars]

theorem scalar?_quotedChars (s : String) (r : List Char) :
    scalar? (quotedChars s ++ r) = some (.string s, r) := by
  rw [quotedChars_append, scalar?, stringBody?_flatMap_escapedChar]
  simp

/-- The text of a number starts with a digit or a minus sign. -/
theorem exists_cons_integerChars (n : Int) : ∃ (c : Char) (r : List Char),
    integerChars n = c :: r ∧ (c.isDigit = true ∨ c = '-') := by
  unfold integerChars
  split
  · exact ⟨'-', _, rfl, .inr rfl⟩
  · obtain ⟨c, ds, hds⟩ := List.exists_cons_of_ne_nil (decimalDigits_ne_nil n.natAbs)
    exact ⟨c, ds, hds, .inl (isDigit_of_mem_decimalDigits (n := n.natAbs) (by simp [hds]))⟩

/-- A text that starts with a digit or a minus sign is read as a number. -/
theorem scalar?_of_number {c : Char} (h : c.isDigit = true ∨ c = '-') (r : List Char) :
    scalar? (c :: r) = (numeral? (c :: r)).map fun p => (.number p.1, p.2) := by
  have hne : ∀ d : Char, d.isDigit = false → d ≠ '-' → c ≠ d := by
    rintro d hd hminus rfl
    rcases h with h | h
    · simp [hd] at h
    · exact hminus h
  have h₁ := hne '"' (by decide) (by decide)
  have h₂ := hne 'n' (by decide) (by decide)
  have h₃ := hne 't' (by decide) (by decide)
  have h₄ := hne 'f' (by decide) (by decide)
  rw [scalar?] <;> simp [h₁, h₂, h₃, h₄]

theorem scalar?_numeral {n : Numeral} (hn : n.IsWord) {r : List Char} (hr : NumberEnds r) :
    scalar? (n.chars ++ r) = some (.number n, r) := by
  have hread := numeral?_chars hn hr
  cases n with
  | binary x => exact hn.elim
  | integer n =>
    obtain ⟨c, s, hs, hc⟩ := exists_cons_integerChars n
    rw [Numeral.chars, hs] at hread ⊢
    rw [List.cons_append] at hread ⊢
    rw [scalar?_of_number hc, hread]
    rfl

end BiblioQuery.Json
