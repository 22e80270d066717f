import BiblioQuery.Proofs.Number.Rounding

/-!
# Numbers read back

The canonical text of a number is a sign where it is negative, digits, a point and more digits.
Such a text is read as the literal with these digits, and the digits were chosen so that the literal
is rounded to the number.  So every number is read back from its text, whatever its size.

## Main definitions

* `Number.Pointed` : a text with a point between digits.
* `Number.Denotes` : such a text with a literal of a given sign and rank.

## Main results

* `Number.Literal.parse?_of_pointed` : the literal of such a text.
* `Number.denotes_canonicalChars` : the canonical text of a number denotes its sign and rank.
* `Number.parse?_canonical` : the canonical text of a number is read back.
-/

namespace BiblioQuery.Number

/-! ### Texts with a point -/

/-- The minus sign of a negative number. -/
def signChars (negative : Bool) : List Char := if negative then ['-'] else []

/-- A text with a point, digits before it and digits after it. -/
structure Pointed (negative : Bool) (whole fraction cs : List Char) : Prop where
  /-- The parts of the text, in order. -/
  eq : cs = signChars negative ++ (whole ++ '.' :: fraction)
  /-- There is a digit before the point. -/
  whole_ne_nil : whole ≠ []
  /-- Only digits stand before the point. -/
  isDigit_whole : ∀ c ∈ whole, c.isDigit = true
  /-- Only digits stand after the point. -/
  isDigit_fraction : ∀ c ∈ fraction, c.isDigit = true

variable {negative : Bool} {whole fraction cs : List Char}

/-- A text with a point has no blanks. -/
theorem Pointed.noBlanks (h : Pointed negative whole fraction cs) : Text.NoBlanks cs := by
  have hsign : Text.NoBlanks (signChars negative) := by
    cases negative with
    | true => exact (Text.noBlanks_cons _ _).2 ⟨by decide, Text.noBlanks_nil⟩
    | false => exact Text.noBlanks_nil
  rw [h.eq]
  simp only [Text.noBlanks_append, Text.noBlanks_cons]
  exact ⟨hsign, Text.noBlanks_of_isDigit h.isDigit_whole, by decide,
    Text.noBlanks_of_isDigit h.isDigit_fraction⟩

theorem splitSign_signChars {c : Char} {r : List Char} (h : c.isDigit = true) :
    splitSign (signChars negative ++ c :: r) = (negative, c :: r) := by
  cases negative with
  | true => rfl
  | false =>
    have hminus : c ≠ '-' := by rintro rfl; exact absurd h (by decide)
    have hplus : c ≠ '+' := by rintro rfl; exact absurd h (by decide)
    simp [signChars, splitSign, hminus, hplus]

/-- A text with a point is read as the literal with its digits. -/
theorem Literal.parse?_of_pointed (h : Pointed negative whole fraction cs) :
    Literal.parse? cs =
      some ⟨negative, digitsValue (whole ++ fraction), -(fraction.length : Int)⟩ := by
  obtain ⟨c, r, hwhole⟩ := List.exists_cons_of_ne_nil h.whole_ne_nil
  have hdigit : c.isDigit = true := h.isDigit_whole c (by simp [hwhole])
  have hsplit : splitSign cs = (negative, whole ++ '.' :: fraction) := by
    rw [h.eq, hwhole]
    exact splitSign_signChars hdigit
  have hspan : spanDigits (whole ++ '.' :: fraction) = (whole, '.' :: fraction) :=
    spanDigits_append h.isDigit_whole ((noDigitAhead_cons _ _).2 (by decide))
  have hrest : spanDigits fraction = (fraction, []) := by
    simpa using spanDigits_append h.isDigit_fraction noDigitAhead_nil
  have hne : whole.isEmpty = false := by simp [hwhole]
  simp [Literal.parse?, hsplit, hspan, splitFraction, hrest, hne, exponent?]

/-- A text with a point whose literal has the given sign and is rounded to the given rank. -/
def Denotes (cs : List Char) (negative : Bool) (rank : Nat) : Prop :=
  ∃ whole fraction : List Char, Pointed negative whole fraction cs ∧
    decimalRank (digitsValue (whole ++ fraction))
      (clampExponent (digitsValue (whole ++ fraction)) (-(fraction.length : Int))) = rank

/-! ### Canonical texts -/

/-- A text with a point forced. -/
def withPoint (cs : List Char) : List Char := if cs.contains '.' then cs else cs ++ ['.', '0']

/-- One place behind the point is never clamped. -/
theorem clampExponent_neg_one (d : Nat) : clampExponent d (-1) = -1 := by
  rw [clampExponent]
  omega

theorem decimalRank_zero : decimalRank 0 (-1) = 0 := by
  have hneg := decimalRank_neg Nat.one_pos 0
  rw [Int.natCast_one, Nat.pow_one] at hneg
  rw [hneg, ratioRank, Nat.zero_mul]
  exact nearestRank_eq_zero (by decide)

theorem isDigit_of_mem_zero : ∀ c ∈ ['0'], Char.isDigit c = true := by
  intro c hc
  rw [List.mem_singleton.1 hc]
  rfl

/-- A whole number is written with zeros at its end and gets a zero behind the point; neither
changes how it is rounded. -/
theorem denotes_withPoint_natCast (d n : Nat) (negative : Bool) :
    Denotes (signChars negative ++ withPoint (positional d n)) negative (decimalRank d n) := by
  have hdigits : ∀ c ∈ decimalDigits d ++ List.replicate n '0', c.isDigit = true := by
    intro c hc
    rcases List.mem_append.1 hc with hc | hc
    · exact isDigit_of_mem_decimalDigits hc
    · rw [List.eq_of_mem_replicate hc]
      rfl
  have hpos : positional d n = decimalDigits d ++ List.replicate n '0' := by
    simp [positional]
  have hcontains : (decimalDigits d ++ List.replicate n '0').contains '.' = false := by
    refine Bool.eq_false_iff.2 fun hc => ?_
    exact absurd (hdigits '.' (List.contains_iff_mem.1 hc)) (by decide)
  have hvalue : digitsValue ((decimalDigits d ++ List.replicate n '0') ++ ['0']) =
      d * 10 ^ n * 10 := by
    rw [digitsValue_append, digitsValue_append, digitsValue_replicate_zero,
      digitsValue_decimalDigits, List.length_replicate, Nat.mul_comm (10 ^ n)]
    exact Nat.mul_comm 10 _
  refine ⟨decimalDigits d ++ List.replicate n '0', ['0'], ?_, ?_⟩
  · refine ⟨?_, ?_, hdigits, isDigit_of_mem_zero⟩
    · rw [withPoint, hpos, hcontains]
      rfl
    · exact List.append_ne_nil_of_left_ne_nil (decimalDigits_ne_nil d) _
  · rw [hvalue, List.length_singleton, Int.natCast_one, clampExponent_neg_one]
    exact decimalRank_scale d n

/-- A decimal with places behind the point is written with that many digits there. -/
theorem denotes_withPoint_neg {d n : Nat} (hn : 0 < n) (h : decimalRank d (-(n : Int)) ≠ 0)
    (negative : Bool) :
    Denotes (signChars negative ++ withPoint (positional d (-(n : Int)))) negative
      (decimalRank d (-(n : Int))) := by
  have hlen := le_length_paddedDigits (n + 1) d
  have hpos : positional d (-(n : Int)) =
      (paddedDigits (n + 1) d).take ((paddedDigits (n + 1) d).length - n) ++
        '.' :: (paddedDigits (n + 1) d).drop ((paddedDigits (n + 1) d).length - n) := by
    rw [positional, if_neg (by omega), Int.neg_neg]
    rfl
  have hplaces : (paddedDigits (n + 1) d).length - ((paddedDigits (n + 1) d).length - n) = n := by
    omega
  refine ⟨_, _, ⟨by rw [withPoint, hpos, if_pos (by simp)], ?_, ?_, ?_⟩, ?_⟩
  · refine List.ne_nil_of_length_pos ?_
    rw [List.length_take]
    omega
  · intro c hc
    exact isDigit_of_mem_paddedDigits (List.mem_of_mem_take hc)
  · intro c hc
    exact isDigit_of_mem_paddedDigits (List.mem_of_mem_drop hc)
  · rw [List.take_append_drop, digitsValue_paddedDigits, List.length_drop, hplaces,
      clampExponent_eq_self (by omega) h]

/-- The text of a number other than zero; the decimal is named so that it is never computed. -/
theorem displayChars_of_ne_zero {x : Number} {p : Nat × Int} (h : x.rank ≠ 0)
    (hp : shortest x.rank.natAbs = p) :
    x.displayChars = signChars (decide (x.rank < 0)) ++ positional p.1 p.2 := by
  rw [displayChars, if_neg h, hp]
  by_cases hneg : x.rank < 0
  · simp [hneg, signChars]
  · simp [hneg, signChars]

/-- The sign of a number is no point. -/
theorem withPoint_signChars_append (negative : Bool) (cs : List Char) :
    withPoint (signChars negative ++ cs) = signChars negative ++ withPoint cs := by
  have hcontains : (signChars negative ++ cs).contains '.' = cs.contains '.' := by
    cases negative <;> simp [signChars]
  rw [withPoint, withPoint, hcontains]
  split
  · rfl
  · exact List.append_assoc ..

/-- The canonical text of a number denotes its sign and its rank. -/
theorem denotes_canonicalChars (x : Number) :
    Denotes x.canonicalChars (decide (x.rank < 0)) x.rank.natAbs := by
  have hcanonical : x.canonicalChars = withPoint x.displayChars := rfl
  by_cases h0 : x.rank = 0
  · have hvalue : digitsValue (['0'] ++ ['0']) = 0 := by decide
    refine ⟨['0'], ['0'], ?_, ?_⟩
    · refine ⟨?_, List.cons_ne_nil _ _, isDigit_of_mem_zero, isDigit_of_mem_zero⟩
      rw [hcanonical, displayChars, if_pos h0, h0]
      rfl
    · rw [hvalue, List.length_singleton, Int.natCast_one, clampExponent_neg_one, decimalRank_zero,
        h0, Int.natAbs_zero]
  · have hrank := decimalRank_shortest x.rank.natAbs
    obtain ⟨p, hp⟩ : ∃ p, shortest x.rank.natAbs = p := ⟨_, rfl⟩
    rw [hp] at hrank
    rw [hcanonical, displayChars_of_ne_zero h0 hp, withPoint_signChars_append, ← hrank]
    obtain ⟨d, k⟩ := p
    by_cases hk : 0 ≤ k
    · obtain ⟨n, rfl⟩ := Int.eq_ofNat_of_zero_le hk
      exact denotes_withPoint_natCast d n _
    · obtain ⟨n, rfl⟩ : ∃ n : Nat, k = -(n : Int) := ⟨k.natAbs, by omega⟩
      refine denotes_withPoint_neg (by omega) ?_ _
      rw [hrank]
      omega

/-- The number of a sign and the place of its value. -/
theorem ofRank?_rank (x : Number) : ofRank? (decide (x.rank < 0)) x.rank.natAbs = some x := by
  have hlt := x.natAbs_rank_lt
  obtain ⟨rank, h⟩ := x
  simp only [ofRank?, dif_pos hlt, Option.some.injEq, Number.mk.injEq, decide_eq_true_eq]
  split <;> omega

/-- The canonical text of a number is read back. -/
theorem parse?_canonical (x : Number) : parse? x.canonical = some x := by
  obtain ⟨whole, fraction, hpointed, hrank⟩ := denotes_canonicalChars x
  rw [parse?, canonical, String.toList_ofList, Text.trim_eq_self hpointed.noBlanks,
    Literal.parse?_of_pointed hpointed, Option.bind_some, ofLiteral?, hrank]
  exact ofRank?_rank x

end BiblioQuery.Number
