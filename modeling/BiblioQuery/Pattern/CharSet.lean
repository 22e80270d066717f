import BiblioQuery.Text.CodeRange
import BiblioQuery.Text.WordTable
import BiblioQuery.Text.Blank

/-!
# Sets of characters

The sets that a pattern matches one character with: ranges, the classes of digits, blanks and word
characters, and what is built from them.

## Main definitions

* `CharSet` : a description of a set.
* `CharSet.mem` : the characters of a set.
* `CharSet.ranges` : the ranges of code points of a set.
* `CharSet.ignoreCase` : the set with all case variants of its ranges.

## Main results

* `CharSet.mem_single` : a single character makes a set of one.
* `CharSet.inRanges_blankRanges` : the ranges of the blanks are those of their property.
-/

namespace BiblioQuery

/-- A set of characters. -/
inductive CharSet where
  /-- No character. -/
  | empty
  /-- The characters between two, both included. -/
  | range (first last : Char)
  /-- The decimal digits. -/
  | digit
  /-- The blanks. -/
  | blank
  /-- The characters of words. -/
  | word
  /-- The characters of some ranges of code points. -/
  | listed (rs : List (Nat × Nat))
  /-- All characters with a variant in a set. -/
  | variants (s : CharSet)
  /-- The characters of either set. -/
  | union (s t : CharSet)
  /-- The characters of both sets. -/
  | inter (s t : CharSet)
  /-- The characters that are not in a set. -/
  | compl (s : CharSet)
  deriving DecidableEq

namespace CharSet

/-- The character belongs to the set. -/
def mem : CharSet → Char → Bool
  | .empty, _ => false
  | .range first last, c => first ≤ c && c ≤ last
  | .digit, c => Text.isDecimalDigit c
  | .blank, c => Text.isBlank c
  | .word, c => Text.isWordChar c
  | .listed rs, c => Text.inRanges rs c.toNat
  | .variants s, c => (Text.caseVariants c).any (mem s)
  | .union s t, c => mem s c || mem t c
  | .inter s t, c => mem s c && mem t c
  | .compl s, c => !mem s c

/-- The set of one character. -/
def single (c : Char) : CharSet := .range c c

/-- A single character makes a set of one. -/
@[simp]
theorem mem_single (c d : Char) : (single c).mem d = (d == c) := by
  rw [Bool.eq_iff_iff]
  simp only [single, mem, Bool.and_eq_true, decide_eq_true_eq, beq_iff_eq]
  exact ⟨fun h => Char.le_antisymm h.2 h.1, fun h => h ▸ ⟨Char.le_refl d, Char.le_refl d⟩⟩

/-- The blanks, as ranges of code points. -/
def blankRanges : List (Nat × Nat) :=
  [(0x09, 0x0D), (0x20, 0x20), (0x85, 0x85), (0xA0, 0xA0), (0x1680, 0x1680), (0x2000, 0x200A),
   (0x2028, 0x2029), (0x202F, 0x202F), (0x205F, 0x205F), (0x3000, 0x3000)]

/-- The ranges of the blanks are those of their property. -/
theorem inRanges_blankRanges (c : Char) :
    Text.inRanges blankRanges c.toNat = Text.isBlank c := by
  rw [Bool.eq_iff_iff]
  simp only [Text.inRanges, blankRanges, List.any_cons, List.any_nil, Text.isBlank,
    Bool.or_eq_true, Bool.and_eq_true, decide_eq_true_eq, beq_iff_eq, Bool.or_false]
  omega

/-- The code points that have case variants, some of them more than once. -/
def foldable : List Nat :=
  Text.foldRanges.flatMap fun r =>
    (List.range ((r.last - r.first) / r.step + 1)).flatMap fun i =>
      let n := r.first + i * r.step
      [n, r.image n]

/-- The ranges of a set, with all case variants of what they hold. -/
def foldedRanges (rs : List (Nat × Nat)) : List (Nat × Nat) :=
  (foldable.filter (Text.inRanges rs)).foldl (fun acc n =>
    (Text.caseVariants (Char.ofNat n)).foldl (fun acc c =>
      CodeRange.insert (c.toNat, c.toNat) acc) acc) rs

/-- The ranges of code points of a set. -/
def ranges : CharSet → List (Nat × Nat)
  | .empty => []
  | .range first last => CodeRange.between first last
  | .digit => Text.decimalDigitRanges
  | .blank => blankRanges
  | .word => Text.wordRanges
  | .listed rs => rs
  | .variants s => foldedRanges (ranges s)
  | .union s t => CodeRange.union (ranges s) (ranges t)
  | .inter s t => CodeRange.inter (ranges s) (ranges t)
  | .compl s => CodeRange.compl (ranges s)

/-- The characters of the first set that are not in the second. -/
def diff (s t : CharSet) : CharSet := .inter s (.compl t)

/-- The characters of exactly one of two sets. -/
def symmDiff (s t : CharSet) : CharSet := .union (diff s t) (diff t s)

/-- The set with all case variants of its ranges; complements are taken afterwards. -/
def ignoreCase : CharSet → CharSet
  | .range first last => .variants (.range first last)
  | .listed rs => .variants (.listed rs)
  | .union s t => .union (ignoreCase s) (ignoreCase t)
  | .inter s t => .inter (ignoreCase s) (ignoreCase t)
  | .compl s => .compl (ignoreCase s)
  | s => s

/-- The characters of ASCII. -/
def ascii : CharSet := .range '\x00' '\x7f'

/-- The decimal digits of ASCII. -/
def asciiDigit : CharSet := .range '0' '9'

/-- The blanks of ASCII. -/
def asciiBlank : CharSet := .union (.range '\t' '\r') (single ' ')

/-- The letters of ASCII. -/
def asciiLetter : CharSet := .union (.range 'a' 'z') (.range 'A' 'Z')

/-- The letters and digits of ASCII. -/
def asciiAlphanumeric : CharSet := .union asciiLetter asciiDigit

/-- The characters of words in ASCII. -/
def asciiWord : CharSet := .union asciiAlphanumeric (single '_')

end CharSet

end BiblioQuery
