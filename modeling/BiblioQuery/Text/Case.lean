import BiblioQuery.Text.CaseTable

/-!
# Lowercase and uppercase

The full, locale-independent case mappings of Unicode on texts.  Only one rule looks at the
neighbours of a character: a capital sigma that ends a word becomes the final form `ς`.

## Main definitions

* `Text.lowerChar`, `Text.upperChar` : the mappings of one character.
* `Text.lower`, `Text.upper` : the mappings of a character list.
* `Text.lowercase`, `Text.uppercase` : the mappings of a string.
* `Text.sameLetters` : two strings differ at most in the case of the letters from A to Z.

## Main results

* `Text.upper_append` : uppercasing works character by character.
-/

namespace BiblioQuery.Text

/-- The image of a character under a case mapping given by its two tables. -/
def caseImage (ranges : List CaseRange) (special : List (Nat × List Nat)) (c : Char) : List Char :=
  match special.find? fun e => e.1 == c.toNat with
  | some e => e.2.map Char.ofNat
  | none =>
    match ranges.find? fun r => r.covers c.toNat with
    | some r => [Char.ofNat (r.image c.toNat)]
    | none => [c]

/-- The lowercase form of a character on its own. -/
def lowerChar (c : Char) : List Char := caseImage lowerRanges lowerSpecial c

/-- The uppercase form of a character. -/
def upperChar (c : Char) : List Char := caseImage upperRanges upperSpecial c

/-- The first character that is not case-ignorable is a cased letter. -/
def startsCased (cs : List Char) : Bool :=
  match cs.dropWhile fun c => inRanges caseIgnorableRanges c.toNat with
  | [] => false
  | c :: _ => inRanges casedRanges c.toNat

/-- Lowercases a list whose preceding characters are given, the nearest first. -/
def lowerAfter (before : List Char) : List Char → List Char
  | [] => []
  | c :: r =>
    let form :=
      if c = 'Σ' then [if startsCased before && !startsCased r then 'ς' else 'σ'] else lowerChar c
    form ++ lowerAfter (c :: before) r

/-- The lowercase form of a character list. -/
def lower (cs : List Char) : List Char := lowerAfter [] cs

/-- The uppercase form of a character list. -/
def upper (cs : List Char) : List Char := cs.flatMap upperChar

/-- Uppercasing works character by character. -/
@[simp]
theorem upper_append (cs ds : List Char) : upper (cs ++ ds) = upper cs ++ upper ds := by
  simp [upper]

/-- The lowercase form of a string. -/
def lowercase (s : String) : String := String.ofList (lower s.toList)

/-- The uppercase form of a string. -/
def uppercase (s : String) : String := String.ofList (upper s.toList)

/-- Two strings differ at most in the case of the letters from A to Z. -/
def sameLetters (s t : String) : Bool := s.toList.map Char.toLower == t.toList.map Char.toLower

end BiblioQuery.Text
