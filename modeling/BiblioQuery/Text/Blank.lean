/-!
# Blank characters and trimming

The blank characters are those with the Unicode property `White_Space`.  A text is trimmed by
dropping its blank characters at both ends, and it is blank when trimming leaves nothing.

## Main definitions

* `Text.isBlank` : the property `White_Space`.
* `Text.trimStart`, `Text.trimEnd`, `Text.trim` : a character list without its outer blanks.
* `Text.trimmed` : the same on strings.

## Main results

* `Text.isBlank_of_isWhitespace` : every blank of the ASCII range that core knows is blank here.
* `Text.trim_eq_nil_iff` : a list is trimmed to nothing exactly when all its characters are blank.
-/

namespace BiblioQuery.Text

/-- A character with the Unicode property `White_Space`. -/
def isBlank (c : Char) : Bool :=
  let n := c.toNat
  (0x09 ≤ n && n ≤ 0x0D) || n == 0x20 || n == 0x85 || n == 0xA0 || n == 0x1680 ||
    (0x2000 ≤ n && n ≤ 0x200A) || n == 0x2028 || n == 0x2029 || n == 0x202F || n == 0x205F ||
    n == 0x3000

/-- Every ASCII white space character is blank. -/
theorem isBlank_of_isWhitespace {c : Char} (h : c.isWhitespace = true) : isBlank c = true := by
  simp only [Char.isWhitespace, Bool.or_eq_true, decide_eq_true_eq] at h
  rcases h with ((h | h) | h) | h <;> subst h <;> decide

/-- A list without the blanks it starts with. -/
def trimStart (cs : List Char) : List Char := cs.dropWhile isBlank

/-- A list without the blanks it ends with. -/
def trimEnd : List Char → List Char
  | [] => []
  | c :: r =>
    match trimEnd r with
    | [] => if isBlank c then [] else [c]
    | d :: s => c :: d :: s

/-- A list without the blanks at its ends. -/
def trim (cs : List Char) : List Char := trimEnd (trimStart cs)

/-- Trimming its end leaves nothing of a list exactly when all its characters are blank. -/
theorem trimEnd_eq_nil_iff (cs : List Char) : trimEnd cs = [] ↔ ∀ c ∈ cs, isBlank c = true := by
  induction cs with
  | nil => simp [trimEnd]
  | cons c r ih =>
    rw [trimEnd]
    split
    · rename_i h
      by_cases hc : isBlank c = true <;> simp_all
    · rename_i d s h
      simp only [List.cons_ne_nil, false_iff]
      intro hall
      have := ih.2 fun x hx => hall x (List.mem_cons_of_mem c hx)
      simp_all

/-- A list is trimmed to nothing exactly when all its characters are blank. -/
theorem trim_eq_nil_iff (cs : List Char) : trim cs = [] ↔ ∀ c ∈ cs, isBlank c = true := by
  rw [trim, trimEnd_eq_nil_iff, trimStart]
  induction cs with
  | nil => simp
  | cons c r ih => by_cases hc : isBlank c = true <;> simp [hc, ih]

/-- A string without the blanks at its ends. -/
def trimmed (s : String) : String := String.ofList (trim s.toList)

/-- A string of blanks only. -/
def isBlankText (s : String) : Bool := s.toList.all isBlank

end BiblioQuery.Text
