import BiblioQuery.Pattern.Reader
import BiblioQuery.Pattern.Automaton

/-!
# Patterns

A pattern is a regular expression that is put between anchors, as a text, before it is read.  A text
matches a pattern if some stretch of it matches the anchored expression.  An expression that is
nested too deeply, or whose automata take too much room, makes no pattern.

## Main definitions

* `Pattern` : a source with the expression that it is read into between anchors.
* `Pattern.ofSource?` : the pattern of a source.
* `Pattern.accepts` : a text matches a pattern.

## Main results

* `Pattern.ext_source` : a pattern is known by its source.
* `Pattern.source_ofSource?` : the pattern of a source has that source.
* `Pattern.ofSource?_source` : the source of a pattern is read into that pattern.
-/

namespace BiblioQuery

/-- A source between the anchors of a whole text. -/
def Pattern.anchored (source : String) : List Char :=
  "^(?:".toList ++ source.toList ++ ")$".toList

/-- A source with the expression that it is read into between anchors. -/
structure Pattern where
  /-- The source. -/
  source : String
  /-- The expression. -/
  regex : Regex
  /-- The source between anchors is read into the expression. -/
  parse_anchored : Regex.parse? (Pattern.anchored source) = some regex
  /-- The automata of the expression have room. -/
  fits_shape : regex.shape.fits = true

namespace Pattern

/-- A pattern is known by its source. -/
theorem ext_source {p q : Pattern} (h : p.source = q.source) : p = q := by
  obtain ⟨s, r, hr, _⟩ := p
  obtain ⟨s', r', hr', _⟩ := q
  obtain rfl : s = s' := h
  obtain rfl : r = r' := Option.some.inj (hr.symm.trans hr')
  rfl

instance : DecidableEq Pattern := fun p q =>
  if h : p.source = q.source then .isTrue (ext_source h)
  else .isFalse fun h' => h (h' ▸ rfl)

/-- The pattern of a source, if it is read as a regular expression between anchors whose automata
have room. -/
def ofSource? (source : String) : Option Pattern :=
  match h : Regex.parse? (anchored source) with
  | some r => if hr : r.shape.fits = true then some ⟨source, r, h, hr⟩ else none
  | none => none

/-- The pattern of a source has that source. -/
theorem source_ofSource? {source : String} {p : Pattern} (h : ofSource? source = some p) :
    p.source = source := by
  unfold ofSource? at h
  split at h
  · split at h
    · cases h; rfl
    · cases h
  · cases h

/-- The source of a pattern is read into that pattern. -/
theorem ofSource?_source (p : Pattern) : ofSource? p.source = some p := by
  unfold ofSource?
  split
  · rename_i r hr
    obtain rfl : p.regex = r := Option.some.inj (p.parse_anchored.symm.trans hr)
    rw [dif_pos p.fits_shape]
  · rename_i hnone
    rw [p.parse_anchored] at hnone
    cases hnone

/-- A text matches the pattern. -/
def accepts (p : Pattern) (text : String) : Bool := p.regex.occursIn text.toList.toArray

end Pattern

end BiblioQuery
