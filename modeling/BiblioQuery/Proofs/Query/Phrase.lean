import BiblioQuery.Expr.Basic
import Mathlib.Tactic.MkIffOfInductiveProp

/-!
# Phrases

A query in the standard dialect is a word, or `NOT` and a query, or two or more queries between
round brackets, with `AND` between all of them or with `OR`.  A phrase is a derivation by this
grammar, and its text is the query that is derived, so that a query has as many readings as there
are phrases with its text.  There is one at most: read from the left, a text shows which rule it was
derived by and where what is derived stops.

## Main definitions

* `IsWord`, `Word` : the words of queries.
* `Phrase` : the readings of queries, with `Phrase.text`.
* `Phrase.lead` : the word that a phrase shows first.

## Main results

* `Phrase.takeWhile_text` : the signs before the first separator are the leading word.
* `Phrase.eq_of_text_append` : a phrase is known from any text that it stands at the front of, if no
  word runs over its end.
* `Phrase.text_injective` : a text has one reading at most.
-/

namespace BiblioQuery

/-! ### Words -/

/-- The signs that words end at. -/
def isSeparator (c : Char) : Bool := c == ' ' || c == '(' || c == ')'

/-- The text is neither empty nor a keyword, and no separator is in it. -/
@[mk_iff]
structure IsWord (s : String) : Prop where
  /-- There is something. -/
  nonempty : s ≠ ""
  /-- No separator is in it. -/
  plain : s.toList.any isSeparator = false
  /-- It is no keyword. -/
  noKeyword : s ∉ ["NOT", "AND", "OR"]

instance (s : String) : Decidable (IsWord s) := decidable_of_iff _ (isWord_iff s).symm

/-- A word of a query. -/
structure Word where
  /-- The text. -/
  text : String
  /-- The text is one of a word. -/
  isWord : IsWord text
  deriving DecidableEq

/-- The word of a text. -/
def Word.ofText? (s : String) : Option Word := if h : IsWord s then some ⟨s, h⟩ else none

/-! ### Phrases -/

/-- What stands between the members of a group. -/
def Connective.spaced (c : Connective) : String := " " ++ c.word ++ " "

/-- A reading of a query, one constructor for each rule of the grammar. -/
inductive Phrase where
  /-- A word. -/
  | word (w : Word)
  /-- The opposite of a phrase. -/
  | denial (inner : Phrase)
  /-- Two or more phrases of one connective. -/
  | group (c : Connective) (first second : Phrase) (more : List Phrase)

namespace Phrase

mutual

/-- The text of a phrase. -/
def text : Phrase → String
  | .word w => w.text
  | .denial p => "NOT " ++ p.text
  | .group c p q ps => "(" ++ (p.text ++ (c.spaced ++ q.text ++ textOfMore c ps)) ++ ")"

/-- The text of the members of a group after the first, each with what stands before it. -/
def textOfMore (c : Connective) : List Phrase → String
  | [] => ""
  | p :: ps => c.spaced ++ p.text ++ textOfMore c ps

end

/-- The word that a phrase shows first; a group shows none. -/
def lead : Phrase → String
  | .word w => w.text
  | .denial _ => "NOT"
  | .group _ _ _ _ => ""

variable {c d : Connective} {p q : Phrase} {r t : List Char}

/-- No phrase has an empty text. -/
theorem text_ne_empty (p : Phrase) : p.text ≠ "" := by
  intro h
  cases p with
  | word w => exact w.isWord.nonempty h
  | denial p => simpa [text] using congrArg String.toList h
  | group c p q ps => simpa [text] using congrArg String.toList h

/-- No word runs over the start of the text. -/
def StopsWords (r : List Char) : Prop := ∀ c ∈ r.head?, isSeparator c = true

theorem stopsWords_nil : StopsWords [] := nofun

theorem stopsWords_close : StopsWords (')' :: r) := by
  simp [StopsWords, isSeparator]

theorem stopsWords_spaced : StopsWords (c.spaced.toList ++ r) := by
  simp [StopsWords, isSeparator, Connective.spaced]

/-- After a member of a group there is a space or the closing bracket. -/
theorem stopsWords_textOfMore (c : Connective) (ps : List Phrase) :
    StopsWords ((textOfMore c ps).toList ++ ')' :: r) := by
  cases ps with
  | nil => exact stopsWords_close
  | cons p ps =>
    rw [textOfMore, String.toList_append, String.toList_append, List.append_assoc,
      List.append_assoc]
    exact stopsWords_spaced

/-- The signs before the first separator are those of a text that has none. -/
theorem takeWhile_plain {cs : List Char} (hcs : cs.any isSeparator = false)
    (hr : StopsWords r) : (cs ++ r).takeWhile (!isSeparator ·) = cs := by
  rw [List.takeWhile_append_of_pos (by simpa using hcs)]
  cases r with
  | nil => simp
  | cons x xs =>
    have hx : isSeparator x = true := hr x rfl
    simp [hx]

/-- The signs before the first separator are the leading word. -/
theorem takeWhile_text (p : Phrase) (hr : StopsWords r) :
    (p.text.toList ++ r).takeWhile (!isSeparator ·) = p.lead.toList := by
  cases p with
  | word w => exact takeWhile_plain w.isWord.plain hr
  | denial p => simp [text, lead, isSeparator]
  | group c p q ps => simp [text, lead, isSeparator]

theorem lead_eq_of_text_append (hr : StopsWords r) (ht : StopsWords t)
    (h : p.text.toList ++ r = q.text.toList ++ t) : p.lead = q.lead := by
  have hwhile := congrArg (List.takeWhile (!isSeparator ·)) h
  rw [takeWhile_text p hr, takeWhile_text q ht] at hwhile
  exact String.toList_injective hwhile

/-- The connective is known from what stands between the members of a group. -/
theorem spaced_append_inj
    (h : c.spaced.toList ++ r = d.spaced.toList ++ t) : c = d ∧ r = t := by
  cases c <;> cases d <;> simp_all [Connective.spaced, Connective.word]

/-! ### One reading -/

mutual

/-- A phrase is known from any text that it stands at the front of, if no word runs over its
end. -/
theorem eq_of_text_append : (p q : Phrase) → {r t : List Char} → StopsWords r → StopsWords t →
    p.text.toList ++ r = q.text.toList ++ t → p = q ∧ r = t
  | .word v, .word w, _, _, hr, ht, h => by
    have htext : v.text = w.text := lead_eq_of_text_append hr ht h
    simp only [text, htext, List.append_cancel_left_eq] at h
    cases v
    cases w
    exact ⟨by simpa using htext, h⟩
  | .denial p, .denial q, _, _, hr, ht, h => by
    simp only [text, String.toList_append, List.append_assoc, List.append_cancel_left_eq] at h
    obtain ⟨rfl, hrest⟩ := eq_of_text_append p q hr ht h
    exact ⟨rfl, hrest⟩
  | .group c p p' ps, .group d q q' qs, _, _, _, _, h => by
    simp only [text, String.toList_append, List.append_assoc, List.append_cancel_left_eq] at h
    obtain ⟨rfl, hfirst⟩ := eq_of_text_append p q stopsWords_spaced stopsWords_spaced h
    obtain ⟨rfl, hsecond⟩ := spaced_append_inj hfirst
    obtain ⟨rfl, hmore⟩ := eq_of_text_append p' q' (stopsWords_textOfMore c ps)
      (stopsWords_textOfMore c qs) hsecond
    obtain ⟨rfl, hrest⟩ := eq_of_textOfMore_append c ps qs hmore
    exact ⟨rfl, hrest⟩
  -- phrases of two kinds show different words first
  | .word w, .denial _, _, _, hr, ht, h => by
    have hlead : w.text = "NOT" := lead_eq_of_text_append hr ht h
    exact absurd (by simp [hlead]) w.isWord.noKeyword
  | .denial _, .word w, _, _, hr, ht, h => by
    have hlead : "NOT" = w.text := lead_eq_of_text_append hr ht h
    exact absurd (by simp [← hlead]) w.isWord.noKeyword
  | .word w, .group _ _ _ _, _, _, hr, ht, h =>
    absurd (lead_eq_of_text_append hr ht h) w.isWord.nonempty
  | .group _ _ _ _, .word w, _, _, hr, ht, h =>
    absurd (lead_eq_of_text_append hr ht h).symm w.isWord.nonempty
  | .denial _, .group _ _ _ _, _, _, hr, ht, h =>
    absurd (lead_eq_of_text_append hr ht h) (by decide : "NOT" ≠ "")
  | .group _ _ _ _, .denial _, _, _, hr, ht, h =>
    absurd (lead_eq_of_text_append hr ht h) (by decide : "" ≠ "NOT")

/-- The members of a group are known from any text that they stand at the front of, up to the
closing bracket. -/
theorem eq_of_textOfMore_append (c : Connective) : (ps qs : List Phrase) → {r t : List Char} →
    (textOfMore c ps).toList ++ ')' :: r = (textOfMore c qs).toList ++ ')' :: t → ps = qs ∧ r = t
  | [], [], _, _, h => by simpa [textOfMore] using h
  | [], q :: qs, _, _, h => by simp [textOfMore, Connective.spaced] at h
  | p :: ps, [], _, _, h => by simp [textOfMore, Connective.spaced] at h
  | p :: ps, q :: qs, _, _, h => by
    simp only [textOfMore, String.toList_append, List.append_assoc, List.append_cancel_left_eq] at h
    obtain ⟨rfl, hmore⟩ := eq_of_text_append p q (stopsWords_textOfMore c ps)
      (stopsWords_textOfMore c qs) h
    obtain ⟨rfl, hrest⟩ := eq_of_textOfMore_append c ps qs hmore
    exact ⟨rfl, hrest⟩

end

/-- A text has one reading at most. -/
theorem text_injective : Function.Injective text := by
  intro p q h
  exact (eq_of_text_append p q stopsWords_nil stopsWords_nil (by rw [h])).1

end Phrase

end BiblioQuery
