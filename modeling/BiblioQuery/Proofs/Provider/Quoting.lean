import BiblioQuery.Provider.Transform
import Mathlib.Data.List.Basic

/-!
# Escaped and quoted texts

A reader that takes the character after a backslash as it stands gets an escaped text back.  The
special characters of an escaped text are backslashes with such a character, or are taken as they
stand themselves; none of them means to the reader what it means elsewhere.  So a text between
double quotes ends at the last of them, whatever is in it.  A text is quoted by replacing
backslashes first and double quotes second, which comes to the same as escaping both in one pass.

## Main definitions

* `Transform.readFrom` : the text before a character that ends it, read with escapes.
* `Transform.unescape` : all of a text, read with escapes.
* `Transform.endsEscaping` : a text ends in a backslash that escapes what follows.
* `Transform.IsEscaped` : what an escaped text is to a reader.

## Main results

* `Transform.readFrom_escape` : an escaped text is read back.
* `Transform.guarded_of_escape` : the special characters of an escaped text mean nothing.
* `Transform.quote_eq` : a quoted text is an escaped one between double quotes.
* `Transform.quote_and_escape_read_back` : quoted and escaped texts in the whole.
-/

namespace BiblioQuery.Transform

variable {special : List Char} {stops : Char → Bool}

/-! ### Reading with escapes -/

/-- The text up to the first character that stops the reader, and the rest from this character on.
The character after a backslash does not stop it and is read without the backslash; `escaping` says
that the reader comes from one. -/
def readFrom (stops : Char → Bool) (escaping : Bool) : List Char → List Char × List Char
  | [] => ([], [])
  | c :: r =>
    if escaping then (readFrom stops false r).map (c :: ·) id
    else if c = '\\' then readFrom stops true r
    else if stops c then ([], c :: r)
    else (readFrom stops false r).map (c :: ·) id

/-- All of a text, where a backslash takes the next character as it stands. -/
def unescape (cs : List Char) : List Char := (readFrom (fun _ => false) false cs).1

/-- The text ends in a backslash that takes what follows as it stands. -/
def endsEscaping (cs : List Char) : Bool :=
  cs.foldl (fun escaping c => !escaping && c == '\\') false

/-- After a text that escapes nothing, another text ends as it does alone. -/
theorem endsEscaping_append {p : List Char} (h : endsEscaping p = false) (q : List Char) :
    endsEscaping (p ++ q) = endsEscaping q := by
  rw [endsEscaping] at h
  rw [endsEscaping, List.foldl_append, h, endsEscaping]

/-! ### Escaped texts -/

theorem escape_cons (special : List Char) (c : Char) (cs : List Char) :
    escape special (c :: cs) = escapeChar special c ++ escape special cs :=
  List.flatMap_cons

/-- An escaped character is read as the character, if all that stops the reader is special. -/
theorem readFrom_escapeChar (hbackslash : '\\' ∈ special)
    (hstops : ∀ c, stops c = true → c ∈ special) (c : Char) (r : List Char) :
    readFrom stops false (escapeChar special c ++ r) =
      (readFrom stops false r).map (c :: ·) id := by
  by_cases hc : c ∈ special
  · simp [escapeChar, hc, readFrom]
  · have hplain : c ≠ '\\' := fun h => hc (h ▸ hbackslash)
    have hpassed : ¬stops c = true := fun h => hc (hstops c h)
    simp [escapeChar, hc, readFrom, hplain, hpassed]

/-- An escaped text is read as the text, and then what follows it. -/
theorem readFrom_escape (hbackslash : '\\' ∈ special) (hstops : ∀ c, stops c = true → c ∈ special)
    (cs r : List Char) :
    readFrom stops false (escape special cs ++ r) = (readFrom stops false r).map (cs ++ ·) id := by
  induction cs with
  | nil => rfl
  | cons c cs ih =>
    rw [escape_cons, List.append_assoc, readFrom_escapeChar hbackslash hstops, ih]
    rfl

/-- An escaped text is read back. -/
theorem unescape_escape (hbackslash : '\\' ∈ special) (cs : List Char) :
    unescape (escape special cs) = cs := by
  have hread : readFrom (fun _ => false) false (escape special cs ++ []) = (cs ++ [], []) :=
    readFrom_escape hbackslash (fun _ h => absurd h Bool.false_ne_true) cs []
  rw [unescape, ← List.append_nil (escape special cs), hread, List.append_nil]

/-- No backslash is left over after an escaped character. -/
theorem endsEscaping_escapeChar (hbackslash : '\\' ∈ special) (c : Char) :
    endsEscaping (escapeChar special c) = false := by
  by_cases hc : c ∈ special
  · simp [escapeChar, hc, endsEscaping]
  · have hplain : c ≠ '\\' := fun h => hc (h ▸ hbackslash)
    simp [escapeChar, hc, endsEscaping, hplain]

/-- No backslash is left over after an escaped text. -/
theorem endsEscaping_escape (hbackslash : '\\' ∈ special) (cs : List Char) :
    endsEscaping (escape special cs) = false := by
  induction cs with
  | nil => rfl
  | cons c cs ih => rw [escape_cons, endsEscaping_append (endsEscaping_escapeChar hbackslash c), ih]

/-- A special character in what one character is written as is the backslash of an escape, or what
stands after it. -/
theorem guarded_of_escapeChar {d c : Char} {p r : List Char}
    (h : escapeChar special d = p ++ c :: r) (hc : c ∈ special) :
    endsEscaping (p ++ [c]) = true ∨ endsEscaping p = true := by
  by_cases hd : d ∈ special
  · simp only [escapeChar, List.contains_iff_mem, hd, if_true] at h
    match p with
    | [] =>
      obtain ⟨rfl, -⟩ := List.cons.inj h
      exact .inl rfl
    | [x] =>
      obtain ⟨rfl, -⟩ := List.cons.inj h
      exact .inr rfl
    | x :: y :: q => simp at h
  · simp only [escapeChar, List.contains_iff_mem, hd, if_false, List.singleton_eq_append_iff,
      reduceCtorEq, and_false, or_false, List.cons.injEq] at h
    exact absurd (h.2.1 ▸ hc) hd

/-- A special character of an escaped text is a backslash that escapes what follows, or comes
directly after one. -/
theorem guarded_of_escape (hbackslash : '\\' ∈ special) {cs p r : List Char} {c : Char}
    (h : escape special cs = p ++ c :: r) (hc : c ∈ special) :
    endsEscaping (p ++ [c]) = true ∨ endsEscaping p = true := by
  induction cs generalizing p with
  | nil => simp [escape] at h
  | cons d cs ih =>
    have hstart := endsEscaping_escapeChar hbackslash d
    rw [escape_cons] at h
    rcases List.append_eq_append_iff.1 h with ⟨q, rfl, hrest⟩ | ⟨q, hfirst, hrest⟩
    · rw [List.append_assoc, endsEscaping_append hstart, endsEscaping_append hstart]
      exact ih hrest
    · cases q with
      | nil =>
        rw [List.append_nil] at hfirst
        rw [← hfirst, endsEscaping_append hstart, hstart]
        exact ih (p := []) hrest.symm
      | cons x q =>
        obtain ⟨rfl, -⟩ := List.cons.inj hrest
        exact guarded_of_escapeChar hfirst hc

/-- What an escaped text is to a reader: it is read back, and no special character of it means what
it means elsewhere. -/
structure IsEscaped (special text escaped : List Char) : Prop where
  /-- The text is read back. -/
  unescape_eq : unescape escaped = text
  /-- Each special character is a backslash that escapes what follows, or comes directly after such
  a backslash. -/
  guarded : ∀ p c r, escaped = p ++ c :: r → c ∈ special →
    endsEscaping (p ++ [c]) = true ∨ endsEscaping p = true
  /-- No backslash is left over for what follows. -/
  endsEscaping_eq : endsEscaping escaped = false

theorem isEscaped_escape (hbackslash : '\\' ∈ special) (cs : List Char) :
    IsEscaped special cs (escape special cs) :=
  ⟨unescape_escape hbackslash cs, fun _ _ _ h hc => guarded_of_escape hbackslash h hc,
    endsEscaping_escape hbackslash cs⟩

/-- Different texts are escaped differently. -/
theorem escape_injective (hbackslash : '\\' ∈ special) : Function.Injective (escape special) :=
  Function.LeftInverse.injective (unescape_escape hbackslash)

/-! ### Quoted texts -/

/-- One replacement after the other comes to one pass over the text, if the backslashes go first. -/
theorem substitute_substitute (cs : List Char) :
    substitute '"' ['\\', '"'] (substitute '\\' ['\\', '\\'] cs) = escape quoteSpecials cs := by
  rw [substitute, substitute, List.flatMap_assoc, escape]
  refine List.flatMap_congr fun c _ => ?_
  by_cases hbackslash : c = '\\'
  · subst hbackslash
    rfl
  · by_cases hquote : c = '"'
    · subst hquote
      rfl
    · simp [escapeChar, quoteSpecials, hbackslash, hquote]

/-- A quoted text is an escaped one between double quotes. -/
theorem quote_eq (s : String) : quote s = "\"" ++ escapeQuotes.apply s ++ "\"" := by
  rw [quote, substitute_substitute, String.ofList_append, String.ofList_cons]
  rfl

/-- The first double quote of a quoted text that is not escaped is the one that closes it, whatever
follows, and what stands before it is read as the text. -/
theorem readFrom_quote (s rest : String) :
    readFrom (· == '"') false (quote s ++ rest).toList.tail = (s.toList, '"' :: rest.toList) := by
  have htail : (quote s ++ rest).toList.tail =
      escape quoteSpecials s.toList ++ '"' :: rest.toList := by
    rw [quote, substitute_substitute, String.toList_append, String.toList_ofList]
    simp
  have hstops : ∀ c, (c == '"') = true → c ∈ quoteSpecials := by simp [quoteSpecials]
  rw [htail, readFrom_escape (by decide) hstops]
  simp [readFrom]

/-- A backslash at the end of a text does not take the closing quote along. -/
example : readFrom (· == '"') false (quote "a\\").toList.tail = (['a', '\\'], ['"']) := by decide

/-- Different texts are quoted differently. -/
theorem quote_injective : Function.Injective quote := by
  intro s t h
  have hread := readFrom_quote s ""
  rw [h, readFrom_quote t ""] at hread
  exact String.toList_injective (congrArg Prod.fst hread).symm

/-- If no two lists of characters are changed in one way, no two texts are. -/
theorem apply_injective {t : Transform} (h : Function.Injective t.applyChars) :
    Function.Injective t.apply := by
  intro v w hvw
  rw [apply, apply, String.ofList_inj] at hvw
  exact String.toList_injective (h hvw)

/-- Quoted and escaped texts cannot be left by what is in them.  A quoted text is the escaped one
between double quotes, and a reader that starts after the first of them is stopped by the last one
and no earlier.  Escaped texts are read back, and what is special in them is escaped or escapes; so
no two texts have one quoted or escaped form. -/
theorem quote_and_escape_read_back :
    (∀ s : String, quote s = "\"" ++ escapeQuotes.apply s ++ "\"" ∧
      (∀ rest : String, readFrom (· == '"') false (quote s ++ rest).toList.tail =
        (s.toList, '"' :: rest.toList)) ∧
      IsEscaped quoteSpecials s.toList (escapeQuotes.apply s).toList ∧
      IsEscaped luceneSpecials s.toList (escapeLucene.apply s).toList) ∧
    Function.Injective quote ∧ Function.Injective escapeQuotes.apply ∧
      Function.Injective escapeLucene.apply := by
  have hquotes : '\\' ∈ quoteSpecials := by decide
  have hlucene : '\\' ∈ luceneSpecials := by decide
  refine ⟨fun s => ⟨quote_eq s, readFrom_quote s, ?_, ?_⟩, quote_injective,
    apply_injective (escape_injective hquotes), apply_injective (escape_injective hlucene)⟩
  · rw [apply, String.toList_ofList]
    exact isEscaped_escape hquotes s.toList
  · rw [apply, String.toList_ofList]
    exact isEscaped_escape hlucene s.toList

end BiblioQuery.Transform
