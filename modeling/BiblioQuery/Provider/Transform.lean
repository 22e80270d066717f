import BiblioQuery.Text.Blank
import BiblioQuery.Text.Case

/-!
# Transforms

A rule may change the text of a value before it is put into a query: its case, the blanks around it,
the characters that mean something to the provider, or the shape of a date.

## Main definitions

* `Transform` : the changes, with their names.
* `Transform.escape` : a text with a backslash before every special character.
* `Transform.substitute` : a text with a character replaced everywhere.
* `Transform.quote` : a text between double quotes.
* `Transform.apply` : the changed text.

## Main results

* `Transform.escape_append` : escaping goes through a text from one end to the other.
-/

namespace BiblioQuery

/-- A change of a text. -/
inductive Transform where
  /-- Small letters only. -/
  | lowercase
  /-- Capitals only. -/
  | uppercase
  /-- No blanks at either end. -/
  | trim
  /-- A backslash before every double quote and backslash. -/
  | escapeQuotes
  /-- A backslash before every character that the Lucene query syntax gives a meaning. -/
  | escapeLucene
  /-- No hyphens and colons. -/
  | compactDate
  /-- The digits that the text starts with. -/
  | year
  deriving DecidableEq

namespace Transform

/-- All transforms. -/
def all : List Transform :=
  [.lowercase, .uppercase, .trim, .escapeQuotes, .escapeLucene, .compactDate, .year]

/-- The name of a transform. -/
def name : Transform → String
  | .lowercase => "lowercase"
  | .uppercase => "uppercase"
  | .trim => "trim"
  | .escapeQuotes => "escape_quotes"
  | .escapeLucene => "escape_lucene"
  | .compactDate => "compact_date"
  | .year => "year"

/-- The transform of a name. -/
def ofName? (s : String) : Option Transform := all.find? fun t => t.name == s

/-- A name belongs to at most one transform. -/
theorem ofName?_eq_some_iff {s : String} {t : Transform} : ofName? s = some t ↔ t.name = s := by
  constructor
  · intro h
    simpa using List.find?_some h
  · rintro rfl
    cases t <;> rfl

/-! ### Escapes -/

/-- A character with a backslash before it if it is special. -/
def escapeChar (special : List Char) (c : Char) : List Char :=
  if special.contains c then ['\\', c] else [c]

/-- A text with a backslash before every special character. -/
def escape (special cs : List Char) : List Char := cs.flatMap (escapeChar special)

/-- Escaping goes through a text from one end to the other. -/
@[simp]
theorem escape_append (special s t : List Char) :
    escape special (s ++ t) = escape special s ++ escape special t :=
  List.flatMap_append

/-- The characters that are special between double quotes. -/
def quoteSpecials : List Char := ['"', '\\']

/-- The characters that the Lucene query syntax gives a meaning. -/
def luceneSpecials : List Char :=
  ['+', '-', '!', '(', ')', '\x7b', '\x7d', '[', ']', '^', '"', '~', '*', '?', ':', '\\', '/', '&',
    '|']

/-- A text with another text in the place of every occurrence of a character. -/
def substitute (c : Char) (text cs : List Char) : List Char :=
  cs.flatMap fun d => if d = c then text else [d]

/-- A text between double quotes.  Its backslashes are doubled first, so that those which its double
quotes get are not. -/
def quote (s : String) : String :=
  let doubled := substitute '\\' ['\\', '\\'] s.toList
  String.ofList ('"' :: substitute '"' ['\\', '"'] doubled ++ ['"'])

/-! ### Application -/

/-- The changed characters of a text. -/
def applyChars (t : Transform) (cs : List Char) : List Char :=
  match t with
  | .lowercase => Text.lower cs
  | .uppercase => Text.upper cs
  | .trim => Text.trim cs
  | .escapeQuotes => escape quoteSpecials cs
  | .escapeLucene => escape luceneSpecials cs
  | .compactDate => cs.filter fun c => c != '-' && c != ':'
  | .year => cs.takeWhile Char.isDigit

/-- The changed text. -/
def apply (t : Transform) (s : String) : String := String.ofList (t.applyChars s.toList)

end Transform

end BiblioQuery
