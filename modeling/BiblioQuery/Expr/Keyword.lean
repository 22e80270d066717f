/-!
# Keywords

The closed sets of words that expressions and provider documents use: operators, match types, case
modes and range kinds.  A keyword is known by its name, which is written in capitals.

## Main definitions

* `Operator`, `MatchType`, `CaseMode`, `RangeKind` : the keywords.
* `Operator.name`, … : the name of a keyword.
* `Operator.ofName?`, … : the keyword of a name.

## Main results

* `Operator.ofName?_eq_some_iff`, … : a name belongs to at most one keyword.
-/

namespace BiblioQuery

/-- The relation that an atom states between a field and a value. -/
inductive Operator where
  /-- The field has a text. -/
  | term
  /-- The field has one of several values. -/
  | member
  /-- The field lies between two bounds. -/
  | range
  /-- The field is present. -/
  | presence
  /-- The field has an identifier of some kind. -/
  | token
  deriving DecidableEq, Repr

/-- How a text is compared with a field. -/
inductive MatchType where
  /-- The words of the text are adjacent and in order. -/
  | phrase
  /-- The text is all of the field. -/
  | exact
  /-- Any word of the text occurs. -/
  | any
  deriving DecidableEq, Repr

/-- Whether capitals and small letters differ. -/
inductive CaseMode where
  /-- They differ. -/
  | sensitive
  /-- They do not differ. -/
  | insensitive
  deriving DecidableEq, Repr

/-- What the bounds of a range are. -/
inductive RangeKind where
  /-- Dates. -/
  | date
  /-- Moments, with or without an offset. -/
  | dateTime
  /-- Numbers. -/
  | number
  deriving DecidableEq, Repr

/-! ### Operators -/

namespace Operator

/-- All operators in order. -/
def all : List Operator := [.term, .member, .range, .presence, .token]

/-- The name of an operator. -/
def name : Operator → String
  | .term => "TERM"
  | .member => "IN"
  | .range => "RANGE"
  | .presence => "EXISTS"
  | .token => "TOKEN"

/-- The operator of a name. -/
def ofName? (s : String) : Option Operator := all.find? fun o => o.name == s

/-- The place of an operator in the order. -/
def index : Operator → Nat
  | .term => 0
  | .member => 1
  | .range => 2
  | .presence => 3
  | .token => 4

/-- A name belongs to at most one operator. -/
theorem ofName?_eq_some_iff {s : String} {o : Operator} : ofName? s = some o ↔ o.name = s := by
  constructor
  · intro h
    simpa using List.find?_some h
  · rintro rfl
    cases o <;> rfl

/-- Operators come in the order of their places. -/
instance : Ord Operator := ⟨compareOn index⟩

instance : Std.TransOrd Operator := inferInstanceAs (Std.TransCmp (compareOn index))

instance : Std.LawfulEqOrd Operator where
  eq_of_compare {a b} h := by cases a <;> cases b <;> first | rfl | cases h

end Operator

/-! ### Match types -/

namespace MatchType

/-- All match types in order. -/
def all : List MatchType := [.phrase, .exact, .any]

/-- The name of a match type. -/
def name : MatchType → String
  | .phrase => "PHRASE"
  | .exact => "EXACT"
  | .any => "ANY"

/-- The match type of a name. -/
def ofName? (s : String) : Option MatchType := all.find? fun m => m.name == s

/-- The place of a match type in the order. -/
def index : MatchType → Nat
  | .phrase => 0
  | .exact => 1
  | .any => 2

/-- A name belongs to at most one match type. -/
theorem ofName?_eq_some_iff {s : String} {m : MatchType} : ofName? s = some m ↔ m.name = s := by
  constructor
  · intro h
    simpa using List.find?_some h
  · rintro rfl
    cases m <;> rfl

/-- Match types come in the order of their places. -/
instance : Ord MatchType := ⟨compareOn index⟩

instance : Std.TransOrd MatchType := inferInstanceAs (Std.TransCmp (compareOn index))

instance : Std.LawfulEqOrd MatchType where
  eq_of_compare {a b} h := by cases a <;> cases b <;> first | rfl | cases h

end MatchType

/-! ### Case modes -/

namespace CaseMode

/-- All case modes. -/
def all : List CaseMode := [.sensitive, .insensitive]

/-- The name of a case mode. -/
def name : CaseMode → String
  | .sensitive => "SENSITIVE"
  | .insensitive => "INSENSITIVE"

/-- The case mode of a name. -/
def ofName? (s : String) : Option CaseMode := all.find? fun m => m.name == s

/-- A name belongs to at most one case mode. -/
theorem ofName?_eq_some_iff {s : String} {m : CaseMode} : ofName? s = some m ↔ m.name = s := by
  constructor
  · intro h
    simpa using List.find?_some h
  · rintro rfl
    cases m <;> rfl

end CaseMode

/-! ### Range kinds -/

namespace RangeKind

/-- All range kinds in order. -/
def all : List RangeKind := [.date, .dateTime, .number]

/-- The name of a range kind. -/
def name : RangeKind → String
  | .date => "DATE"
  | .dateTime => "DATETIME"
  | .number => "NUMBER"

/-- The range kind of a name. -/
def ofName? (s : String) : Option RangeKind := all.find? fun k => k.name == s

/-- A name belongs to at most one range kind. -/
theorem ofName?_eq_some_iff {s : String} {k : RangeKind} : ofName? s = some k ↔ k.name = s := by
  constructor
  · intro h
    simpa using List.find?_some h
  · rintro rfl
    cases k <;> rfl

end RangeKind

end BiblioQuery
