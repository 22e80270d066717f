import BiblioQuery.Json.Basic
import BiblioQuery.Text.Quoted

/-!
# Writing JSON

A value is written compactly, without any blank, or with one item or field a line and two blanks of
indentation a level.  In a string only the quote, the backslash and the characters below the space
are escaped.

## Main definitions

* `Json.escapedChar`, `Json.quotedChars` : strings.
* `Json.compactChars`, `Json.compact` : the compact text of a value.
* `Json.prettyChars`, `Json.pretty` : the indented text of a value.
-/

namespace BiblioQuery.Json

/-! ### Scalars -/

/-- One character as it stands inside a string. -/
def escapedChar (c : Char) : List Char :=
  if c = '"' then ['\\', '"']
  else if c = '\\' then ['\\', '\\']
  else if 0x20 ≤ c.toNat then [c]
  else if c = '\x08' then ['\\', 'b']
  else if c = '\t' then ['\\', 't']
  else if c = '\n' then ['\\', 'n']
  else if c = '\x0c' then ['\\', 'f']
  else if c = '\r' then ['\\', 'r']
  else ['\\', 'u', '0', '0', Nat.digitChar (c.toNat / 16), Nat.digitChar (c.toNat % 16)]

/-- A string between its quotes. -/
def quotedChars (s : String) : List Char := '"' :: s.toList.flatMap escapedChar ++ ['"']

/-- The digits of a whole number, with its sign. -/
def integerChars (n : Int) : List Char :=
  if n < 0 then '-' :: decimalDigits n.natAbs else decimalDigits n.natAbs

/-- A number. -/
def Numeral.chars : Numeral → List Char
  | .integer n => integerChars n
  | .binary x => x.canonicalChars

/-- A value without items: a scalar. -/
def boolChars (b : Bool) : List Char := if b then "true".toList else "false".toList

/-! ### Compact texts -/

mutual

/-- The text of a value without any blank. -/
def compactChars : Json → List Char
  | .null => "null".toList
  | .bool b => boolChars b
  | .number n => n.chars
  | .string s => quotedChars s
  | .array [] => ['[', ']']
  | .array (j :: r) => '[' :: compactChars j ++ compactItems r
  | .object [] => ['\x7b', '\x7d']
  | .object ((k, j) :: r) => '\x7b' :: quotedChars k ++ ':' :: compactChars j ++ compactFields r

/-- The items after the first one, each after a comma, and the closing bracket. -/
def compactItems : List Json → List Char
  | [] => [']']
  | j :: r => ',' :: compactChars j ++ compactItems r

/-- The fields after the first one, each after a comma, and the closing brace. -/
def compactFields : List (String × Json) → List Char
  | [] => ['\x7d']
  | (k, j) :: r => ',' :: quotedChars k ++ ':' :: compactChars j ++ compactFields r

end

/-- The text of a value without any blank. -/
def compact (j : Json) : String := String.ofList (compactChars j)

/-! ### Indented texts -/

/-- The start of a line at the given level. -/
def newLine (level : Nat) : List Char := '\n' :: List.replicate (2 * level) ' '

mutual

/-- The text of a value at a level, one item or field a line. -/
def prettyChars (level : Nat) : Json → List Char
  | .null => "null".toList
  | .bool b => boolChars b
  | .number n => n.chars
  | .string s => quotedChars s
  | .array [] => ['[', ']']
  | .array (j :: r) =>
    '[' :: newLine (level + 1) ++ prettyChars (level + 1) j ++ prettyItems level r
  | .object [] => ['\x7b', '\x7d']
  | .object ((k, j) :: r) =>
    '\x7b' :: newLine (level + 1) ++ quotedChars k ++ ':' :: ' ' :: prettyChars (level + 1) j ++
      prettyFields level r

/-- The items after the first one, and the closing bracket on a line of its own. -/
def prettyItems (level : Nat) : List Json → List Char
  | [] => newLine level ++ [']']
  | j :: r => ',' :: newLine (level + 1) ++ prettyChars (level + 1) j ++ prettyItems level r

/-- The fields after the first one, and the closing brace on a line of its own. -/
def prettyFields (level : Nat) : List (String × Json) → List Char
  | [] => newLine level ++ ['\x7d']
  | (k, j) :: r =>
    ',' :: newLine (level + 1) ++ quotedChars k ++ ':' :: ' ' :: prettyChars (level + 1) j ++
      prettyFields level r

end

/-- The text of a value with one item or field a line. -/
def pretty (j : Json) : String := String.ofList (prettyChars 0 j)

end BiblioQuery.Json
