import BiblioQuery.Text.VisibleTable

/-!
# Quoted texts

A text is shown between double quotes.  A quote and a backslash are escaped by a backslash, five
controls have short escapes, and every other character that is not visible is shown as its code
point, `\u` with hexadecimal digits in braces.

## Main definitions

* `Text.hexDigits` : the hexadecimal digits of a number, in lowercase.
* `Text.shownChar` : one character as it is shown between the quotes.
* `Text.quoted` : a text between double quotes.
-/

namespace BiblioQuery.Text

/-- The hexadecimal digits of a number, in lowercase and without leading zeros. -/
def hexDigits (n : Nat) : List Char := Nat.toDigits 16 n

/-- One character as it is shown between the quotes. -/
def shownChar (c : Char) : List Char :=
  if c = '"' then ['\\', '"']
  else if c = '\\' then ['\\', '\\']
  else if c = '\x00' then ['\\', '0']
  else if c = '\t' then ['\\', 't']
  else if c = '\n' then ['\\', 'n']
  else if c = '\r' then ['\\', 'r']
  else if isVisible c then [c]
  else ['\\', 'u', '\x7b'] ++ hexDigits c.toNat ++ ['\x7d']

/-- A text between double quotes, its invisible characters escaped. -/
def quoted (s : String) : String :=
  String.ofList ('"' :: s.toList.flatMap shownChar ++ ['"'])

end BiblioQuery.Text
