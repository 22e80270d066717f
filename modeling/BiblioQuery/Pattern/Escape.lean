import BiblioQuery.Number.Text
import BiblioQuery.Pattern.Regex
import BiblioQuery.Text.PropertyValue

/-!
# Flags, escapes and counts of regular expressions

Flags change how the text of a regular expression is read.  In verbose text blanks and comments,
which run from `#` to the end of the line, are skipped between its signs.

An escape is a backslash with what follows it: a character that would have a meaning of its own, the
number of a character, a class, a property of characters, or a condition on a place.

## Main definitions

* `Regex.Flags`, `Regex.FlagSwitch` : flags, and a change of them.
* `Regex.skip` : a text without the blanks and comments that it starts with.
* `Regex.Escape`, `Regex.escape?` : an escape after its backslash.
* `Regex.property?` : the characters with a property, which is told by its name.
* `Regex.counts?` : the counts of a quantifier after its opening brace.

## Main results

* `Regex.Flags.skip_of_not_verbose` : only verbose text has anything to skip.
-/

namespace BiblioQuery.Regex

/-! ### Flags -/

/-- What the letters after an opening parenthesis switch. -/
structure Flags where
  /-- Case is irrelevant. -/
  ignoreCase : Bool
  /-- The anchors are those of lines. -/
  multiLine : Bool
  /-- The dot matches a line end. -/
  dotAll : Bool
  /-- Quantifiers are lazy unless they are marked. -/
  swapGreed : Bool
  /-- A carriage return ends a line too. -/
  crlf : Bool
  /-- Classes have characters of all scripts. -/
  unicode : Bool
  /-- Blanks and comments are skipped. -/
  verbose : Bool
  deriving DecidableEq

/-- The flags before any switch. -/
def Flags.initial : Flags := ⟨false, false, false, false, false, true, false⟩

/-- A change of flags. -/
structure FlagSwitch where
  /-- The letters switched on. -/
  on : List Char
  /-- The letters switched off. -/
  off : List Char
  deriving DecidableEq

/-- The flags after a switch. -/
def FlagSwitch.apply (w : FlagSwitch) (f : Flags) : Flags :=
  let after (c : Char) (b : Bool) : Bool := (b || w.on.contains c) && !w.off.contains c
  ⟨after 'i' f.ignoreCase, after 'm' f.multiLine, after 's' f.dotAll, after 'U' f.swapGreed,
    after 'R' f.crlf, after 'u' f.unicode, after 'x' f.verbose⟩

/-- A text without the blanks and comments that it starts with; the flag tells that it starts in a
comment. -/
def skipFrom : Bool → List Char → List Char
  | _, [] => []
  | true, c :: r => skipFrom (c != '\n') r
  | false, c :: r =>
    if Text.isBlank c then skipFrom false r
    else if c = '#' then skipFrom true r
    else c :: r

/-- A text without what is skipped at its start. -/
def skip (f : Flags) (s : List Char) : List Char := if f.verbose then skipFrom false s else s

/-- Only verbose text has anything to skip. -/
@[simp]
theorem Flags.skip_of_not_verbose {f : Flags} (h : f.verbose = false) (s : List Char) :
    skip f s = s := by
  simp [skip, h]

/-! ### Escapes -/

/-- A character that has a meaning of its own unless it is escaped. -/
def isMeta (c : Char) : Bool := "\\.+*?()|[]\x7b\x7d^$#&-~".toList.contains c

/-- A character that may be escaped and then stands for itself. -/
def isEscapable (c : Char) : Bool :=
  isMeta c || (c.toNat < 0x80 && !c.isAlphanum && c != '<' && c != '>')

/-- What an escape stands for. -/
inductive Escape where
  /-- A character. -/
  | char (c : Char)
  /-- A set of characters. -/
  | set (s : CharSet)
  /-- A condition on a place. -/
  | assertion (a : Assertion)

/-- The value of a hexadecimal digit. -/
def hexDigit? (c : Char) : Option Nat :=
  if '0' ≤ c ∧ c ≤ '9' then some (c.toNat - '0'.toNat)
  else if 'a' ≤ c ∧ c ≤ 'f' then some (c.toNat - 'a'.toNat + 10)
  else if 'A' ≤ c ∧ c ≤ 'F' then some (c.toNat - 'A'.toNat + 10)
  else none

/-- The characters of a kind that a text starts with, at most as many as given, and the rest; what
is skipped may stand between them. -/
def takeKind (f : Flags) (kind : Char → Bool) : Nat → List Char → List Char × List Char
  | 0, s => ([], s)
  | n + 1, s =>
    match skip f s with
    | [] => ([], [])
    | c :: r =>
      if kind c then
        let (taken, rest) := takeKind f kind n r
        (c :: taken, rest)
      else ([], c :: r)

/-- The number of a list of hexadecimal digits, at least one. -/
def hexNumber? : List Char → Option Nat
  | [] => none
  | cs => cs.foldlM (fun n c => (hexDigit? c).map (16 * n + ·)) 0

/-- The character of a list of hexadecimal digits. -/
def hexChar? (cs : List Char) : Option Char :=
  (hexNumber? cs).bind fun n => if h : n.isValidChar then some ⟨n.toUInt32, by
    rcases h with h | h
    · left; simp only [Nat.toUInt32, UInt32.toNat_ofNat']; omega
    · right; simp only [Nat.toUInt32, UInt32.toNat_ofNat']; omega⟩ else none

/-- The character of an escape with hexadecimal digits: the given count of them, or any number in
braces. -/
def hexEscape? (f : Flags) (digits : Nat) (s : List Char) : Option (Char × List Char) :=
  let isHex (c : Char) : Bool := (hexDigit? c).isSome
  match skip f s with
  | '\x7b' :: r =>
    match takeKind f isHex (r.length + 1) r with
    | (ds, '\x7d' :: rest) => (hexChar? ds).map fun c => (c, rest)
    | _ => none
  | s' =>
    let (ds, rest) := takeKind f isHex digits s'
    if ds.length = digits then (hexChar? ds).map fun c => (c, rest) else none

/-- The character of an escape with two hexadecimal digits, or with digits in braces.  Without the
braces it stands for a byte, so that beyond ASCII it needs characters of all scripts. -/
def byteEscape? (f : Flags) (s : List Char) : Option (Char × List Char) :=
  match hexEscape? f 2 s with
  | some (c, r) =>
    if f.unicode || c.toNat < 0x80 || (skip f s).head? == some '\x7b' then some (c, r) else none
  | none => none

/-- The condition that the name after a word assertion tells. -/
def wordPlace? (name : List Char) : Option WordPlace :=
  match String.ofList name with
  | "start" => some .start
  | "end" => some .finish
  | "start-half" => some .startHalf
  | "end-half" => some .endHalf
  | _ => none

/-- Reads the name of a condition in braces after a word assertion, if the braces hold one and not a
count. -/
def boundary? (f : Flags) : List Char → Option (WordPlace × List Char)
  | '\x7b' :: r =>
    let isNamePart (c : Char) : Bool := c.isAlpha || c == '-'
    match skip f r with
    | [] => none
    | c :: r' =>
      if isNamePart c then
        match takeKind f isNamePart (r'.length + 1) (c :: r') with
        | (name, '\x7d' :: rest) => (wordPlace? name).map fun p => (p, rest)
        | _ => none
      else some (.boundary, '\x7b' :: r)
  | r => some (.boundary, r)

/-- What stands before and after the first place of a sign in a text. -/
def cutAt (sign : List Char) : List Char → Option (List Char × List Char)
  | [] => none
  | c :: r =>
    if sign.isPrefixOf (c :: r) then some ([], (c :: r).drop sign.length)
    else (cutAt sign r).map fun p => (c :: p.1, p.2)

/-- The characters with a property: a name alone, or a name and a value with a sign between. -/
def propertySet? (text : List Char) : Option CharSet :=
  let parts := (cutAt ['!', '='] text).or ((cutAt [':'] text).or (cutAt ['='] text))
  match parts with
  | some (name, value) => (Text.namedValueRanges? name value).map .listed
  | none => (Text.namedRanges? text).map .listed

/-- Reads the property after its letter: one letter, or a name in braces. -/
def property? (f : Flags) (s : List Char) : Option (CharSet × List Char) :=
  match skip f s with
  | [] => none
  | '\x7b' :: r =>
    match takeKind f (· != '\x7d') (r.length + 1) r with
    | (text, '\x7d' :: rest) => (propertySet? text).map fun set => (set, rest)
    | _ => none
  | c :: r => if c = '\\' then none else (propertySet? [c]).map fun set => (set, r)

/-- A class of all scripts, or its part of ASCII as the flags have it. -/
def Flags.choose (f : Flags) (all ascii : CharSet) : CharSet := if f.unicode then all else ascii

/-- The complement of a set, which has to hold characters of all scripts. -/
def Flags.compl? (f : Flags) (s : CharSet) : Option CharSet :=
  if f.unicode then some (.compl s) else none

/-- Reads an escape after its backslash. -/
def escape? (f : Flags) : List Char → Option (Escape × List Char)
  | [] => none
  | c :: r =>
    let char (d : Char) : Option (Escape × List Char) := some (.char d, r)
    let word (p : WordPlace) : Escape := .assertion (.word (!f.unicode) p)
    let digits := f.choose .digit .asciiDigit
    let blanks := f.choose .blank .asciiBlank
    let words := f.choose .word .asciiWord
    match c with
    | 'x' => (byteEscape? f r).map fun p => (.char p.1, p.2)
    | 'u' => (hexEscape? f 4 r).map fun p => (.char p.1, p.2)
    | 'U' => (hexEscape? f 8 r).map fun p => (.char p.1, p.2)
    | 'd' => some (.set digits, r)
    | 'D' => (f.compl? digits).map fun s => (.set s, r)
    | 's' => some (.set blanks, r)
    | 'S' => (f.compl? blanks).map fun s => (.set s, r)
    | 'w' => some (.set words, r)
    | 'W' => (f.compl? words).map fun s => (.set s, r)
    | 'p' => if f.unicode then (property? f r).map fun p => (.set p.1, p.2) else none
    | 'P' =>
      match property? f r with
      | some (set, r') => (f.compl? set).map fun s => (.set s, r')
      | none => none
    | 'a' => char '\x07'
    | 'f' => char '\x0c'
    | 't' => char '\t'
    | 'n' => char '\n'
    | 'r' => char '\r'
    | 'v' => char '\x0b'
    | 'A' => some (.assertion .textStart, r)
    | 'z' => some (.assertion .textEnd, r)
    | 'b' => (boundary? f r).map fun p => (word p.1, p.2)
    | 'B' => some (word .noBoundary, r)
    | '<' => some (word .start, r)
    | '>' => some (word .finish, r)
    | c => if isEscapable c then char c else none

/-! ### Counts -/

/-- Reads a number with blanks around it. -/
def countNumber? (f : Flags) (s : List Char) : Option (Nat × List Char) :=
  match takeKind f Char.isDigit (s.length + 1) (Text.trimStart (skip f s)) with
  | ([], _) => none
  | (ds, r) =>
    let n := digitsValue ds
    if n < UInt32.size then some (n, Text.trimStart r) else none

/-- Reads the counts of a quantifier after its opening brace. -/
def counts? (f : Flags) (s : List Char) : Option ((Nat × Option Nat) × List Char) :=
  match countNumber? f s with
  | some (n, '\x7d' :: r) => some ((n, some n), r)
  | some (n, ',' :: r) =>
    match skip f r with
    | '\x7d' :: r' => some ((n, none), r')
    | r' =>
      match countNumber? f r' with
      | some (m, '\x7d' :: r'') => if n ≤ m then some ((n, some m), r'') else none
      | _ => none
  | _ => none

end BiblioQuery.Regex
