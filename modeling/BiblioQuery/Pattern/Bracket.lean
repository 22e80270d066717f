import BiblioQuery.Pattern.Escape

/-!
# Classes in square brackets

A class lists characters, ranges, escapes, named classes of ASCII and further classes.  Doubled
signs between its parts keep the characters of both parts (`&&`), of the first part only (`--`) or
of exactly one part (`~~`).

Every class, every list of several items and every operation counts as one level of depth, because
the depth of an expression is bounded.

## Main definitions

* `Regex.Bracket` : a set with its depth.
* `Regex.asciiClass?` : the named classes of ASCII.
* `Regex.bracket?` : the class after an opening bracket.
-/

namespace BiblioQuery.Regex

/-- A set of characters with the depth of the class that describes it. -/
structure Bracket where
  /-- The set. -/
  set : CharSet
  /-- The depth. -/
  depth : Nat

/-! ### Items -/

/-- An item of a class: a character, which may start a range, or a set. -/
inductive ClassItem where
  /-- A character. -/
  | char (c : Char)
  /-- A set of characters. -/
  | set (s : CharSet)

/-- The set of an item. -/
def ClassItem.toSet : ClassItem → CharSet
  | .char c => .single c
  | .set s => s

/-- The item is read under the flags: classes of ASCII take no other characters. -/
def ClassItem.isAllowed (f : Flags) : ClassItem → Bool
  | .char c => f.unicode || c.toNat < 0x80
  | .set _ => true

/-- Reads an item of a class. -/
def classItem? (f : Flags) : List Char → Option (ClassItem × List Char)
  | [] => none
  | '\\' :: r =>
    match escape? f r with
    | some (.char c, r') => some (.char c, r')
    | some (.set s, r') => some (.set s, r')
    | _ => none
  | c :: r => some (.char c, r)

/-- The first character after a hyphen in a class; a comment sign that precedes it in verbose text
is passed over. -/
def afterHyphen (f : Flags) (s : List Char) : Option Char :=
  if f.verbose then
    match s.dropWhile Text.isBlank with
    | '#' :: r => (r.dropWhile Text.isBlank).head?
    | r => r.head?
  else s.head?

/-- Reads an item, or a range from one character to a later one. -/
def classRange? (f : Flags) (s : List Char) : Option (CharSet × List Char) :=
  match classItem? f s with
  | none => none
  | some (item, r) =>
    if item.isAllowed f then
      match skip f r with
      | '-' :: r' =>
        if afterHyphen f r' = some ']' ∨ afterHyphen f r' = some '-' then
          some (item.toSet, '-' :: r')
        else
          match item, classItem? f (skip f r') with
          | .char a, some (.char b, rest) =>
            if a ≤ b ∧ (ClassItem.char b).isAllowed f then some (.range a b, rest) else none
          | _, _ => none
      | r' => some (item.toSet, r')
    else none

/-- The classes of ASCII that have names. -/
def asciiClass? (name : List Char) : Option CharSet :=
  match String.ofList name with
  | "alnum" => some .asciiAlphanumeric
  | "alpha" => some .asciiLetter
  | "ascii" => some .ascii
  | "blank" => some (.union (.single '\t') (.single ' '))
  | "cntrl" => some (.union (.range '\x00' '\x1f') (.single '\x7f'))
  | "digit" => some .asciiDigit
  | "graph" => some (.range '!' '~')
  | "lower" => some (.range 'a' 'z')
  | "print" => some (.range ' ' '~')
  | "punct" => some (.diff (.range '!' '~') .asciiAlphanumeric)
  | "space" => some .asciiBlank
  | "upper" => some (.range 'A' 'Z')
  | "word" => some .asciiWord
  | "xdigit" => some (.union .asciiDigit (.union (.range 'a' 'f') (.range 'A' 'F')))
  | _ => none

/-- Reads the name of a class of ASCII after its opening bracket: colons around the name, a caret
that tells the complement, and the closing bracket. -/
def namedClass? : List Char → Option ((Bool × CharSet) × List Char)
  | ':' :: r =>
    let (negated, r) :=
      match r with
      | '^' :: r' => (true, r')
      | r => (false, r)
    match asciiClass? (r.takeWhile (· != ':')), r.dropWhile (· != ':') with
    | some s, ':' :: ']' :: r' => some ((negated, s), r')
    | _, _ => none
  | _ => none

/-! ### Parts -/

/-- An operation between the parts of a class. -/
inductive ClassOp where
  /-- The characters of both parts. -/
  | inter
  /-- The characters of the first part only. -/
  | diff
  /-- The characters of exactly one part. -/
  | symmDiff

/-- The result of an operation. -/
def ClassOp.apply : ClassOp → CharSet → CharSet → CharSet
  | .inter, s, t => .inter s t
  | .diff, s, t => .diff s t
  | .symmDiff, s, t => .symmDiff s t

/-- The items of a part of a class that have been read. -/
structure ClassPart where
  /-- The characters of the items. -/
  set : CharSet
  /-- The number of items. -/
  count : Nat
  /-- The depth of the deepest item. -/
  depth : Nat

/-- A part without items. -/
def ClassPart.empty : ClassPart := ⟨.empty, 0, 0⟩

/-- A part with one more item. -/
def ClassPart.add (p : ClassPart) (b : Bracket) : ClassPart :=
  ⟨if p.count = 0 then b.set else .union p.set b.set, p.count + 1, max p.depth b.depth⟩

/-- The set of a part; several items are one level deeper than one. -/
def ClassPart.close (p : ClassPart) : Bracket :=
  ⟨p.set, if p.count ≤ 1 then p.depth else p.depth + 1⟩

/-- The parts of a class before the one at hand, with the operation that waits for it. -/
abbrev ClassPrefix := Option (Bracket × ClassOp)

/-- The set of a class up to the end of the part at hand. -/
def ClassPrefix.close (before : ClassPrefix) (part : ClassPart) : Bracket :=
  match before with
  | some (b, op) => ⟨op.apply b.set part.close.set, max b.depth part.close.depth + 1⟩
  | none => part.close

/-! ### Classes -/

/-- Reads the hyphens, or the closing bracket, that a class may start with as plain characters; the
fuel bounds the characters that are left. -/
def classHead (f : Flags) : Nat → ClassPart → List Char → ClassPart × List Char
  | 0, part, s => (part, s)
  | fuel + 1, part, s =>
    match s with
    | '-' :: r => classHead f fuel (part.add ⟨.single '-', 0⟩) (skip f r)
    | ']' :: r => if part.count = 0 then (part.add ⟨.single ']', 0⟩, skip f r) else (part, s)
    | _ => (part, s)

/-- Reads the start of a class after its opening bracket: the caret that tells the complement, and
what is a plain character only here. -/
def classStart (f : Flags) (s : List Char) : Bool × ClassPart × List Char :=
  match skip f s with
  | '^' :: r => (true, classHead f (r.length + 1) .empty (skip f r))
  | s' => (false, classHead f (s'.length + 1) .empty s')

/-- Reads a class after its start; the fuel bounds the characters that are left. -/
def classFrom? (f : Flags) : Nat → Bool → ClassPrefix → ClassPart → List Char →
    Option (Bracket × List Char)
  | 0, _, _, _, _ => none
  | fuel + 1, negated, before, part, s =>
    match skip f s with
    | [] => none
    | ']' :: r =>
      let b := before.close part
      if negated then (f.compl? b.set).map fun set => (⟨set, b.depth + 1⟩, r)
      else some (⟨b.set, b.depth + 1⟩, r)
    | '&' :: '&' :: r => classFrom? f fuel negated (some (before.close part, .inter)) .empty r
    | '-' :: '-' :: r => classFrom? f fuel negated (some (before.close part, .diff)) .empty r
    | '~' :: '~' :: r => classFrom? f fuel negated (some (before.close part, .symmDiff)) .empty r
    | '[' :: r =>
      match namedClass? r with
      | some ((complement, set), r') =>
        let named := if complement then f.compl? set else some set
        match named with
        | some set => classFrom? f fuel negated before (part.add ⟨set, 0⟩) r'
        | none => none
      | none =>
        let (inner, head, r') := classStart f r
        match classFrom? f fuel inner none head r' with
        | some (b, rest) => classFrom? f fuel negated before (part.add b) rest
        | none => none
    | s' =>
      match classRange? f s' with
      | some (set, r) => classFrom? f fuel negated before (part.add ⟨set, 0⟩) r
      | none => none

/-- Reads a class after its opening bracket. -/
def bracket? (f : Flags) (s : List Char) : Option (Bracket × List Char) :=
  let (negated, head, r) := classStart f s
  classFrom? f (s.length + 1) negated none head r

end BiblioQuery.Regex
