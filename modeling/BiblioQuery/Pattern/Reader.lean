import BiblioQuery.Pattern.Bracket
import BiblioQuery.Text.LetterTable

/-!
# Reading regular expressions

The text of a regular expression is cut into tokens: single characters and classes, assertions,
quantifiers, bars, and opening and closing parentheses.  The tokens are put together from left to
right, with a stack of the groups that are open; the flags of the innermost group decide how the
next token is read.

Letters after an opening parenthesis and a question mark switch flags: `i` makes case irrelevant,
`m` makes the anchors those of lines, `s` lets the dot match a line end, `R` lets a carriage return
end a line, `U` makes quantifiers lazy, `x` skips blanks and comments, and without `u` classes are
those of ASCII.  A switch holds to the end of its group.

An expression may not be nested too deeply: a class, a quantifier, parentheses, a sequence of
several parts and a choice of several alternatives are one level deeper than what they hold.

## Main definitions

* `Regex.Token`, `Regex.token?` : the tokens, and the first token of a text.
* `Regex.Piece`, `Regex.Group` : an expression with its depth, and an open group.
* `Regex.Reading`, `Regex.push?` : the state of reading, and its change by a token.
* `Regex.maxDepth` : the depth that an expression may have.
* `Regex.parse?` : the regular expression of a text.
-/

namespace BiblioQuery.Regex

/-! ### Tokens -/

/-- A token of a regular expression. -/
inductive Token where
  /-- A character that stands for itself. -/
  | literal (c : Char)
  /-- A set of characters, with the depth of the class that describes it. -/
  | set (b : Bracket)
  /-- The dot. -/
  | dot
  /-- The caret. -/
  | caret
  /-- The dollar. -/
  | dollar
  /-- An escaped assertion. -/
  | assertion (a : Assertion)
  /-- A quantifier, which may be marked by a question mark. -/
  | quantifier (min : Nat) (max : Option Nat) (marked : Bool)
  /-- A bar between alternatives. -/
  | bar
  /-- An opening parenthesis whose group keeps what it matches and may have a name. -/
  | capture (name : Option (List Char))
  /-- An opening parenthesis with a change of flags for its group. -/
  | opening (w : FlagSwitch)
  /-- A change of flags for the rest of the group. -/
  | switch (w : FlagSwitch)
  /-- A closing parenthesis. -/
  | closing

/-- The quantifier of two counts before a text, which marks it if it starts with a question mark. -/
def marked (min : Nat) (max : Option Nat) : List Char → Token × List Char
  | '?' :: r => (.quantifier min max true, r)
  | r => (.quantifier min max false, r)

/-- The letters that switch flags. -/
def flagLetters : List Char := "imsUuRx".toList

/-- Reads the letters of a switch, each at most once, up to the colon or the parenthesis that ends
it; the flag tells whether they follow the hyphen. -/
def switchLetters? : Bool → FlagSwitch → List Char → Option (Token × List Char)
  | _, _, [] => none
  | negative, w, c :: r =>
    if c = ')' then
      if w.on.isEmpty && w.off.isEmpty || negative && w.off.isEmpty then none
      else some (.switch w, r)
    else if c = ':' then if negative && w.off.isEmpty then none else some (.opening w, r)
    else if c = '-' then if negative then none else switchLetters? true w r
    else if !flagLetters.contains c || w.on.contains c || w.off.contains c then none
    else if negative then switchLetters? negative { w with off := c :: w.off } r
    else switchLetters? negative { w with on := c :: w.on } r

/-- A character of the name of a group after the first. -/
def isNameChar (c : Char) : Bool :=
  c = '_' || c = '.' || c = '[' || c = ']' || Text.isAlphanumeric c

/-- Reads the name of a group up to its closing bracket. -/
def groupName? (s : List Char) : Option (Token × List Char) :=
  match s.takeWhile (· != '>'), s.dropWhile (· != '>') with
  | c :: name, '>' :: r =>
    if (c = '_' || Text.isAlphabetic c) && name.all isNameChar then
      some (.capture (some (c :: name)), r)
    else none
  | _, _ => none

/-- Reads what follows an opening parenthesis. -/
def opening? : List Char → Option (Token × List Char)
  | '?' :: 'P' :: '<' :: r => groupName? r
  | '?' :: '<' :: r => groupName? r
  | '?' :: r => switchLetters? false ⟨[], []⟩ r
  | r => some (.capture none, r)

/-- Reads the first token of a text. -/
def token? (f : Flags) : List Char → Option (Token × List Char)
  | [] => none
  | c :: r =>
    match c with
    | '\\' => (escape? f r).map fun p =>
      (match p.1 with
        | .char c => .literal c
        | .set s => .set ⟨s, 0⟩
        | .assertion a => .assertion a, p.2)
    | '[' => (bracket? f r).map fun p => (.set p.1, p.2)
    | '(' => opening? (skip f r)
    | ')' => some (.closing, r)
    | '|' => some (.bar, r)
    | '.' => some (.dot, r)
    | '^' => some (.caret, r)
    | '$' => some (.dollar, r)
    | '*' => some (marked 0 none r)
    | '+' => some (marked 1 none r)
    | '?' => some (marked 0 (some 1) r)
    | '\x7b' => (counts? f r).map fun p => marked p.1.1 p.1.2 (skip f p.2)
    | c => some (.literal c, r)

/-! ### Pieces and groups -/

/-- An expression with the depth of its text. -/
structure Piece where
  /-- The expression. -/
  regex : Regex
  /-- The depth. -/
  depth : Nat

/-- The greatest depth among some pieces. -/
def Piece.deepest (ps : List Piece) : Nat := ps.foldl (fun d p => max d p.depth) 0

/-- Several pieces, one after the other. -/
def Piece.sequence : List Piece → Piece
  | [] => ⟨.empty, 0⟩
  | [p] => p
  | p :: ps =>
    ⟨.seq p.regex (ps.dropLast.foldr (fun q r => .seq q.regex r)
        (ps.getLastD ⟨.empty, 0⟩).regex), Piece.deepest (p :: ps) + 1⟩

/-- One of several pieces. -/
def Piece.choice (p : Piece) : List Piece → Piece
  | [] => p
  | ps =>
    ⟨.alt p.regex (ps.dropLast.foldr (fun q r => .alt q.regex r)
        (ps.getLastD ⟨.empty, 0⟩).regex), Piece.deepest (p :: ps) + 1⟩

/-- An open group: its flags, the alternatives before the current one and the pieces of the current
one. -/
structure Group where
  /-- The flags at hand. -/
  flags : Flags
  /-- The group keeps what it matches. -/
  captured : Bool
  /-- The alternatives that are complete, the last first. -/
  alternatives : List Piece
  /-- The pieces of the current alternative, the last first. -/
  pieces : List Piece
  /-- A quantifier may follow the last piece. -/
  repeatable : Bool

/-- A group that has just been opened. -/
def Group.start (f : Flags) (captured : Bool) : Group := ⟨f, captured, [], [], false⟩

/-- The group with one more piece. -/
def Group.add (g : Group) (r : Regex) (depth : Nat) : Group :=
  { g with pieces := ⟨r, depth⟩ :: g.pieces, repeatable := true }

/-- What stands in a group. -/
def Group.close (g : Group) : Piece :=
  let current := Piece.sequence g.pieces.reverse
  match g.alternatives.reverse with
  | [] => current
  | p :: ps => Piece.choice p (ps ++ [current])

/-- The set of characters that a set stands for under the flags. -/
def Flags.set (f : Flags) (s : CharSet) : CharSet :=
  let folded := if f.ignoreCase then s.ignoreCase else s
  if f.unicode then folded else .inter folded .ascii

/-- The set of characters that a character stands for under the flags. -/
def Flags.literal (f : Flags) (c : Char) : CharSet :=
  if f.unicode || c.toNat < 0x80 then f.set (.single c) else .single c

/-- The set of characters that the dot stands for under the flags. -/
def Flags.dot (f : Flags) : CharSet :=
  if f.dotAll then .compl .empty
  else if f.crlf then .compl (.union (.single '\n') (.single '\r'))
  else .compl (.single '\n')

/-- The condition of the caret under the flags. -/
def Flags.caret (f : Flags) : Assertion :=
  if f.multiLine then if f.crlf then .crlfLineStart else .lineStart else .textStart

/-- The condition of the dollar under the flags. -/
def Flags.dollar (f : Flags) : Assertion :=
  if f.multiLine then if f.crlf then .crlfLineEnd else .lineEnd else .textEnd

/-! ### Reading -/

/-- What has been read: the innermost open group, those around it, and the names of groups. -/
structure Reading where
  /-- The innermost open group. -/
  group : Group
  /-- The groups around it, from the inside outwards. -/
  outer : List Group
  /-- The names that groups have. -/
  names : List (List Char)

/-- The reading with a new innermost group. -/
def Reading.enter (st : Reading) (g : Group) : Reading :=
  { st with group := g, outer := st.group :: st.outer }

/-- What has been read after one more token. -/
def push? (st : Reading) (t : Token) : Option Reading :=
  let g := st.group
  let f := g.flags
  let add (r : Regex) (depth : Nat) : Option Reading := some { st with group := g.add r depth }
  match t with
  | .literal c => add (.chars (f.literal c)) 0
  | .set b => add (.chars (f.set b.set)) b.depth
  | .dot => if f.unicode then add (.chars f.dot) 0 else none
  | .caret => add (.assertion f.caret) 0
  | .dollar => add (.assertion f.dollar) 0
  | .assertion a => add (.assertion a) 0
  | .quantifier min max marked =>
    match g.pieces with
    | [] => none
    | p :: ps =>
      if g.repeatable then
        let r := .repetition min (max.map (· - min)) (marked == f.swapGreed) p.regex
        some { st with group := { g with pieces := ⟨r, p.depth + 1⟩ :: ps } }
      else none
  | .bar =>
    let current := Piece.sequence g.pieces.reverse
    let alternatives := current :: g.alternatives
    some { st with group := { g with alternatives, pieces := [], repeatable := false } }
  | .capture none => some (st.enter (.start f true))
  | .capture (some name) =>
    if st.names.contains name then none
    else some { st.enter (.start f true) with names := name :: st.names }
  | .opening w => some (st.enter (.start (w.apply f) false))
  | .switch w =>
    let g' := { g.add .empty 0 with flags := w.apply f, repeatable := false }
    some { st with group := g' }
  | .closing =>
    match st.outer with
    | [] => none
    | o :: outer =>
      let p := g.close
      some { st with group := o.add (.group g.captured p.regex) (p.depth + 1), outer := outer }

/-- What has been read at the end of a text; the fuel bounds the number of tokens. -/
def readFrom? : Nat → Reading → List Char → Option Reading
  | fuel, st, s =>
    match skip st.group.flags s, fuel with
    | [], _ => some st
    | _, 0 => none
    | s', fuel + 1 =>
      match token? st.group.flags s' with
      | none => none
      | some (t, r) =>
        match push? st t with
        | none => none
        | some st' => readFrom? fuel st' r

/-- The depth that an expression may have. -/
def maxDepth : Nat := 250

/-- The regular expression of a text, unless it is nested too deeply. -/
def parse? (s : List Char) : Option Regex :=
  match readFrom? s.length ⟨.start .initial false, [], []⟩ s with
  | some ⟨g, [], _⟩ =>
    let p := g.close
    if p.depth ≤ maxDepth then some p.regex else none
  | _ => none

end BiblioQuery.Regex
