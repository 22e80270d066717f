import BiblioQuery.Text.Blank

/-!
# Templates

A template is a text with slots in braces; a doubled brace stands for the brace itself.  It is read
into segments, literal texts and slots, and filled with the texts that a lookup gives for the slots.

## Main definitions

* `Placeholder` : what a slot stands for, with its name.
* `Segment` : a literal text or a slot.
* `Template` : a source with the segments that it is read into.
* `Template.parse` : the template of a source, or why there is none.
* `Template.fill` : the text of a template under a lookup.
* `Template.printSegments` : a source of given segments.

## Main results

* `Template.ext_source` : a template is known by its source.
* `Template.parse_source` : the source of a template is read as that template.
* `Placeholder.ofName?_eq_some_iff` : only the parameter slots have names of their own.
-/

namespace BiblioQuery

/-! ### Placeholders -/

/-- What a slot stands for. -/
inductive Placeholder where
  /-- The field of the atom. -/
  | field
  /-- The text or identifier of the atom, or the fragment inside a negation. -/
  | value
  /-- The same between double quotes. -/
  | quoted
  /-- The alternatives of the atom, joined. -/
  | values
  /-- One alternative. -/
  | item
  /-- The lower bound, or the mark of an open end. -/
  | lower
  /-- The upper bound, or the mark of an open end. -/
  | upper
  /-- The bracket before the lower bound. -/
  | lowerBracket
  /-- The bracket after the upper bound. -/
  | upperBracket
  /-- The kind of the range. -/
  | kind
  /-- Whether the field is to be present. -/
  | expected
  /-- The kind of the identifier. -/
  | tokenKind
  /-- How the text is compared. -/
  | matchType
  /-- A parameter of the rule. -/
  | param (name : String)
  deriving DecidableEq

namespace Placeholder

/-- The placeholders other than parameters. -/
def fixed : List Placeholder :=
  [.field, .value, .quoted, .values, .item, .lower, .upper, .lowerBracket, .upperBracket, .kind,
    .expected, .tokenKind, .matchType]

/-- The name of a placeholder. -/
def name : Placeholder → String
  | .field => "field"
  | .value => "value"
  | .quoted => "quoted"
  | .values => "values"
  | .item => "item"
  | .lower => "lower"
  | .upper => "upper"
  | .lowerBracket => "lower_bracket"
  | .upperBracket => "upper_bracket"
  | .kind => "kind"
  | .expected => "expected"
  | .tokenKind => "token_kind"
  | .matchType => "match_type"
  | .param n => "param:" ++ n

/-- The placeholder of a name; the name of a parameter is not empty. -/
def ofName? (s : String) : Option Placeholder :=
  match s.toList with
  | 'p' :: 'a' :: 'r' :: 'a' :: 'm' :: ':' :: c :: r => some (.param (String.ofList (c :: r)))
  | _ => fixed.find? fun p => p.name == s

theorem toList_name_param (n : String) :
    (name (.param n)).toList = 'p' :: 'a' :: 'r' :: 'a' :: 'm' :: ':' :: n.toList := by
  rw [name, String.toList_append]
  rfl

/-- A placeholder has its name, and all placeholders but a parameter without one are found by it. -/
theorem ofName?_eq_some_iff {s : String} {p : Placeholder} :
    ofName? s = some p ↔ p.name = s ∧ p ≠ .param "" := by
  constructor
  · intro h
    unfold ofName? at h
    split at h
    · rename_i c r hs
      simp only [Option.some.injEq] at h
      subst h
      refine ⟨String.toList_injective ?_, by simp⟩
      rw [toList_name_param, hs, String.toList_ofList]
    · refine ⟨by simpa using List.find?_some h, ?_⟩
      rintro rfl
      simpa [fixed] using List.mem_of_find?_eq_some h
  · rintro ⟨rfl, hp⟩
    cases p with
    | param n =>
      unfold ofName?
      rw [toList_name_param]
      cases hn : n.toList with
      | nil => exact absurd (by simpa using hn) hp
      | cons c r =>
        change some (Placeholder.param (String.ofList (c :: r))) = _
        rw [← hn, String.ofList_toList]
    | _ => rfl

/-- A placeholder as it stands in a source. -/
def source (p : Placeholder) : String := "\x7b" ++ p.name ++ "\x7d"

end Placeholder

/-! ### Segments -/

/-- A part of a template. -/
inductive Segment where
  /-- A text that is copied. -/
  | literal (cs : List Char)
  /-- A slot that is filled. -/
  | slot (p : Placeholder)
  deriving DecidableEq

/-- Why a source is no template. -/
inductive TemplateError where
  /-- A brace is neither doubled nor part of a slot. -/
  | unbalancedBrace (offset : Nat)
  /-- No placeholder has the name of a slot. -/
  | unknownPlaceholder (name : String)
  deriving DecidableEq

/-- The message about a source that is no template. -/
def TemplateError.message : TemplateError → String
  | .unbalancedBrace offset => "unbalanced brace at offset " ++ toString offset
  | .unknownPlaceholder name => "unknown placeholder '\x7b" ++ name ++ "\x7d'"

/-- A character that is no brace. -/
def isPlain (c : Char) : Bool := c != '\x7b' && c != '\x7d'

/-- A part of a source: a character that stands for itself, or the text between two braces. -/
inductive Piece where
  /-- A character, or a doubled brace. -/
  | char (c : Char)
  /-- The text of a slot. -/
  | slot (name : List Char)
  deriving DecidableEq

/-- The slot that a source starts with after its opening brace, and what follows the slot. -/
def slotName? (s : List Char) : Option (List Char × List Char) :=
  match s.takeWhile isPlain, s.dropWhile isPlain with
  | c :: cs, '\x7d' :: r => some (c :: cs, r)
  | _, _ => none

theorem length_slotName? {s n r : List Char} (h : slotName? s = some (n, r)) :
    r.length < s.length := by
  have hs : (s.takeWhile isPlain).length + (s.dropWhile isPlain).length = s.length := by
    rw [← List.length_append, List.takeWhile_append_dropWhile]
  unfold slotName? at h
  split at h
  · rename_i h₁ h₂
    simp only [Option.some.injEq, Prod.mk.injEq] at h
    rw [h₁, h₂] at hs
    simp only [List.length_cons, h.2] at hs
    omega
  · cases h

/-- The pieces of a source, and the rest that starts with an unbalanced brace, if any. -/
def pieces (s : List Char) : List Piece × List Char :=
  match s with
  | [] => ([], [])
  | c :: r =>
    if isPlain c then
      let (ps, rest) := pieces r
      (.char c :: ps, rest)
    else
      match r with
      | [] => ([], [c])
      | d :: r' =>
        if d = c then
          let (ps, rest) := pieces r'
          (.char c :: ps, rest)
        else if c = '\x7b' then
          match _slot : slotName? (d :: r') with
          | some (n, r'') =>
            let (ps, rest) := pieces r''
            (.slot n :: ps, rest)
          | none => ([], c :: d :: r')
        else ([], c :: d :: r')
termination_by s.length
decreasing_by
  · simp
  · simp only [List.length_cons]; omega
  · have := length_slotName? _slot
    simp only [List.length_cons] at this ⊢
    omega

/-- A character put before segments: into a literal that they start with, if any. -/
def Segment.consChar (c : Char) : List Segment → List Segment
  | .literal cs :: r => .literal (c :: cs) :: r
  | r => .literal [c] :: r

/-- The segments of pieces, or the text of the first slot without placeholder. -/
def Segment.ofPieces : List Piece → Except TemplateError (List Segment)
  | [] => .ok []
  | .char c :: ps => (ofPieces ps).map (Segment.consChar c)
  | .slot n :: ps =>
    match Placeholder.ofName? (String.ofList (Text.trim n)) with
    | none => .error (.unknownPlaceholder (String.ofList n))
    | some p => (ofPieces ps).map (.slot p :: ·)

/-- The number of bytes of a list of characters. -/
def byteLength : List Char → Nat
  | [] => 0
  | c :: r => c.utf8Size + byteLength r

/-! ### Templates -/

namespace Template

/-- The segments of a source, or why there are none. -/
def readSegments (source : String) : Except TemplateError (List Segment) :=
  match pieces source.toList with
  | (ps, []) => Segment.ofPieces ps
  | (_, c :: r) => .error (.unbalancedBrace (byteLength source.toList - byteLength (c :: r)))

end Template

/-- A source with the segments that it is read into. -/
structure Template where
  /-- The source. -/
  source : String
  /-- The segments. -/
  segments : List Segment
  /-- The source is read into the segments. -/
  read_source : Template.readSegments source = .ok segments

namespace Template

/-- A template is known by its source. -/
theorem ext_source {t u : Template} (h : t.source = u.source) : t = u := by
  obtain ⟨s, xs, hx⟩ := t
  obtain ⟨s', ys, hy⟩ := u
  obtain rfl : s = s' := h
  obtain rfl : xs = ys := Except.ok.inj (hx.symm.trans hy)
  rfl

instance : DecidableEq Template := fun t u =>
  if h : t.source = u.source then .isTrue (ext_source h)
  else .isFalse fun h' => h (h' ▸ rfl)

/-- The template of a source, or why there is none. -/
def parse (source : String) : Except TemplateError Template :=
  match h : readSegments source with
  | .ok segments => .ok ⟨source, segments, h⟩
  | .error e => .error e

/-- The source of a template is read as that template. -/
theorem parse_source (t : Template) : parse t.source = .ok t := by
  unfold parse
  split
  · exact congrArg _ (ext_source rfl)
  · rename_i e he
    rw [t.read_source] at he
    cases he

/-- The placeholders of a template in order. -/
def placeholders (t : Template) : List Placeholder :=
  t.segments.filterMap fun
    | .slot p => some p
    | .literal _ => none

/-- The text of segments under a lookup, or the first placeholder without value. -/
def fillSegments (lookup : Placeholder → Option String) :
    List Segment → Except Placeholder (List Char)
  | [] => .ok []
  | .literal cs :: r => (fillSegments lookup r).map (cs ++ ·)
  | .slot p :: r =>
    match lookup p with
    | none => .error p
    | some s => (fillSegments lookup r).map (s.toList ++ ·)

/-- The text of a template under a lookup, or the first placeholder without value. -/
def fill (t : Template) (lookup : Placeholder → Option String) : Except Placeholder String :=
  (fillSegments lookup t.segments).map String.ofList

/-! ### Printing -/

/-- A literal text as it stands in a source: every brace doubled. -/
def doubleBraces : List Char → List Char
  | [] => []
  | c :: r => if isPlain c then c :: doubleBraces r else c :: c :: doubleBraces r

/-- A segment as it stands in a source. -/
def printSegment : Segment → List Char
  | .literal cs => doubleBraces cs
  | .slot p => p.source.toList

/-- A source of the given segments. -/
def printSegments (segments : List Segment) : List Char := segments.flatMap printSegment

end Template

end BiblioQuery
