import BiblioQuery.Proofs.Collection.Results
import BiblioQuery.Proofs.Text.Trimming
import BiblioQuery.Template
import Mathlib.Data.List.Chain

/-!
# Templates read and printed

A source is cut into pieces from its start: doubled braces, slots, and characters other than braces.
What comes next decides what the next piece is, so there is at most one way to cut a source, and
where the pieces end no longer start of the source can be cut either.  The segments that are read
from a source are normal: literals are as long as they can be, and the names of parameters can stand
between braces.  Normal segments are what their own print is read into.

## Main definitions

* `Piece.chars`, `IsCutInto` : how pieces stand in a source, and a source that consists of pieces.
* `IsLongestCut` : the longest start of a source that can be cut.
* `Segment.AreNormal` : segments that a source can be read into.
* `Piece.tidy` : a piece without blanks inside its braces.

## Main results

* `pieces_append` : pieces are found where they stand.
* `isCutInto_iff` : a source has at most one cut.
* `isLongestCut_of_pieces` : the pieces that are found go as far as possible.
* `Segment.AreNormal.ofPieces`, `Segment.areNormal_of_ofPieces` : segments and their pieces.
* `Template.parse_print_inverse` : reading and printing in the whole.
-/

namespace BiblioQuery

/-! ### Cuts -/

/-- A piece as it stands in a source: a brace that stands for itself is doubled, and a slot stands
between braces. -/
def Piece.chars : Piece → List Char
  | .char c => if isPlain c then [c] else [c, c]
  | .slot n => '\x7b' :: n ++ ['\x7d']

/-- The text of a slot is not empty and has no braces. -/
def Piece.IsProper : Piece → Prop
  | .char _ => True
  | .slot n => n ≠ [] ∧ ∀ c ∈ n, isPlain c = true

/-- A text consists of pieces. -/
structure IsCutInto (cs : List Char) (ps : List Piece) : Prop where
  /-- The slots have texts without braces. -/
  isProper : ∀ p ∈ ps, p.IsProper
  /-- The pieces stand one after the other. -/
  chars_eq : ps.flatMap Piece.chars = cs

/-- The longest start of a text that consists of pieces. -/
structure IsLongestCut (cs start : List Char) : Prop where
  /-- The text starts with it. -/
  starts : start <+: cs
  /-- It consists of pieces. -/
  exists_cut : ∃ ps, IsCutInto start ps
  /-- No longer start of the text does. -/
  length_le : ∀ ds, ds <+: cs → (∃ ps, IsCutInto ds ps) → ds.length ≤ start.length

section

variable {cs r n : List Char} {ps : List Piece} {p : Piece}

/-- The text of a slot ends at the first brace. -/
theorem slotName?_append (hne : n ≠ []) (hplain : ∀ c ∈ n, isPlain c = true) (r : List Char) :
    slotName? (n ++ '\x7d' :: r) = some (n, r) := by
  have hbrace : ¬isPlain '\x7d' = true := by decide
  obtain ⟨c, m, rfl⟩ := List.exists_cons_of_ne_nil hne
  rw [slotName?, List.takeWhile_append_of_pos hplain, List.dropWhile_append_of_pos hplain,
    List.takeWhile_cons_of_neg hbrace, List.dropWhile_cons_of_neg hbrace, List.append_nil]
  rfl

/-- What is found as the text of a slot is not empty and stands before the first brace, which closes
the slot. -/
theorem slotName?_eq_some {s m : List Char} (h : slotName? s = some (m, r)) :
    (m ≠ [] ∧ ∀ c ∈ m, isPlain c = true) ∧ s = m ++ '\x7d' :: r := by
  unfold slotName? at h
  split at h
  · next c cs r' htake hdrop =>
    obtain ⟨rfl, rfl⟩ := Prod.mk.inj (Option.some.inj h)
    refine ⟨⟨List.cons_ne_nil _ _, fun x hx => ?_⟩, ?_⟩
    · rw [← htake] at hx
      exact List.all_eq_true.1 List.all_takeWhile x hx
    · rw [← htake, ← hdrop, List.takeWhile_append_dropWhile]
  · cases h

/-- After a brace that is not doubled a slot is found where its text is. -/
theorem pieces_of_slotName? {d : Char} {r' : List Char} (hd : d ≠ '\x7b')
    (hslot : slotName? (d :: r) = some (n, r')) :
    pieces ('\x7b' :: d :: r) = (.slot n :: (pieces r').1, (pieces r').2) := by
  generalize hs : '\x7b' :: d :: r = s
  fun_cases pieces s with
  | case1 | case3 => cases hs
  | case2 c r₀ hc =>
    cases hs
    exact absurd hc (by decide)
  | case4 | case7 =>
    cases hs
    contradiction
  | case5 c r₀ m r₁ found ps rest hpieces =>
    cases hs
    cases found.symm.trans hslot
    rw [hpieces]
  | case6 c r₀ found =>
    cases hs
    cases found.symm.trans hslot

/-- A piece is found where it stands. -/
theorem pieces_chars_append (hp : p.IsProper) (r : List Char) :
    pieces (p.chars ++ r) = (p :: (pieces r).1, (pieces r).2) := by
  cases p with
  | char c =>
    by_cases hc : isPlain c = true
    · rw [Piece.chars, if_pos hc, List.singleton_append, pieces.eq_def]
      exact if_pos hc
    · rw [Piece.chars, if_neg hc, List.cons_append, List.singleton_append, pieces.eq_def]
      exact (if_neg hc).trans (if_pos rfl)
  | slot n =>
    obtain ⟨hne, hplain⟩ := hp
    have hslot := slotName?_append hne hplain r
    obtain ⟨c, m, rfl⟩ := List.exists_cons_of_ne_nil hne
    have hc : c ≠ '\x7b' := by
      rintro rfl
      exact absurd (hplain _ List.mem_cons_self) (by decide)
    have hchars : (Piece.slot (c :: m)).chars ++ r = '\x7b' :: c :: (m ++ '\x7d' :: r) := by
      simp [Piece.chars]
    rw [hchars]
    exact pieces_of_slotName? hc hslot

/-- Pieces are found where they stand, and then what follows them. -/
theorem pieces_append (hps : ∀ p ∈ ps, p.IsProper) (r : List Char) :
    pieces (ps.flatMap Piece.chars ++ r) = (ps ++ (pieces r).1, (pieces r).2) := by
  induction ps with
  | nil => rfl
  | cons p ps ih =>
    rw [List.forall_mem_cons] at hps
    rw [List.flatMap_cons, List.append_assoc, pieces_chars_append hps.1, ih hps.2]
    rfl

/-- What is found in a source are pieces that stand at its start; what remains is the rest. -/
theorem isProper_pieces_and_append (s : List Char) :
    (∀ p ∈ (pieces s).1, p.IsProper) ∧ (pieces s).1.flatMap Piece.chars ++ (pieces s).2 = s := by
  fun_induction pieces s with
  | case1 => exact ⟨nofun, rfl⟩
  | case2 c r hc ps rest hpieces ih =>
    rw [hpieces] at ih
    refine ⟨List.forall_mem_cons.2 ⟨trivial, ih.1⟩, ?_⟩
    rw [List.flatMap_cons, Piece.chars, if_pos hc, List.append_assoc, ih.2]
    rfl
  | case3 c hc => exact ⟨nofun, rfl⟩
  | case4 c r ps rest hpieces hc ih =>
    rw [hpieces] at ih
    refine ⟨List.forall_mem_cons.2 ⟨trivial, ih.1⟩, ?_⟩
    rw [List.flatMap_cons, Piece.chars, if_neg hc, List.append_assoc, ih.2]
    rfl
  | case5 d r n r' found ps rest hpieces hbrace hd ih =>
    obtain ⟨hproper, hslot⟩ := slotName?_eq_some found
    rw [hpieces] at ih
    refine ⟨List.forall_mem_cons.2 ⟨hproper, ih.1⟩, ?_⟩
    rw [List.flatMap_cons, Piece.chars, List.append_assoc, ih.2, hslot]
    simp
  | case6 | case7 => exact ⟨nofun, rfl⟩

/-- A source that consists of pieces is cut into these and leaves no rest; so there is one cut at
most. -/
theorem isCutInto_iff : IsCutInto cs ps ↔ pieces cs = (ps, []) := by
  constructor
  · rintro ⟨hproper, rfl⟩
    have hcut := pieces_append hproper []
    rw [List.append_nil] at hcut
    rw [hcut, pieces, List.append_nil]
  · intro h
    have hcut := isProper_pieces_and_append cs
    rw [h, List.append_nil] at hcut
    exact ⟨hcut.1, hcut.2⟩

/-- The pieces that are found in a source go as far as pieces can. -/
theorem isLongestCut_of_pieces {start : List Char} (h : pieces (start ++ r) = (ps, r)) :
    IsLongestCut (start ++ r) start := by
  obtain ⟨hproper, hchars⟩ := isProper_pieces_and_append (start ++ r)
  rw [h] at hproper hchars
  replace hchars := List.append_cancel_right hchars
  refine ⟨List.prefix_append _ _, ⟨ps, hproper, hchars⟩, ?_⟩
  rintro ds ⟨t, ht⟩ ⟨qs, hqs, rfl⟩
  -- the pieces of another start come first among those that are found
  have hfirst := pieces_append hqs t
  rw [ht, h] at hfirst
  rw [← hchars, (Prod.mk.inj hfirst).1, List.flatMap_append, List.length_append]
  exact Nat.le_add_right _ _

end

/-! ### Names of placeholders -/

/-- The name of a parameter can stand between braces: it is not empty, has no braces and does not
end in a blank. -/
def Placeholder.IsProper : Placeholder → Prop
  | .param n => n ≠ "" ∧ (∀ c ∈ n.toList, isPlain c = true) ∧
      ∀ c ∈ n.toList.getLast?, Text.isBlank c = false
  | _ => True

namespace Placeholder

variable {p : Placeholder}

theorem getLast?_name_param {n : String} (hn : n ≠ "") :
    (name (.param n)).toList.getLast? = n.toList.getLast? := by
  obtain ⟨c, r, hcs⟩ := List.exists_cons_of_ne_nil (mt String.toList_eq_nil_iff.1 hn)
  rw [toList_name_param, hcs]
  simp only [List.getLast?_cons_cons]

theorem IsProper.ne_unnamed (h : p.IsProper) : p ≠ .param "" := by
  rintro rfl
  exact h.1 rfl

/-- The name of a placeholder can stand between braces. -/
theorem IsProper.name (h : p.IsProper) :
    p.name.toList ≠ [] ∧ (∀ c ∈ p.name.toList, isPlain c = true) ∧
      Text.trim p.name.toList = p.name.toList := by
  cases p with
  | param n =>
    obtain ⟨hne, hplain, hlast⟩ := h
    have hword : ∀ c ∈ ['p', 'a', 'r', 'a', 'm', ':'], isPlain c = true :=
      List.all_eq_true.1 (by decide)
    have hchars := toList_name_param n
    refine ⟨hchars ▸ List.cons_ne_nil _ _, ?_, Text.trim_eq_self_of_ends ?_ ?_⟩
    · rw [hchars]
      exact List.forall_mem_append.2 ⟨hword, hplain⟩
    · rw [hchars]
      exact fun c hc => Option.mem_some_iff.1 hc ▸ rfl
    · rw [getLast?_name_param hne]
      exact hlast
  | _ => exact ⟨by decide, List.all_eq_true.1 (by decide), by decide⟩

/-- The placeholder of the text of a slot can be printed. -/
theorem isProper_of_ofName? {n : List Char} (hplain : ∀ c ∈ n, isPlain c = true)
    (h : ofName? (String.ofList (Text.trim n)) = some p) :
    p.IsProper ∧ p.name.toList = Text.trim n := by
  obtain ⟨hname, hne⟩ := ofName?_eq_some_iff.1 h
  have hchars : p.name.toList = Text.trim n := by rw [hname, String.toList_ofList]
  refine ⟨?_, hchars⟩
  cases p with
  | param m =>
    have hm : m ≠ "" := fun hm => hne (hm ▸ rfl)
    refine ⟨hm, fun c hc => hplain c ?_, ?_⟩
    · rw [toList_name_param] at hchars
      refine (Text.trim_sublist n).subset ?_
      rw [← hchars]
      simp [hc]
    · rw [← getLast?_name_param hm, hchars]
      exact Text.isBlank_of_getLast?_trim n
  | _ => trivial

end Placeholder

/-! ### Segments -/

/-- A piece without the blanks inside its braces. -/
def Piece.tidy : Piece → Piece
  | .char c => .char c
  | .slot n => .slot (Text.trim n)

namespace Segment

/-- A text that is copied. -/
def isLiteral : Segment → Bool
  | .literal _ => true
  | .slot _ => false

/-- The segment can be read from a source. -/
def IsProper : Segment → Prop
  | .literal cs => cs ≠ []
  | .slot p => p.IsProper

/-- Segments that a source can be read into: no literal is empty, no two of them are adjacent, and
the names of parameters can stand between braces. -/
structure AreNormal (xs : List Segment) : Prop where
  /-- Each segment can be read. -/
  isProper : ∀ x ∈ xs, x.IsProper
  /-- A literal ends where a slot starts. -/
  isChain : xs.IsChain fun x y => ¬(x.isLiteral = true ∧ y.isLiteral = true)

/-- The pieces of a segment. -/
def toPieces : Segment → List Piece
  | .literal cs => cs.map .char
  | .slot p => [.slot p.name.toList]

variable {x : Segment} {xs : List Segment} {ps : List Piece} {cs : List Char}

theorem areNormal_nil : AreNormal [] := ⟨nofun, .nil⟩

theorem areNormal_cons_iff : AreNormal (x :: xs) ↔
    x.IsProper ∧ (∀ y ∈ xs.head?, ¬(x.isLiteral = true ∧ y.isLiteral = true)) ∧ AreNormal xs := by
  constructor
  · rintro ⟨hproper, hchain⟩
    rw [List.forall_mem_cons] at hproper
    rw [List.isChain_cons] at hchain
    exact ⟨hproper.1, hchain.1, hproper.2, hchain.2⟩
  · rintro ⟨hx, hhead, hproper, hchain⟩
    exact ⟨List.forall_mem_cons.2 ⟨hx, hproper⟩, List.isChain_cons.2 ⟨hhead, hchain⟩⟩

/-! ### Printing -/

/-- A literal is printed character by character. -/
theorem flatMap_chars_map_char (cs : List Char) :
    (cs.map Piece.char).flatMap Piece.chars = Template.doubleBraces cs := by
  induction cs with
  | nil => rfl
  | cons c cs ih =>
    rw [List.map_cons, List.flatMap_cons, ih, Template.doubleBraces, Piece.chars]
    split <;> rfl

/-- The print of a segment consists of its pieces. -/
theorem flatMap_chars_toPieces (x : Segment) :
    x.toPieces.flatMap Piece.chars = Template.printSegment x := by
  cases x with
  | literal cs => exact flatMap_chars_map_char cs
  | slot p => simp [toPieces, Piece.chars, Template.printSegment, Placeholder.source]

/-- The print of normal segments consists of their pieces. -/
theorem AreNormal.isCutInto (h : AreNormal xs) :
    IsCutInto (Template.printSegments xs) (xs.flatMap toPieces) := by
  constructor
  · intro p hp
    obtain ⟨x, hx, hp⟩ := List.mem_flatMap.1 hp
    have hproper := h.isProper x hx
    cases x with
    | literal cs =>
      obtain ⟨c, -, rfl⟩ := List.mem_map.1 hp
      trivial
    | slot q =>
      obtain rfl := List.mem_singleton.1 hp
      exact ⟨hproper.name.1, hproper.name.2.1⟩
  · rw [List.flatMap_assoc, Template.printSegments]
    simp only [flatMap_chars_toPieces]

/-- A character before segments is printed before their print. -/
theorem printSegments_consChar (c : Char) (xs : List Segment) :
    Template.printSegments (consChar c xs) = (Piece.char c).chars ++ Template.printSegments xs := by
  have hliteral : ∀ cs, Template.doubleBraces (c :: cs) =
      (Piece.char c).chars ++ Template.doubleBraces cs := fun cs =>
    (flatMap_chars_map_char (c :: cs)).symm.trans (congrArg _ (flatMap_chars_map_char cs))
  match xs with
  | [] | .slot p :: r =>
    simp [consChar, Template.printSegments, Template.printSegment, hliteral []]
    rfl
  | .literal cs :: r =>
    simp [consChar, Template.printSegments, Template.printSegment, hliteral cs]

/-! ### Reading -/

/-- Before a slot or at the end a character is a literal of its own. -/
theorem consChar_of_apart (c : Char) (h : ∀ y ∈ xs.head?, y.isLiteral = false) :
    consChar c xs = .literal [c] :: xs := by
  match xs with
  | [] | .slot p :: r => rfl
  | .literal cs :: r => exact absurd (h _ rfl) nofun

/-- A character goes into the literal that follows, or is a literal of its own. -/
theorem AreNormal.consChar (c : Char) (h : AreNormal xs) : AreNormal (consChar c xs) := by
  match xs with
  | [] | .slot p :: r =>
    exact areNormal_cons_iff.2 ⟨List.cons_ne_nil _ _, by simp [isLiteral], h⟩
  | .literal cs :: r =>
    obtain ⟨-, hrest⟩ := areNormal_cons_iff.1 h
    exact areNormal_cons_iff.2 ⟨List.cons_ne_nil _ _, hrest⟩

/-- The characters of a literal are put together before a slot or at the end. -/
theorem ofPieces_map_char (hne : cs ≠ []) (h : ofPieces ps = .ok xs)
    (hapart : ∀ y ∈ xs.head?, y.isLiteral = false) :
    ofPieces (cs.map .char ++ ps) = .ok (.literal cs :: xs) := by
  induction cs with
  | nil => exact absurd rfl hne
  | cons c cs ih =>
    rw [List.map_cons, List.cons_append, ofPieces]
    cases cs with
    | nil => rw [List.map_nil, List.nil_append, h, Except.map, consChar_of_apart c hapart]
    | cons d cs =>
      rw [ih (List.cons_ne_nil _ _)]
      rfl

/-- The pieces of normal segments are read as these segments. -/
theorem AreNormal.ofPieces (h : AreNormal xs) : ofPieces (xs.flatMap toPieces) = .ok xs := by
  induction xs with
  | nil => rfl
  | cons x xs ih =>
    obtain ⟨hx, hapart, hxs⟩ := areNormal_cons_iff.1 h
    rw [List.flatMap_cons]
    cases x with
    | literal cs =>
      exact ofPieces_map_char hx (ih hxs) fun y hy => by simpa [isLiteral] using hapart y hy
    | slot p =>
      have hfound : Placeholder.ofName? p.name = some p :=
        Placeholder.ofName?_eq_some_iff.2 ⟨rfl, hx.ne_unnamed⟩
      rw [toPieces, List.singleton_append, Segment.ofPieces, hx.name.2.2, String.ofList_toList,
        hfound, ih hxs]
      rfl

/-- What is read from pieces is normal, and is printed as the pieces are without the blanks inside
braces. -/
theorem areNormal_of_ofPieces (hps : ∀ p ∈ ps, p.IsProper) (h : ofPieces ps = .ok xs) :
    AreNormal xs ∧
      Template.printSegments xs = (ps.map Piece.tidy).flatMap Piece.chars := by
  induction ps generalizing xs with
  | nil =>
    obtain rfl := Except.ok.inj h
    exact ⟨areNormal_nil, rfl⟩
  | cons p ps ih =>
    rw [List.forall_mem_cons] at hps
    cases p with
    | char c =>
      rw [Segment.ofPieces] at h
      obtain ⟨ys, hys, rfl⟩ := ok_of_map_eq_ok h
      obtain ⟨hnormal, hprint⟩ := ih hps.2 hys
      rw [printSegments_consChar, hprint]
      exact ⟨hnormal.consChar c, rfl⟩
    | slot n =>
      rw [Segment.ofPieces] at h
      split at h
      · cases h
      · next q hq =>
        obtain ⟨ys, hys, rfl⟩ := ok_of_map_eq_ok h
        obtain ⟨hnormal, hprint⟩ := ih hps.2 hys
        obtain ⟨hproper, hname⟩ := Placeholder.isProper_of_ofName? hps.1.2 hq
        refine ⟨areNormal_cons_iff.2 ⟨hproper, by simp [isLiteral], hnormal⟩, ?_⟩
        rw [List.map_cons, List.flatMap_cons, ← hprint, Piece.tidy, ← hname]
        simp [Template.printSegments, Template.printSegment, Placeholder.source, Piece.chars]

/-- Where pieces cannot be read, the text of a slot is no name of a placeholder. -/
theorem exists_slot_of_ofPieces {e : TemplateError} (h : ofPieces ps = .error e) :
    ∃ n, .slot n ∈ ps ∧ e = .unknownPlaceholder (String.ofList n) ∧
      Placeholder.ofName? (String.ofList (Text.trim n)) = none := by
  induction ps with
  | nil => cases h
  | cons p ps ih =>
    have hrest : ofPieces ps = .error e → ∃ n, .slot n ∈ p :: ps ∧
        e = .unknownPlaceholder (String.ofList n) ∧
          Placeholder.ofName? (String.ofList (Text.trim n)) = none := fun h => by
      obtain ⟨n, hn, hfound⟩ := ih h
      exact ⟨n, List.mem_cons_of_mem p hn, hfound⟩
    cases p with
    | char c => exact hrest (error_of_map_eq_error h)
    | slot n =>
      rw [Segment.ofPieces] at h
      split at h
      · next hnone => exact ⟨n, List.mem_cons_self, (Except.error.inj h).symm, hnone⟩
      · exact hrest (error_of_map_eq_error h)

end Segment

/-! ### Templates -/

/-- The number of bytes of a list of characters is that of their text. -/
theorem byteLength_eq_utf8ByteSize (cs : List Char) :
    byteLength cs = (String.ofList cs).utf8ByteSize := by
  induction cs with
  | nil => rfl
  | cons c cs ih =>
    rw [byteLength, ih, String.ofList_cons, String.utf8ByteSize_append,
      String.utf8ByteSize_singleton]

theorem byteLength_append (cs ds : List Char) :
    byteLength (cs ++ ds) = byteLength cs + byteLength ds := by
  simp only [byteLength_eq_utf8ByteSize, String.ofList_append, String.utf8ByteSize_append]

namespace Template

variable {source : String} {xs : List Segment} {t : Template} {e : TemplateError}

theorem readSegments_of_parse_eq_ok (h : parse source = .ok t) :
    readSegments source = .ok t.segments := by
  unfold parse at h
  split at h
  · next hread =>
    cases h
    exact hread
  · cases h

theorem readSegments_of_parse_eq_error (h : parse source = .error e) :
    readSegments source = .error e := by
  unfold parse at h
  split at h
  · cases h
  · next hread => exact Except.error.inj h ▸ hread

/-- Segments that are read from a source make it a template. -/
theorem exists_parse_of_readSegments (h : readSegments source = .ok xs) :
    ∃ t, parse source = .ok t ∧ t.segments = xs :=
  ⟨⟨source, xs, h⟩, parse_source ⟨source, xs, h⟩, rfl⟩

/-- Segments are read from a source without rest, whose pieces they are read from. -/
theorem pieces_of_readSegments_eq_ok (h : readSegments source = .ok xs) :
    ∃ ps, pieces source.toList = (ps, []) ∧ Segment.ofPieces ps = .ok xs := by
  unfold readSegments at h
  split at h
  · next ps hpieces => exact ⟨ps, hpieces, h⟩
  · cases h

/-- No segments are read from a source with a rest, where the error says how far the pieces go, or
from pieces with a slot that has no placeholder. -/
theorem pieces_of_readSegments_eq_error (h : readSegments source = .error e) :
    (∃ ps start r, source.toList = start ++ r ∧ r ≠ [] ∧ pieces source.toList = (ps, r) ∧
        e = .unbalancedBrace (byteLength start)) ∨
      ∃ ps, pieces source.toList = (ps, []) ∧ Segment.ofPieces ps = .error e := by
  unfold readSegments at h
  split at h
  · next ps hpieces => exact .inr ⟨ps, hpieces, h⟩
  · next ps c r hpieces =>
    have hchars := (isProper_pieces_and_append source.toList).2
    rw [hpieces] at hchars
    refine .inl ⟨ps, _, c :: r, hchars.symm, List.cons_ne_nil _ _, hpieces, ?_⟩
    rw [← Except.error.inj h, ← hchars, byteLength_append, Nat.add_sub_cancel]

/-- Reading and printing undo each other.  Normal segments are read from their print.  What is read
from a source is normal, and is printed as the source is without the blanks inside its braces.
Where reading fails for a brace, the offset is where the longest start of the source ends that
consists of doubled braces, slots and other characters; otherwise the source consists of these, but
the text of one of its slots, without the blanks around it, is no name of a placeholder. -/
theorem parse_print_inverse :
    (∀ xs, Segment.AreNormal xs →
      ∃ t, parse (String.ofList (printSegments xs)) = .ok t ∧ t.segments = xs) ∧
    (∀ source t, parse source = .ok t → Segment.AreNormal t.segments ∧
      ∃ ps, IsCutInto source.toList ps ∧
        printSegments t.segments = (ps.map Piece.tidy).flatMap Piece.chars) ∧
    ∀ source e, parse source = .error e →
      (∃ k start, e = .unbalancedBrace k ∧ IsLongestCut source.toList start ∧
        start ≠ source.toList ∧ k = (String.ofList start).utf8ByteSize) ∨
      ∃ n ps, e = .unknownPlaceholder (String.ofList n) ∧ IsCutInto source.toList ps ∧
        .slot n ∈ ps ∧ ∀ p : Placeholder, p.name.toList = Text.trim n → p = .param "" := by
  refine ⟨fun xs hxs => ?_, fun source t h => ?_, fun source e h => ?_⟩
  · have hread : readSegments (String.ofList (printSegments xs)) = .ok xs := by
      rw [readSegments, String.toList_ofList, isCutInto_iff.1 hxs.isCutInto]
      exact hxs.ofPieces
    exact exists_parse_of_readSegments hread
  · obtain ⟨ps, hpieces, hread⟩ := pieces_of_readSegments_eq_ok (readSegments_of_parse_eq_ok h)
    have hcut := isCutInto_iff.2 hpieces
    obtain ⟨hnormal, hprint⟩ := Segment.areNormal_of_ofPieces hcut.isProper hread
    exact ⟨hnormal, ps, hcut, hprint⟩
  · rcases pieces_of_readSegments_eq_error (readSegments_of_parse_eq_error h) with
      ⟨ps, start, r, hsource, hr, hpieces, rfl⟩ | ⟨ps, hpieces, hread⟩
    · rw [hsource] at hpieces ⊢
      exact .inl ⟨_, start, rfl, isLongestCut_of_pieces hpieces, by simp [hr],
        byteLength_eq_utf8ByteSize start⟩
    · obtain ⟨n, hn, rfl, hnone⟩ := Segment.exists_slot_of_ofPieces hread
      refine .inr ⟨n, ps, rfl, isCutInto_iff.2 hpieces, hn, fun p hp => ?_⟩
      by_contra hne
      rw [Placeholder.ofName?_eq_some_iff.2 ⟨String.toList_injective (by simpa using hp), hne⟩]
        at hnone
      cases hnone

/-- A slot between doubled braces keeps a brace at either side, and loses its blanks. -/
example : readSegments "\x7b\x7b\x7b field \x7d\x7d\x7d" =
    .ok [.literal ['\x7b'], .slot .field, .literal ['\x7d']] := by cbv

end Template

end BiblioQuery
