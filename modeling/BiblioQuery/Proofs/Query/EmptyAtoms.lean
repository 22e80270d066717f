import BiblioQuery.Proofs.Query.Passing

/-!
# Atoms of which nothing is written

The fragment of an atom may be empty, and then the atom is lost where fragments are joined.  This is
so if there is no text in the template of its rule and each slot is filled with nothing: a transform
may leave nothing of the value, an open end may have an empty mark, and so on.  If the rule wants a
group, its delimiters have to be empty too, and if what it writes is denied, so has the denial.

## Main definitions

* `Transform.Erases`, `Rule.Erases` : nothing of a text is left.
* `Template.IsVoid` : a template consists of slots that are empty.
* `Rule.EmptySlot` : a slot that a rule fills with nothing for a value.
* `Rule.IsVoidFor`, `Atom.IsVoid` : nothing is written for an atom.

## Main results

* `Transform.applyChars_eq_nil_iff` : what a transform leaves nothing of.
* `Template.fill_eq_empty_iff` : a template is filled with nothing if it is void.
* `Rule.slotText_eq_empty_iff` : the slots that are empty.
* `Atom.fragment_eq_empty_iff` : the fragment of an atom is empty if nothing is written for it.
-/

namespace BiblioQuery

/-! ### Texts -/

/-- Joined texts are empty if all of them are, and so is the joiner if it is used. -/
theorem intercalate_eq_empty_iff {joiner : String} {texts : List String} :
    joiner.intercalate texts = "" ↔
      (∀ s ∈ texts, s = "") ∧ (joiner = "" ∨ texts.length ≤ 1) := by
  induction texts with
  | nil => simp
  | cons s rest ih =>
    cases rest with
    | nil => simp
    | cons t rest =>
      rw [String.intercalate_cons_cons, String.append_eq_empty_iff, String.append_eq_empty_iff, ih,
        List.forall_mem_cons (a := s)]
      constructor
      · rintro ⟨⟨hs, hjoiner⟩, hrest, -⟩
        exact ⟨⟨hs, hrest⟩, .inl hjoiner⟩
      · rintro ⟨⟨hs, hrest⟩, hjoiner | hlength⟩
        · exact ⟨⟨hs, hjoiner⟩, hrest, .inl hjoiner⟩
        · simp at hlength

theorem MatchType.name_ne_empty (m : MatchType) : m.name ≠ "" := by
  cases m <;> decide

theorem RangeKind.name_ne_empty (k : RangeKind) : k.name ≠ "" := by
  cases k <;> decide

namespace Text

/-- The image of a character is not empty unless the table says so. -/
theorem caseImage_ne_nil {ranges : List CaseRange} {special : List (Nat × List Nat)}
    (h : ∀ e ∈ special, e.2 ≠ []) (c : Char) : caseImage ranges special c ≠ [] := by
  rw [caseImage]
  split
  · next e he => simpa using h e (List.mem_of_find?_eq_some he)
  · split <;> exact List.cons_ne_nil _ _

theorem lower_eq_nil_iff {cs : List Char} : lower cs = [] ↔ cs = [] := by
  cases cs with
  | nil => simp [lower, lowerAfter]
  | cons c r =>
    have hform : lowerChar c ≠ [] := caseImage_ne_nil (by decide) c
    rw [lower, lowerAfter]
    split <;> simp [hform]

theorem upper_eq_nil_iff {cs : List Char} : upper cs = [] ↔ cs = [] := by
  cases cs with
  | nil => simp [upper]
  | cons c r =>
    have hform : upperChar c ≠ [] := caseImage_ne_nil (by decide) c
    simp [upper, hform]

end Text

namespace Transform

theorem escape_eq_nil_iff {special cs : List Char} : escape special cs = [] ↔ cs = [] := by
  cases cs with
  | nil => simp [escape]
  | cons c r =>
    have hchar : escapeChar special c ≠ [] := by
      rw [escapeChar]
      split <;> exact List.cons_ne_nil _ _
    simp [escape, hchar]

/-- The transform leaves nothing of a text. -/
def Erases (t : Transform) (cs : List Char) : Prop :=
  match t with
  | .trim => ∀ c ∈ cs, Text.isBlank c = true
  | .compactDate => ∀ c ∈ cs, c = '-' ∨ c = ':'
  | .year => ∀ c ∈ cs.head?, c.isDigit = false
  | .lowercase | .uppercase | .escapeQuotes | .escapeLucene => cs = []

/-- A transform leaves nothing of blanks, of the hyphens and colons of dates, or of a text that does
not start with a year; the others leave nothing of nothing only. -/
theorem applyChars_eq_nil_iff {t : Transform} {cs : List Char} :
    t.applyChars cs = [] ↔ t.Erases cs := by
  cases t with
  | lowercase => exact Text.lower_eq_nil_iff
  | uppercase => exact Text.upper_eq_nil_iff
  | trim => exact Text.trim_eq_nil_iff cs
  | escapeQuotes => exact escape_eq_nil_iff
  | escapeLucene => exact escape_eq_nil_iff
  | compactDate => simp [applyChars, Erases, List.filter_eq_nil_iff,
      Decidable.or_iff_not_imp_left]
  | year => cases cs <;> simp [applyChars, Erases, List.takeWhile_cons]

theorem quote_ne_empty (s : String) : quote s ≠ "" := by
  rw [quote, Ne, String.ofList_eq_empty_iff]
  exact List.cons_ne_nil _ _

end Transform

/-! ### Templates -/

/-- Only the empty source has no pieces and no rest. -/
theorem eq_nil_of_pieces {cs : List Char} (h : pieces cs = ([], [])) : cs = [] := by
  cases cs with
  | nil => rfl
  | cons c r =>
    unfold pieces at h
    split at h
    · simp at h
    · split at h
      · simp at h
      · split at h
        · simp at h
        · split at h
          · split at h <;> simp at h
          · simp at h

namespace Segment

theorem consChar_ne_nil (c : Char) (xs : List Segment) : consChar c xs ≠ [] := by
  unfold consChar
  split <;> exact List.cons_ne_nil _ _

/-- Pieces without segments are no pieces. -/
theorem eq_nil_of_ofPieces {ps : List Piece} (h : ofPieces ps = .ok []) : ps = [] := by
  cases ps with
  | nil => rfl
  | cons p ps =>
    cases p with
    | char c =>
      obtain ⟨xs, -, hnil⟩ := ok_of_map_eq_ok h
      exact absurd hnil (consChar_ne_nil c xs)
    | slot name =>
      rw [ofPieces] at h
      split at h
      · cases h
      · obtain ⟨xs, -, hnil⟩ := ok_of_map_eq_ok h
        cases hnil

theorem literal_nil_notMem_consChar {xs : List Segment} (h : .literal [] ∉ xs) (c : Char) :
    .literal [] ∉ consChar c xs := by
  cases xs with
  | nil => simp [consChar]
  | cons x xs =>
    cases x with
    | literal ds => simpa [consChar] using List.not_mem_of_not_mem_cons h
    | slot p => simpa [consChar] using h

/-- No text among the segments of pieces is empty. -/
theorem literal_nil_notMem_of_ofPieces {ps : List Piece} :
    ∀ {xs : List Segment}, ofPieces ps = .ok xs → .literal [] ∉ xs := by
  induction ps with
  | nil =>
    intro xs h
    simp [← Except.ok.inj h]
  | cons p ps ih =>
    intro xs h
    cases p with
    | char c =>
      obtain ⟨ys, hys, rfl⟩ := ok_of_map_eq_ok h
      exact literal_nil_notMem_consChar (ih hys) c
    | slot name =>
      rw [ofPieces] at h
      split at h
      · cases h
      · obtain ⟨ys, hys, rfl⟩ := ok_of_map_eq_ok h
        simpa using ih hys

end Segment

namespace Template

variable {t : Template} {lookup : Placeholder → Option String} {empty empty' : Placeholder → Prop}

theorem literal_nil_notMem (t : Template) : .literal [] ∉ t.segments := by
  have hread := t.read_source
  rw [readSegments] at hread
  split at hread
  · exact Segment.literal_nil_notMem_of_ofPieces hread
  · cases hread

/-- A template consists of slots that are empty. -/
def IsVoid (t : Template) (empty : Placeholder → Prop) : Prop :=
  ∀ x ∈ t.segments, ∃ p, x = .slot p ∧ empty p

theorem isVoid_congr (h : ∀ p, empty p ↔ empty' p) : t.IsVoid empty ↔ t.IsVoid empty' := by
  simp only [IsVoid, h]

theorem fillSegments_eq_nil_iff {xs : List Segment} {cs : List Char} (hxs : .literal [] ∉ xs)
    (h : fillSegments lookup xs = .ok cs) :
    cs = [] ↔ ∀ x ∈ xs, ∃ p, x = .slot p ∧ lookup p = some "" := by
  induction xs generalizing cs with
  | nil => simp [← Except.ok.inj h]
  | cons x xs ih =>
    rw [List.mem_cons, not_or] at hxs
    rw [List.forall_mem_cons]
    cases x with
    | literal ds =>
      obtain ⟨rest, -, rfl⟩ := ok_of_map_eq_ok h
      have hds : ds ≠ [] := fun hds => hxs.1 (hds ▸ rfl)
      simp [hds]
    | slot p =>
      rw [fillSegments] at h
      split at h
      · cases h
      · next text htext =>
        obtain ⟨rest, hrest, rfl⟩ := ok_of_map_eq_ok h
        simp [← ih hxs.2 hrest, htext]

/-- A template of which no slot is empty is void only if there is nothing in it. -/
theorem isVoid_false_iff : (t.IsVoid fun _ => False) ↔ t.source = "" := by
  have hread := t.read_source
  have hnil : (t.IsVoid fun _ => False) ↔ t.segments = [] := by
    simp [IsVoid, List.eq_nil_iff_forall_not_mem]
  rw [hnil]
  constructor
  · intro hsegments
    rw [hsegments, readSegments] at hread
    split at hread
    · next ps hpieces =>
      rw [Segment.eq_nil_of_ofPieces hread] at hpieces
      exact String.toList_eq_nil_iff.1 (eq_nil_of_pieces hpieces)
    · cases hread
  · intro hsource
    have hempty : readSegments "" = .ok [] := by simp [readSegments, pieces, Segment.ofPieces]
    rw [hsource, hempty] at hread
    exact (Except.ok.inj hread).symm

/-- A template is filled with nothing if its slots are, and there is nothing else. -/
theorem fill_eq_empty_iff {text : String} (h : t.fill lookup = .ok text) :
    text = "" ↔ t.IsVoid fun p => lookup p = some "" := by
  obtain ⟨cs, hcs, rfl⟩ := ok_of_map_eq_ok h
  rw [String.ofList_eq_empty_iff]
  exact fillSegments_eq_nil_iff t.literal_nil_notMem hcs

end Template

/-! ### Slots -/

namespace Rule

variable {r : Rule} {field joiner : String} {assumed : Offset}

/-- The rule leaves nothing of a text of a value. -/
def Erases (r : Rule) (text : String) : Prop :=
  match r.transform with
  | none => text = ""
  | some t => t.Erases text.toList

theorem changed_eq_empty_iff {text : String} : r.changed text = "" ↔ r.Erases text := by
  rw [changed, Erases]
  cases r.transform with
  | none => rfl
  | some t => exact String.ofList_eq_empty_iff.trans Transform.applyChars_eq_nil_iff

/-- The rule fills a slot with nothing in the text of an alternative. -/
def EmptyInItem (r : Rule) (field item : String) : Placeholder → Prop
  | .field => field = ""
  | .param name => r.params.get? name = some ""
  | .value | .item => r.Erases item
  | _ => False

/-- The rule writes nothing for an alternative. -/
def ErasesItem (r : Rule) (field item : String) : Prop :=
  match r.itemTemplate with
  | none => r.Erases item
  | some t => t.IsVoid (r.EmptyInItem field item)

/-- The rule writes nothing for an end of a range. -/
def ErasesEnd (r : Rule) (assumed : Offset) : Option Bound → Prop
  | none => r.paramOr "open_bound" "*" = ""
  | some b => ∃ text, r.boundText assumed b = .ok text ∧ r.Erases text

/-- The rule fills a slot with nothing for a field and a value. -/
def EmptySlot (r : Rule) (joiner : String) (assumed : Offset) (field : String) :
    AtomValue → Placeholder → Prop
  | _, .field => field = ""
  | _, .param name => r.params.get? name = some ""
  | .term t, .value => r.Erases t.text
  | .token t, .value => r.Erases t.value
  | .token t, .tokenKind => t.kind = ""
  | .member v, .values =>
    (∀ item ∈ v.distinct, r.ErasesItem field item) ∧ (joiner = "" ∨ v.distinct.length ≤ 1)
  | .range v, .lower => r.ErasesEnd assumed v.lower
  | .range v, .upper => r.ErasesEnd assumed v.upper
  | .range v, .lowerBracket => r.lowerBracket v.includeLower = ""
  | .range v, .upperBracket => r.upperBracket v.includeUpper = ""
  | _, _ => False

/-- A template of the rule is filled with nothing if its slots are empty. -/
theorem fill_eq_empty_iff {t : Template} {own : Placeholder → Option String} {text : String}
    (h : r.fill field t own = .ok text) :
    text = "" ↔ t.IsVoid fun p => r.slotText field own p = some "" := by
  rw [fill] at h
  split at h
  · next hfill => exact Except.ok.inj h ▸ Template.fill_eq_empty_iff hfill
  · cases h

theorem itemText_eq_empty_iff {item text : String} (h : r.itemText field item = .ok text) :
    text = "" ↔ r.ErasesItem field item := by
  rw [itemText] at h
  rw [ErasesItem]
  cases htemplate : r.itemTemplate with
  | none =>
    rw [htemplate] at h
    rw [← Except.ok.inj h, changed_eq_empty_iff]
  | some t =>
    rw [htemplate] at h
    rw [fill_eq_empty_iff h]
    refine Template.isVoid_congr fun p => ?_
    cases p <;> simp [slotText, itemSlots, EmptyInItem, changed_eq_empty_iff,
      Transform.quote_ne_empty]

theorem endText_eq_empty_iff {b : Option Bound} {text : String}
    (h : r.endText assumed field b = .ok text) : text = "" ↔ r.ErasesEnd assumed b := by
  cases b with
  | none => rw [← Except.ok.inj h, ErasesEnd]
  | some b =>
    rw [endText] at h
    split at h
    · next written hwritten =>
      rw [← Except.ok.inj h, changed_eq_empty_iff]
      simp [ErasesEnd, hwritten]
    · cases h

/-- The texts of alternatives are empty if nothing is written for any of them. -/
theorem forall_eq_empty_iff {items texts : List String}
    (h : items.mapM (r.itemText field) = .ok texts) :
    texts.length = items.length ∧
      ((∀ text ∈ texts, text = "") ↔ ∀ item ∈ items, r.ErasesItem field item) := by
  have hwritten := forall₂_of_mapM_eq_ok h
  clear h
  induction hwritten with
  | nil => simp
  | cons htext _ ih =>
    rw [List.forall_mem_cons, List.forall_mem_cons, ih.2, itemText_eq_empty_iff htext]
    exact ⟨congrArg (· + 1) ih.1, Iff.rfl⟩

/-- The slots that are empty for a value: the names of kinds, ways of comparing and truth values
are never empty, nor is what stands between quotes. -/
theorem slotText_eq_empty_iff {v : AtomValue} {own : Placeholder → Option String}
    (h : r.slots joiner assumed field v = .ok own) (p : Placeholder) :
    r.slotText field own p = some "" ↔ r.EmptySlot joiner assumed field v p := by
  cases v with
  | term t =>
    rw [← Except.ok.inj h]
    cases p <;> simp [slotText, termSlots, EmptySlot, changed_eq_empty_iff,
      Transform.quote_ne_empty, MatchType.name_ne_empty]
  | member v =>
    obtain ⟨texts, htexts, h⟩ := ok_of_bind_eq_ok h
    obtain ⟨hlength, hall⟩ := forall_eq_empty_iff htexts
    rw [← Except.ok.inj h]
    cases p <;> simp [slotText, memberSlots, EmptySlot, intercalate_eq_empty_iff, hall, hlength]
  | range v =>
    obtain ⟨lower, hlower, h⟩ := ok_of_bind_eq_ok h
    obtain ⟨upper, hupper, h⟩ := ok_of_bind_eq_ok h
    rw [← Except.ok.inj h]
    cases p <;> simp [slotText, rangeSlots, EmptySlot, endText_eq_empty_iff hlower,
      endText_eq_empty_iff hupper, RangeKind.name_ne_empty]
  | presence expected =>
    rw [← Except.ok.inj h]
    have hname : toString expected ≠ "" := by cases expected <;> decide
    cases p <;> simp [slotText, presenceSlots, EmptySlot, hname]
  | token t =>
    rw [← Except.ok.inj h]
    cases p <;> simp [slotText, tokenSlots, EmptySlot, changed_eq_empty_iff,
      Transform.quote_ne_empty]

end Rule

/-! ### Atoms -/

section

variable {s : Snapshot} {d : Dialect} {r : Rule} {assumed : Offset} {a : Atom}

theorem Dialect.group_eq_empty_iff {fragment : String} :
    d.group fragment = "" ↔ fragment = "" ∧ d.groupOpen = "" ∧ d.groupClose = "" := by
  rw [group, String.append_eq_empty_iff, String.append_eq_empty_iff,
    and_comm (a := d.groupOpen = ""), and_assoc]

/-- The rule writes nothing for an atom, and no delimiters around it. -/
def Rule.IsVoidFor (r : Rule) (d : Dialect) (assumed : Offset) (a : Atom) : Prop :=
  r.template.IsVoid (r.EmptySlot (r.joiner.getD d.orJoiner) assumed a.field a.value) ∧
    (r.wrapGroup = true → d.groupOpen = "" ∧ d.groupClose = "")

/-- A slot is empty in a denial, where `inner` says that nothing is denied. -/
def Dialect.EmptyInDenial (field : Option String) (inner : Prop) : Placeholder → Prop
  | .field => field = some ""
  | .value => inner
  | _ => False

/-- Nothing is written for an atom, by its rule or by the denial of what its rule writes. -/
def Atom.IsVoid (s : Snapshot) (assumed : Offset) (a : Atom) : Prop :=
  ∃ r denied, s.ruleFor? a = some (r, denied) ∧
    if denied then
      ∃ t, s.dialect.notTemplate = some t ∧
        t.IsVoid (Dialect.EmptyInDenial (some a.field) (r.IsVoidFor s.dialect assumed a))
    else r.IsVoidFor s.dialect assumed a

/-- The text of an atom by a rule, as a group if the rule wants it. -/
theorem Rule.grouped_eq_empty_iff {text : String} (h : r.write d assumed a = .ok text) :
    (if r.wrapGroup then d.group text else text) = "" ↔ r.IsVoidFor d assumed a := by
  obtain ⟨own, hown, htext⟩ := ok_of_bind_eq_ok h
  have hvoid : text = "" ↔
      r.template.IsVoid (r.EmptySlot (r.joiner.getD d.orJoiner) assumed a.field a.value) :=
    (fill_eq_empty_iff htext).trans (Template.isVoid_congr (slotText_eq_empty_iff hown))
  rw [IsVoidFor, ← hvoid]
  split
  · next hwrap => simp [Dialect.group_eq_empty_iff, hwrap]
  · next hwrap => simp [hwrap]

/-- A denial is empty if the template for denials is void. -/
theorem Dialect.deny_eq_empty_iff {field : Option String} {inner text : String}
    (h : d.deny field inner = .ok text) :
    text = "" ↔ ∃ t, d.notTemplate = some t ∧ t.IsVoid (EmptyInDenial field (inner = "")) := by
  rw [deny] at h
  split at h
  · cases h
  · next t ht =>
    split at h
    · next hfill =>
      have hslots : ∀ p, denialSlots field inner p = some "" ↔
          EmptyInDenial field (inner = "") p := fun p => by
        cases p <;> simp [denialSlots, EmptyInDenial]
      rw [← Except.ok.inj h, Template.fill_eq_empty_iff hfill, Template.isVoid_congr hslots, ht]
      simp
    · cases h

/-- The fragment of an atom is empty if nothing is written for it. -/
theorem Atom.fragment_eq_empty_iff {w : Applied} (h : a.write s assumed = .ok w) :
    w.fragment = "" ↔ a.IsVoid s assumed := by
  obtain ⟨hrule, text, htext, hfragment⟩ := exists_text_of_write h
  have hgrouped := Rule.grouped_eq_empty_iff htext
  cases hdenied : w.denied with
  | false =>
    rw [hdenied] at hrule hfragment
    rw [← Except.ok.inj hfragment, hgrouped]
    simp [IsVoid, hrule]
  | true =>
    rw [hdenied] at hrule hfragment
    rw [Dialect.deny_eq_empty_iff hfragment, hgrouped]
    simp [IsVoid, hrule]

end

end BiblioQuery
