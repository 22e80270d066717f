import BiblioQuery.Proofs.Expr.NormalForm
import BiblioQuery.Proofs.Query.Phrase
import BiblioQuery.Query.Rendering

/-!
# The grouping of a query

In the standard dialect a query says of its words what the expression says of its atoms.  Each atom
has a phrase, which is a word or a denied one, and from these the expression gets one: its groups
become groups and its negations denials.  If all atoms are written as words, the query is the text
of this phrase, and of no other one.

## Main definitions

* `Atom.IsWrittenAs` : the rule for an atom puts a word into the query.
* `Atom.phrase?`, `Expr.phrase?` : the phrases of atoms and of expressions.

## Main results

* `Dialect.deny_standard`, `Dialect.join_standard` : denials and groups in the standard dialect.
* `Expr.write_of_phrase?` : the fragment of an expression is the text of its phrase.
* `Expr.exists_phrase?_of_isNormal` : normal expressions other than truth values have a phrase.
* `Expr.text_eq_query_iff_of_normalize` : a query has one reading, which is the phrase of its
  expression.
-/

namespace BiblioQuery

/-! ### The standard dialect -/

namespace Dialect

/-- The template for denials of the standard dialect. -/
def standardDenial : Template :=
  ⟨"NOT \x7bvalue\x7d", [.literal "NOT ".toList, .slot .value], by cbv⟩

theorem notTemplate_standard : standard.notTemplate = some standardDenial := by
  change (Template.parse standardDenial.source).toOption = _
  rw [Template.parse_source]
  rfl

/-- A denial is written by a word before the fragment. -/
theorem deny_standard (field : Option String) (inner : String) :
    standard.deny field inner = .ok ("NOT " ++ inner) := by
  rw [deny, notTemplate_standard]
  simp only [Template.fill, standardDenial, Template.fillSegments, denialSlots, Except.map,
    List.append_nil, String.ofList_append, String.ofList_toList]

theorem joiner_standard (c : Connective) : standard.joiner c = c.spaced := by
  cases c <;> rfl

/-- Texts of phrases with the connective between them are the text of the first one and of more. -/
theorem intercalate_spaced (c : Connective) (p : Phrase) (ps : List Phrase) :
    c.spaced.intercalate ((p :: ps).map Phrase.text) = p.text ++ Phrase.textOfMore c ps := by
  induction ps generalizing p with
  | nil => simp [Phrase.textOfMore]
  | cons q qs ih =>
    rw [List.map_cons, List.map_cons, String.intercalate_cons_cons, ← List.map_cons, ih q,
      Phrase.textOfMore]
    simp only [String.append_assoc]

/-- Two or more phrases are joined to a group of them. -/
theorem join_standard (c : Connective) (p q : Phrase) (ps : List Phrase) :
    standard.join c ((p :: q :: ps).map Phrase.text) = (Phrase.group c p q ps).text := by
  have hfilter : ((p :: q :: ps).map Phrase.text).filter (fun s => !s.isEmpty) =
      (p :: q :: ps).map Phrase.text := by
    rw [List.filter_eq_self, List.forall_mem_map]
    intro p _
    simp [p.text_ne_empty]
  have hjoined := intercalate_spaced c p (q :: ps)
  rw [List.map_cons, List.map_cons, Phrase.textOfMore] at hjoined
  rw [join, hfilter, Phrase.text]
  simp only [List.map_cons, group, joiner_standard, hjoined]
  rfl

end Dialect

/-! ### Atoms -/

section

variable {s : Snapshot} {assumed : Offset} {a : Atom} {r : Rule} {w : Word} {denied : Bool}

theorem Word.ofText?_text (w : Word) : ofText? w.text = some w := dif_pos w.isWord

namespace Atom

/-- The rule for an atom puts a word into the query, without brackets. -/
def IsWrittenAs (s : Snapshot) (assumed : Offset) (a : Atom) (w : Word) : Prop :=
  ∃ r denied, s.ruleFor? a = some (r, denied) ∧ r.emit = .query ∧ r.wrapGroup = false ∧
    r.write s.dialect assumed a = .ok w.text

/-- The word that the rule for an atom writes. -/
def word? (s : Snapshot) (assumed : Offset) (a : Atom) : Option Word := do
  let (r, _) ← s.ruleFor? a
  let text ← (r.write s.dialect assumed a).toOption
  Word.ofText? text

/-- The phrase of an atom: its word, denied if the atom is negated and no rule for denials fits
it. -/
def phrase? (s : Snapshot) (assumed : Offset) (a : Atom) : Option Phrase :=
  (a.word? s assumed).map fun w =>
    if a.negated && (s.selectDenial? a).isNone then .denial (.word w) else .word w

theorem IsWrittenAs.word? (h : a.IsWrittenAs s assumed w) : a.word? s assumed = some w := by
  obtain ⟨r, denied, hrule, -, -, hwritten⟩ := h
  simp [Atom.word?, hrule, hwritten, Except.toOption, Word.ofText?_text]

/-- The phrase of an atom that is written as a word. -/
theorem IsWrittenAs.phrase? (h : a.IsWrittenAs s assumed w) :
    a.phrase? s assumed =
      some (if a.negated && (s.selectDenial? a).isNone then .denial (.word w) else .word w) := by
  rw [Atom.phrase?, h.word?]
  rfl

/-- The text of its phrase is what goes to the query for an atom that is written as a word. -/
theorem IsWrittenAs.exists_phrase? (h : a.IsWrittenAs s assumed w) (hd : s.dialect = .standard) :
    ∃ p y, a.phrase? s assumed = some p ∧ a.write s assumed = .ok y ∧
      y.fragment = p.text ∧ y.rule.emit = .query := by
  rw [h.phrase?]
  obtain ⟨r, denied, hrule, hemit, hungrouped, hwritten⟩ := h
  rw [write, hrule, ← Snapshot.denied_of_ruleFor? hrule]
  simp only [hwritten, hungrouped]
  cases denied with
  | false => exact ⟨_, _, rfl, rfl, rfl, hemit⟩
  | true =>
    rw [hd]
    simp only [if_true, Dialect.deny_standard]
    exact ⟨_, _, rfl, rfl, by simp [Phrase.text], hemit⟩

end Atom

end

/-! ### Expressions -/

namespace Expr

variable {s : Snapshot} {assumed : Offset} {e n : Expr} {mode : Bool}

mutual

/-- The phrase of an expression: its groups are groups, and its negations are denials. -/
def phrase? (s : Snapshot) (assumed : Offset) : Expr → Option Phrase
  | .const _ => none
  | .atom a => a.phrase? s assumed
  | .group c xs =>
    match phrases? s assumed xs with
    | some (p :: q :: ps) => some (.group c p q ps)
    | _ => none
  | .not x => (phrase? s assumed x).map .denial

/-- The phrases of a list of expressions. -/
def phrases? (s : Snapshot) (assumed : Offset) : List Expr → Option (List Phrase)
  | [] => some []
  | x :: xs => do
    let p ← phrase? s assumed x
    let ps ← phrases? s assumed xs
    return p :: ps

end

mutual

/-- The fragment of an expression is the text of its phrase, and nothing is found. -/
theorem write_of_phrase? (hd : s.dialect = .standard) : (e : Expr) → (conditional : Bool) →
    {p : Phrase} → (∀ a ∈ e.atoms, ∃ w, a.IsWrittenAs s assumed w) →
    e.phrase? s assumed = some p →
      (e.write s assumed conditional).text = p.text ∧ (e.write s assumed conditional).faults = []
  | .const _, _, _, _, hp => nomatch hp
  | .atom a, conditional, p, hwords, hp => by
    obtain ⟨w, hw⟩ := hwords a (List.mem_singleton_self a)
    obtain ⟨p', y, hp', hy, hfragment, hemit⟩ := hw.exists_phrase? hd
    obtain rfl : p' = p := Option.some.inj (hp'.symm.trans hp)
    rw [write, hy]
    simp [Applied.writing, Rule.paramTarget?, hemit, hfragment]
  | .group c xs, conditional, p, hwords, hp => by
    rw [phrase?] at hp
    split at hp
    · rename_i p q ps hps
      obtain rfl := Option.some.inj hp
      obtain ⟨htexts, hfaults⟩ := writeList_of_phrases? hd xs (conditional || c == .any) hwords hps
      rw [write, Dialect.joinWritings, htexts, hd, Dialect.join_standard]
      exact ⟨rfl, hfaults⟩
    · cases hp
  | .not x, conditional, p, hwords, hp => by
    obtain ⟨q, hq, rfl⟩ := Option.map_eq_some_iff.1 hp
    obtain ⟨htext, hfaults⟩ := write_of_phrase? hd x true hwords hq
    -- an empty fragment would not be denied, but there is none
    rw [write, Dialect.denyWriting, htext, hd, Dialect.deny_standard, Phrase.text]
    simp [q.text_ne_empty, hfaults]

theorem writeList_of_phrases? (hd : s.dialect = .standard) : (xs : List Expr) →
    (conditional : Bool) → {ps : List Phrase} →
    (∀ a ∈ atomsOfList xs, ∃ w, a.IsWrittenAs s assumed w) → phrases? s assumed xs = some ps →
      (writeList s assumed conditional xs).map Writing.text = ps.map Phrase.text ∧
        (writeList s assumed conditional xs).flatMap Writing.faults = []
  | [], _, _, _, hps => by
    obtain rfl := Option.some.inj hps
    exact ⟨rfl, rfl⟩
  | x :: xs, conditional, ps, hwords, hps => by
    rw [atomsOfList, List.forall_mem_append] at hwords
    obtain ⟨p, hp, hrest⟩ := Option.bind_eq_some_iff.1 hps
    obtain ⟨qs, hqs, hcons⟩ := Option.bind_eq_some_iff.1 hrest
    obtain rfl := Option.some.inj hcons
    obtain ⟨htext, hfaults⟩ := write_of_phrase? hd x conditional hwords.1 hp
    obtain ⟨htexts, hmore⟩ := writeList_of_phrases? hd xs conditional hwords.2 hqs
    simp [writeList, htext, hfaults, htexts, hmore]

end

theorem exists_phrases? {xs : List Expr} (h : ∀ x ∈ xs, ∃ p, x.phrase? s assumed = some p) :
    ∃ ps, phrases? s assumed xs = some ps ∧ ps.length = xs.length := by
  induction xs with
  | nil => exact ⟨[], rfl, rfl⟩
  | cons x xs ih =>
    rw [List.forall_mem_cons] at h
    obtain ⟨⟨p, hp⟩, hxs⟩ := h
    obtain ⟨ps, hps, hlength⟩ := ih hxs
    exact ⟨p :: ps, by simp [phrases?, hp, hps], by simp [hlength]⟩

/-- A normal expression other than a truth value has a phrase, if its atoms are written as words. -/
theorem exists_phrase?_of_isNormal (h : n.IsNormal) (hconst : ∀ b, n ≠ .const b)
    (hd : s.dialect = .standard) (hwords : ∀ a ∈ n.atoms, ∃ w, a.IsWrittenAs s assumed w) :
    ∃ p, n.phrase? s assumed = some p := by
  induction h with
  | const b => exact absurd rfl (hconst b)
  | atom a =>
    obtain ⟨w, hw⟩ := hwords a (List.mem_singleton_self a)
    obtain ⟨p, -, hp, -⟩ := hw.exists_phrase? hd
    exact ⟨p, hp⟩
  | @group c xs hlen hmem hxs ih =>
    have hmembers : ∀ x ∈ xs, ∃ p, x.phrase? s assumed = some p := by
      intro x hx
      have hx' : ∀ b, x ≠ .const b := by
        rintro b rfl
        exact hmem _ hx
      exact ih x hx hx' fun a ha => hwords a (mem_atomsOfList hx ha)
    obtain ⟨ps, hps, hlength⟩ := exists_phrases? hmembers
    -- no member is lost, so there are at least two phrases
    rw [← hlength] at hlen
    match ps, hps, hlen with
    | p :: q :: ps, hps, _ => exact ⟨.group c p q ps, by rw [phrase?, hps]⟩
  | notGroup h ih =>
    obtain ⟨p, hp⟩ := ih nofun hwords
    exact ⟨.denial p, by rw [phrase?, hp]; rfl⟩

/-- In the standard dialect, and with words for atoms, a query is written without fault and has one
reading, which is the phrase of the normal form. -/
theorem text_eq_query_iff_of_normalize (h : e.normalize mode = .ok n) (hconst : ∀ b, n ≠ .const b)
    (hd : s.dialect = .standard) (hwords : ∀ a ∈ n.atoms, ∃ w, a.IsWrittenAs s assumed w)
    (traced : Bool) :
    (n.render s assumed traced).issues = [] ∧
      ∃ p, n.phrase? s assumed = some p ∧
        ∀ q : Phrase, q.text = (n.render s assumed traced).query ↔ q = p := by
  have hnormal : n.IsNormal := eq_normalForm_of_normalize e h ▸ isNormal_normalForm e
  obtain ⟨p, hp⟩ := exists_phrase?_of_isNormal hnormal hconst hd hwords
  obtain ⟨htext, hfaults⟩ := write_of_phrase? hd n false hwords hp
  refine ⟨by simp [render, hfaults], p, hp, fun q => ?_⟩
  simp only [render, htext]
  exact Phrase.text_injective.eq_iff

/-! ### A query with groups and denials -/

/-- The rule that writes a text behind its field. -/
def colonRule : Rule :=
  .of "colon" ⟨"\x7bfield\x7d:\x7bvalue\x7d", [.slot .field, .literal [':'], .slot .value], by cbv⟩

/-- The rule that writes a text that is not in the title behind a dash. -/
def dashRule : Rule :=
  { Rule.of "dash" ⟨"-\x7bvalue\x7d", [.literal ['-'], .slot .value], by cbv⟩ with
    field := some "title", negated := some true }

/-- A provider with these rules and the standard dialect. -/
def colonsAndDashes : Snapshot where
  provenanceId := 1
  code := "a"
  taskType := "harvest"
  operation := "search"
  version := 1
  capturedAt := .epoch
  declarations := []
  dialect := .standard
  rules := [colonRule, dashRule]

/-- An expression with groups of both kinds, a denied group, and denied atoms with and without a
rule for denials. -/
def mixed : Expr :=
  .and [.or [.atom (.exact "author" "knuth"), .not (.atom (.exact "year" "1984"))],
    .not (.or [.atom (Atom.exact "title" "tex").negate, .atom (.exact "venue" "cacm")])]

/-- The normal form of `mixed`. -/
def mixedNormal : Expr :=
  .and [.or [.atom (.exact "author" "knuth"), .atom (Atom.exact "year" "1984").negate],
    .not (.or [.atom (Atom.exact "title" "tex").negate, .atom (.exact "venue" "cacm")])]

/-- The phrase of `mixedNormal`. -/
def mixedPhrase : Phrase :=
  .group .all
    (.group .any (.word ⟨"author:knuth", by decide⟩) (.denial (.word ⟨"year:1984", by decide⟩)) [])
    (.denial (.group .any (.word ⟨"-tex", by decide⟩) (.word ⟨"venue:cacm", by decide⟩) []))
    []

theorem exists_isWrittenAs_mixedNormal :
    ∀ a ∈ mixedNormal.atoms, ∃ w, a.IsWrittenAs colonsAndDashes .utc w := by
  change ∀ a ∈ [_, _, _, _], _
  simp only [List.forall_mem_cons]
  exact ⟨⟨⟨"author:knuth", by decide⟩, colonRule, false, by decide, rfl, rfl, by cbv⟩,
    ⟨⟨"year:1984", by decide⟩, colonRule, true, by decide, rfl, rfl, by cbv⟩,
    ⟨⟨"-tex", by decide⟩, dashRule, false, by decide, rfl, rfl, by cbv⟩,
    ⟨⟨"venue:cacm", by decide⟩, colonRule, false, by decide, rfl, rfl, by cbv⟩,
    List.forall_mem_nil _⟩

/-- All groups and denials of `mixed` are read back where they stand. -/
theorem text_eq_query_iff_of_normalize_mixed :
    mixed.normalize true = .ok mixedNormal ∧
      (mixedNormal.render colonsAndDashes .utc false).issues = [] ∧
      (mixedNormal.render colonsAndDashes .utc false).query =
        "((author:knuth OR NOT year:1984) AND NOT (-tex OR venue:cacm))" ∧
      ∀ q : Phrase, q.text = (mixedNormal.render colonsAndDashes .utc false).query ↔
        q = mixedPhrase := by
  have hnormal : mixed.normalize true = .ok mixedNormal := rfl
  obtain ⟨hissues, p, hp, hread⟩ := text_eq_query_iff_of_normalize hnormal nofun rfl
    exists_isWrittenAs_mixedNormal false
  have hphrase : mixedNormal.phrase? colonsAndDashes .utc = some mixedPhrase := rfl
  obtain rfl : p = mixedPhrase := Option.some.inj (hp.symm.trans hphrase)
  have htext : mixedPhrase.text =
      "((author:knuth OR NOT year:1984) AND NOT (-tex OR venue:cacm))" := by
    decide
  exact ⟨hnormal, hissues, ((hread mixedPhrase).2 rfl).symm.trans htext, hread⟩

end Expr

end BiblioQuery
