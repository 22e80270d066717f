import BiblioQuery.Pattern.Basic
import BiblioQuery.Proofs.Pattern.Matching
import BiblioQuery.Proofs.Pattern.Readings
import Mathlib

/-!
# Sources between anchors

A pattern is read from a source that is put, as a text, into a group between the anchors of a whole
text.  If the source is a regular expression of its own, the group holds it as a whole, and a text
matches if and only if the expression describes all of it.  But a closing parenthesis of the source
that opens nothing closes the group, and then other texts may match although the source is no
regular expression.

The anchored source is read like the source alone, with one more group around, up to the first
closing parenthesis that finds only this group open.

## Main definitions

* `Regex.Reading.under` : a reading with further groups around it.
* `Regex.Group.HoldsDepth`, `Regex.Reading.HoldsDepth` : some piece is as deep as told.

## Main results

* `Regex.push?_under` : a token does the same whatever groups stand around.
* `Regex.Reading.Reads.exists_closing` : where the group around a text is closed.
* `Regex.Reading.HoldsDepth.push` : reading on does not make an expression less deep.
* `Regex.parse?_anchored` : what a source between anchors is read into.
* `Pattern.accepts_iff_of_ofSource?` : which texts match a pattern.
* `Pattern.not_accepts_iff_of_looseLetters` : a pattern of a source that is no regular expression.
-/

namespace BiblioQuery

namespace Regex

variable {f : Flags} {st st' st'' : Reading} {s s' s'' t r w : List Char} {x : Token} {n m : Nat}
  {g : Group} {gs : List Group}

/-! ### Groups around a reading -/

/-- The reading with further groups around it. -/
def Reading.under (st : Reading) (gs : List Group) : Reading := { st with outer := st.outer ++ gs }

/-- A token does the same whatever groups stand around, unless it closes one of them. -/
theorem push?_under (h : x = .closing → st.outer ≠ []) :
    push? (st.under gs) x = (push? st x).map (·.under gs) := by
  obtain ⟨g, outer, names⟩ := st
  cases x with
  | closing =>
    cases outer with
    | nil => exact absurd rfl (h rfl)
    | cons o outer => rfl
  | quantifier min max marked =>
    cases hpieces : g.pieces with
    | nil => simp [push?, Reading.under, hpieces]
    | cons p ps => cases hrep : g.repeatable <;> simp [push?, Reading.under, hpieces, hrep]
  | dot => cases hunicode : g.flags.unicode <;> simp [push?, Reading.under, hunicode]
  | capture name =>
    cases name with
    | none => rfl
    | some name =>
      by_cases hname : name ∈ names <;> simp [push?, Reading.under, Reading.enter, hname]
  | _ => rfl

/-- A reading that ends without open groups has closed the group around the text at some place.
Up to there, the tokens of the text have been read as they are without that group. -/
theorem Reading.Reads.exists_closing (h : (st.under [g]).Reads s st'' s'')
    (hend : st''.outer = []) : ∃ st' w y, st.Reads s st' w ∧ st'.outer = [] ∧
      skip st'.group.flags w = ')' :: y ∧
      (Reading.mk (g.add (.group st'.group.captured st'.group.close.regex)
        (st'.group.close.depth + 1)) [] st'.names).Reads y st'' s'' := by
  generalize hu : st.under [g] = u at h
  induction h generalizing st with
  | refl =>
    subst hu
    simp [Reading.under] at hend
  | @step _ _ _ s r _ x hx hpush hrest ih =>
    subst hu
    -- The group around the text is closed here, or the token is one of the text.
    by_cases hclose : x = .closing ∧ st.outer = []
    · obtain ⟨rfl, houter⟩ := hclose
      refine ⟨st, s, r, .refl st s, houter, eq_of_token_closing hx, ?_⟩
      obtain ⟨g', outer, names⟩ := st
      obtain rfl : outer = [] := houter
      cases hpush
      exact hrest
    · rw [push?_under (by tauto)] at hpush
      obtain ⟨u, hu, rfl⟩ := Option.map_eq_some_iff.1 hpush
      obtain ⟨st', w, y, hreads, hmore⟩ := ih hend rfl
      exact ⟨st', w, y, .step hx hu hreads, hmore⟩

/-! ### Depths -/

theorem le_foldl_max (ps : List Piece) (d : Nat) :
    d ≤ ps.foldl (fun d p => max d p.depth) d ∧
      ∀ p ∈ ps, p.depth ≤ ps.foldl (fun d p => max d p.depth) d := by
  induction ps generalizing d with
  | nil => simp
  | cons q ps ih =>
    obtain ⟨hd, hps⟩ := ih (max d q.depth)
    refine ⟨by simp only [List.foldl_cons]; omega, fun p hp => ?_⟩
    rw [List.foldl_cons]
    cases List.mem_cons.1 hp with
    | inl hpq => subst hpq; omega
    | inr hp => exact hps p hp

theorem Piece.le_deepest {p : Piece} {ps : List Piece} (h : p ∈ ps) :
    p.depth ≤ Piece.deepest ps :=
  (le_foldl_max ps 0).2 p h

theorem Piece.le_sequence {p : Piece} {ps : List Piece} (h : p ∈ ps) :
    p.depth ≤ (Piece.sequence ps).depth := by
  match ps with
  | [q] => rw [List.mem_singleton.1 h, Piece.sequence]
  | q :: q' :: ps => exact Nat.le_succ_of_le (Piece.le_deepest h)

theorem Piece.le_choice {p q : Piece} {ps : List Piece} (h : p ∈ q :: ps) :
    p.depth ≤ (Piece.choice q ps).depth := by
  match ps with
  | [] => rw [List.mem_singleton.1 h, Piece.choice]
  | q' :: ps => exact Nat.le_succ_of_le (Piece.le_deepest h)

namespace Group

variable {d : Nat}

/-- Some piece in the group has at least the given depth. -/
def HoldsDepth (d : Nat) (g : Group) : Prop :=
  ∃ p, (p ∈ g.pieces ∨ p ∈ g.alternatives) ∧ d ≤ p.depth

/-- What stands in a group is at least as deep as its pieces. -/
theorem HoldsDepth.le_close (h : g.HoldsDepth d) : d ≤ g.close.depth := by
  obtain ⟨p, hp, hd⟩ := h
  refine Nat.le_trans hd ?_
  unfold close
  split
  · rename_i hnone
    have hempty : g.alternatives = [] := by simpa using hnone
    rw [hempty] at hp
    exact Piece.le_sequence (List.mem_reverse.2 (hp.resolve_right (List.not_mem_nil)))
  · rename_i q qs hq
    cases hp with
    | inl hp =>
      exact Nat.le_trans (Piece.le_sequence (List.mem_reverse.2 hp)) (Piece.le_choice (by simp))
    | inr hp =>
      have hmem : p ∈ q :: qs := hq ▸ List.mem_reverse.2 hp
      exact Piece.le_choice (List.mem_append_left [_] hmem)

theorem HoldsDepth.add (h : g.HoldsDepth d) (r : Regex) (k : Nat) : (g.add r k).HoldsDepth d := by
  obtain ⟨p, hp, hd⟩ := h
  exact ⟨p, hp.imp_left (List.mem_cons_of_mem _), hd⟩

end Group

/-- A token changes the innermost group and keeps its depth, opens a group or closes one. -/
theorem push?_cases (h : push? st x = some st') :
    (∃ g, st' = { st with group := g } ∧ ∀ d, st.group.HoldsDepth d → g.HoldsDepth d) ∨
      (∃ g names, st' = ⟨g, st.group :: st.outer, names⟩) ∨
      ∃ o outer, st.outer = o :: outer ∧ st' = ⟨o.add
        (.group st.group.captured st.group.close.regex) (st.group.close.depth + 1), outer,
          st.names⟩ := by
  obtain ⟨g, outer, names⟩ := st
  cases x with
  | quantifier min max marked =>
    simp only [push?] at h
    split at h
    · cases h
    · rename_i p ps hpieces
      split at h
      · cases h
        refine .inl ⟨_, rfl, fun d ⟨q, hq, hd⟩ => ?_⟩
        rw [hpieces] at hq
        obtain (hq | hq) | hq := hq.imp_left List.mem_cons.1
        · exact ⟨_, .inl List.mem_cons_self, by subst hq; exact Nat.le_succ_of_le hd⟩
        · exact ⟨q, .inl (List.mem_cons_of_mem _ hq), hd⟩
        · exact ⟨q, .inr hq, hd⟩
      · cases h
  | bar =>
    cases h
    refine .inl ⟨_, rfl, fun d ⟨q, hq, hd⟩ => ?_⟩
    cases hq with
    | inl hq =>
      exact ⟨_, .inr List.mem_cons_self,
        Nat.le_trans hd (Piece.le_sequence (List.mem_reverse.2 hq))⟩
    | inr hq => exact ⟨q, .inr (List.mem_cons_of_mem _ hq), hd⟩
  | dot =>
    simp only [push?] at h
    split at h
    · cases h
      exact .inl ⟨_, rfl, fun d hd => hd.add _ _⟩
    · cases h
  | capture name =>
    cases name with
    | none =>
      cases h
      exact .inr (.inl ⟨_, _, rfl⟩)
    | some name =>
      simp only [push?] at h
      split at h
      · cases h
      · cases h
        exact .inr (.inl ⟨_, _, rfl⟩)
  | opening w =>
    cases h
    exact .inr (.inl ⟨_, _, rfl⟩)
  | closing =>
    cases outer with
    | nil => cases h
    | cons o outer =>
      cases h
      exact .inr (.inr ⟨o, outer, rfl, rfl⟩)
  | switch w =>
    cases h
    exact .inl ⟨_, rfl, fun d ⟨q, hq, hd⟩ => ⟨q, hq.imp_left (List.mem_cons_of_mem _), hd⟩⟩
  | _ =>
    cases h
    exact .inl ⟨_, rfl, fun d hd => hd.add _ _⟩

/-- Some piece in an open group has at least the given depth. -/
def Reading.HoldsDepth (d : Nat) (st : Reading) : Prop :=
  ∃ g ∈ st.group :: st.outer, g.HoldsDepth d

theorem Reading.HoldsDepth.push {d : Nat} (h : st.HoldsDepth d) (hpush : push? st x = some st') :
    st'.HoldsDepth d := by
  obtain ⟨g, hg, hd⟩ := h
  obtain ⟨g', rfl, hkeeps⟩ | ⟨g', names, rfl⟩ | ⟨o, outer, houter, rfl⟩ := push?_cases hpush
  · obtain rfl | hg := List.mem_cons.1 hg
    · exact ⟨g', List.mem_cons_self, hkeeps d hd⟩
    · exact ⟨g, List.mem_cons_of_mem _ hg, hd⟩
  · exact ⟨g, List.mem_cons_of_mem _ hg, hd⟩
  · obtain rfl | hg := List.mem_cons.1 hg
    · exact ⟨_, List.mem_cons_self, _, .inl List.mem_cons_self, Nat.le_succ_of_le hd.le_close⟩
    · rw [houter] at hg
      obtain rfl | hg := List.mem_cons.1 hg
      · exact ⟨_, List.mem_cons_self, hd.add _ _⟩
      · exact ⟨g, List.mem_cons_of_mem _ hg, hd⟩

theorem Reading.HoldsDepth.reads {d : Nat} (h : st.HoldsDepth d) (hreads : st.Reads s st' s') :
    st'.HoldsDepth d := by
  induction hreads with
  | refl => exact h
  | step _ hpush _ ih => exact ih (h.push hpush)

/-- What is read after a piece is at least as deep as the piece, once all groups around it are
closed. -/
theorem Reading.Reads.le_close {q : Regex} {k : Nat} {names : List (List Char)}
    (h : (Reading.mk (g.add q k) [] names).Reads s st s') (houter : st.outer = []) :
    k ≤ st.group.close.depth := by
  have hstart : Reading.HoldsDepth k ⟨g.add q k, [], names⟩ :=
    ⟨_, List.mem_cons_self, _, .inl List.mem_cons_self, Nat.le_refl k⟩
  obtain ⟨g', hg, hd⟩ := hstart.reads h
  rw [houter, List.mem_singleton] at hg
  exact hg ▸ hd.le_close

/-! ### Anchored sources -/

/-- The reading of a text before its first token. -/
def Reading.initial : Reading := ⟨.start .initial false, [], []⟩

theorem parse?_eq_none_of_run? (h : Reading.initial.run? s = none) : parse? s = none := by
  have hread : readFrom? s.length ⟨.start .initial false, [], []⟩ s = none := h
  rw [parse?, hread]

theorem parse?_eq_some_iff {q : Regex} : parse? s = some q ↔
    ∃ st, Reading.initial.run? s = some st ∧ st.outer = [] ∧ st.group.close.depth ≤ maxDepth ∧
      st.group.close.regex = q := by
  have hread : readFrom? s.length ⟨.start .initial false, [], []⟩ s = Reading.initial.run? s := rfl
  rw [parse?, hread]
  cases Reading.initial.run? s with
  | none => simp
  | some st =>
    obtain ⟨g, _ | ⟨o, outer⟩, names⟩ := st
    · simp
    · simp

/-- The group around an anchored source, after the first anchor. -/
def anchoredGroup : Group := (Group.start .initial false).add (.assertion .textStart) 0

/-- The anchors before a source put a group around it. -/
theorem run?_anchored (source : String) : Reading.initial.run? (Pattern.anchored source) =
    (Reading.initial.under [anchoredGroup]).run? (source.toList ++ ")$".toList) := by
  have hcaret : Reading.initial.run? (Pattern.anchored source) =
      (Reading.mk anchoredGroup [] []).run? ("(?:".toList ++ source.toList ++ ")$".toList) :=
    Reading.run?_of_push rfl rfl
  rw [hcaret]
  exact Reading.run?_of_push rfl rfl

/-- After the group that stands between the anchors is closed, the last anchor completes it. -/
theorem run?_dollar (q : Regex) (k : Nat) (names : List (List Char)) :
    (Reading.mk (anchoredGroup.add q k) [] names).run? ['$'] =
      some ⟨(anchoredGroup.add q k).add (.assertion .textEnd) 0, [], names⟩ := by
  have hdollar : (Reading.mk (anchoredGroup.add q k) [] names).run? ['$'] =
      (Reading.mk ((anchoredGroup.add q k).add (.assertion .textEnd) 0) [] names).run? [] :=
    Reading.run?_of_push rfl rfl
  rw [hdollar]
  exact Reading.run?_of_skip_eq_nil rfl

/-! ### Up to a closing parenthesis -/

theorem ne_brace_of_skip_closing {y : List Char} (h : skip f (w ++ ')' :: y) = ')' :: y)
    (r : List Char) : w ≠ '\x7b' :: r := by
  rintro rfl
  rw [List.cons_append, skip_cons (by decide) (by decide)] at h
  cases h

/-- What is read up to a closing parenthesis is what is read of the text before it. -/
theorem Reading.Reads.run?_of_closing {y : List Char}
    (h : st.Reads (s ++ ')' :: y) st' (w ++ ')' :: y))
    (hw : skip st'.group.flags (w ++ ')' :: y) = ')' :: y) : st.run? s = some st' := by
  have hpart : st.Reads s st' w := h.cut (ne_brace_of_skip_closing hw)
  exact hpart.run?_eq.trans (Reading.run?_of_skip_eq_nil (skip_cut (r := []) hw))

/-- If no group is open before a closing parenthesis, no text that goes on with it is read, as far
as the text is known. -/
theorem Reading.Reads.run?_eq_none_of_closing {y b : List Char}
    (h : st.Reads (s ++ ')' :: y) st' (w ++ ')' :: y))
    (hw : skip st'.group.flags (w ++ ')' :: y) = ')' :: y) (houter : st'.outer = [])
    (hb : b <+: y) : st.run? (s ++ ')' :: b) = none := by
  obtain ⟨t, rfl⟩ := hb
  have hmore : st.Reads (s ++ ')' :: b ++ t) st' (w ++ ')' :: b ++ t) := by simpa using h
  have hpart : st.Reads (s ++ ')' :: b) st' (w ++ ')' :: b) := by
    refine hmore.cut fun r hr => ?_
    cases w with
    | nil => cases hr
    | cons c w => exact ne_brace_of_skip_closing hw w (by rw [(List.cons.inj hr).1])
  have hskip : skip st'.group.flags (w ++ ')' :: b) = ')' :: b :=
    skip_cut (t := t) (by simpa using hw)
  rw [hpart.run?_eq]
  refine Reading.run?_of_push_eq_none (x := .closing) (r := b) (by rw [hskip]; rfl) ?_
  simp only [push?, houter]

/-- An anchored source is read by reading a text up to a closing parenthesis that closes no group of
the text, and then what follows it. -/
theorem exists_closing_of_parse_anchored {source : String} {p : Regex}
    (h : parse? (Pattern.anchored source) = some p) :
    ∃ a y q, source.toList ++ ")$".toList = a ++ ')' :: y ∧ parse? a = some q ∧
      (∀ b, b <+: y → parse? (a ++ ')' :: b) = none) ∧
      ∃ captured k names st, st.group.close.regex = p ∧
        (Reading.mk (anchoredGroup.add (.group captured q) k) [] names).run? y = some st := by
  obtain ⟨st, hrun, houter, hdepth, hp⟩ := parse?_eq_some_iff.1 h
  rw [run?_anchored] at hrun
  obtain ⟨x, hall, hx⟩ := Reading.exists_reads_of_run hrun
  obtain ⟨st', w, y, hreads, houter', hw, hrest⟩ := hall.exists_closing houter
  obtain ⟨v, rfl⟩ : ∃ v, w = v ++ ')' :: y := by
    obtain ⟨v, hv⟩ := hw ▸ skip_suffix st'.group.flags w
    exact ⟨v, hv.symm⟩
  obtain ⟨u, hu⟩ := hreads.suffix
  rw [← List.append_assoc] at hu
  rw [← hu] at hreads
  -- The whole is not nested too deeply, so neither is the part that became a piece of it.
  have hdepth' : st'.group.close.depth + 1 ≤ st.group.close.depth := hrest.le_close houter
  refine ⟨u ++ v, y, st'.group.close.regex, hu.symm,
    parse?_eq_some_iff.2 ⟨st', hreads.run?_of_closing hw, houter', by omega, rfl⟩, fun b hb => ?_,
    st'.group.captured, st'.group.close.depth + 1, st'.names, st, hp, ?_⟩
  · exact parse?_eq_none_of_run? (hreads.run?_eq_none_of_closing hw houter' hb)
  · exact hrest.run?_eq.trans (Reading.run?_of_skip_eq_nil hx)

/-- A source between anchors is read in one of two ways.  The source alone is read, and put as a
whole between the anchors; or the source alone is not read, because a closing parenthesis of it
closes the group that the anchors put around it. -/
theorem parse?_anchored {source : String} {p : Regex}
    (h : parse? (Pattern.anchored source) = some p) :
    (∃ q captured, parse? source.toList = some q ∧
        p = .seq (.assertion .textStart) (.seq (.group captured q) (.assertion .textEnd))) ∨
      (parse? source.toList = none ∧ ∃ a b, source.toList = a ++ ')' :: b ∧
        (parse? a).isSome = true ∧ parse? (a ++ [')']) = none) := by
  obtain ⟨a, y, q, hsource, hq, hclosing, captured, k, names, st, hp, hrun⟩ :=
    exists_closing_of_parse_anchored h
  have hwhole : y = ['$'] → a = source.toList → ∃ q captured, parse? source.toList = some q ∧
      p = .seq (.assertion .textStart) (.seq (.group captured q) (.assertion .textEnd)) := by
    rintro rfl rfl
    rw [run?_dollar] at hrun
    obtain rfl := Option.some.inj hrun
    exact ⟨q, captured, hq, hp.symm⟩
  -- The parenthesis that closes the group stands behind the source or in it.
  obtain ⟨c, hc, hy⟩ | ⟨c, hc, hy⟩ := List.append_eq_append_iff.1 hsource
  · cases c with
    | nil => exact .inl (hwhole (List.cons.inj hy).2.symm (hc.trans (List.append_nil _)))
    | cons d c =>
      have hrest : ['$'] = c ++ ')' :: y := (List.cons.inj hy).2
      have hlength := congrArg List.length hrest
      simp only [List.length_append, List.length_cons, List.length_nil] at hlength
      obtain rfl : c = [] := List.length_eq_zero_iff.1 (by omega)
      cases hrest
  · cases c with
    | nil => exact .inl (hwhole (List.cons.inj hy).2 ((List.append_nil a).symm.trans hc.symm))
    | cons d c =>
      obtain ⟨rfl, rfl⟩ := List.cons.inj hy
      exact .inr ⟨hc ▸ hclosing c (List.prefix_append c _), a, c, hc, by rw [hq]; rfl,
        hclosing [] List.nil_prefix⟩

/-- An expression between the anchors of a text describes a stretch of it if and only if the
expression describes the whole text. -/
theorem occursIn_anchored_iff {q : Regex} {captured : Bool} {text : Array Char} :
    (Regex.seq (.assertion .textStart)
        (.seq (.group captured q) (.assertion .textEnd))).occursIn text = true ↔
      q.Matches text 0 text.size := by
  rw [occursIn_iff]
  constructor
  · rintro ⟨i, j, -, hmatch⟩
    cases hmatch with
    | seq hstart hrest =>
      cases hstart with
      | assertion hzero =>
        cases hrest with
        | seq hgroup hend =>
          cases hend with
          | assertion hsize =>
            cases hgroup with
            | group hq =>
              obtain rfl : i = 0 := by simpa [Assertion.holds] using hzero
              obtain rfl : j = text.size := by simpa [Assertion.holds] using hsize
              exact hq
  · intro hq
    refine ⟨0, text.size, Nat.zero_le _, .seq (.assertion ?_) (.seq (.group hq) (.assertion ?_))⟩
    · simp [Assertion.holds]
    · simp [Assertion.holds]

end Regex

namespace Pattern

/-- A source that makes a pattern is a regular expression of its own, and exactly the texts that it
describes as a whole match; or it is none, because it is a regular expression followed by a closing
parenthesis that opens nothing, which closes the group between the anchors. -/
theorem accepts_iff_of_ofSource? {source : String} {p : Pattern} (h : ofSource? source = some p) :
    (∃ r, Regex.parse? source.toList = some r ∧
        ∀ text, p.accepts text = true ↔ r.Matches text.toList.toArray 0 text.length) ∨
      (Regex.parse? source.toList = none ∧ ∃ a b, source.toList = a ++ ')' :: b ∧
        (Regex.parse? a).isSome = true ∧ Regex.parse? (a ++ [')']) = none) := by
  obtain rfl := source_ofSource? h
  refine (Regex.parse?_anchored p.parse_anchored).imp_left fun ⟨r, captured, hr, hp⟩ => ⟨r, hr, ?_⟩
  intro text
  rw [accepts, hp, Regex.occursIn_anchored_iff, List.size_toArray, String.length_toList]

/-- Either of two letters. -/
def eitherLetter : Pattern where
  source := "a|b"
  regex := .seq (.assertion .textStart) (.seq (.group false
    (.alt (.chars (.single 'a')) (.chars (.single 'b')))) (.assertion .textEnd))
  parse_anchored := by cbv
  fits_shape := by cbv

/-- The bar stands between the anchors as a whole. -/
theorem accepts_iff_of_ofSource?_eitherLetter : ofSource? "a|b" = some eitherLetter ∧
    ∀ text, eitherLetter.accepts text = true ↔
      (Regex.alt (.chars (.single 'a')) (.chars (.single 'b'))).Matches text.toList.toArray 0
        text.length := by
  have hsource : ofSource? "a|b" = some eitherLetter := ofSource?_source eitherLetter
  have hparse : Regex.parse? "a|b".toList =
      some (.alt (.chars (.single 'a')) (.chars (.single 'b'))) := by cbv
  refine ⟨hsource, ?_⟩
  obtain ⟨r, hr, haccepts⟩ | ⟨hnone, -⟩ := accepts_iff_of_ofSource? hsource
  · obtain rfl := Option.some.inj (hparse.symm.trans hr)
    exact haccepts
  · rw [hparse] at hnone
    cases hnone

/-- Two letters with parentheses that belong to the anchors. -/
def looseLetters : Pattern where
  source := "a)|(b"
  regex := .alt (.seq (.assertion .textStart) (.group false (.chars (.single 'a'))))
    (.seq (.group true (.chars (.single 'b'))) (.assertion .textEnd))
  parse_anchored := by cbv
  fits_shape := by cbv

/-- The source is no regular expression, and a text matches that only starts with the letter. -/
theorem not_accepts_iff_of_looseLetters : ofSource? "a)|(b" = some looseLetters ∧
    Regex.parse? "a)|(b".toList = none ∧ looseLetters.accepts "a!" = true :=
  ⟨ofSource?_source looseLetters, by cbv, by cbv⟩

end Pattern

end BiblioQuery
