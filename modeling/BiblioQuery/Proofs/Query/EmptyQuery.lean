import BiblioQuery.Proofs.Query.EmptyAtoms
import BiblioQuery.Proofs.Query.Stages

/-!
# Queries that say nothing

An empty query asks for everything.  Truth leaves one, and so do atoms of which nothing is written,
as empty members of a group are dropped.  Where all rules write to the query, there are two more
ways to an empty query, both of which a dialect has to allow: falsity is marked by the empty text,
or groups are denied by an empty template.  So in any other dialect the query is empty only if
nothing is written for any atom.

## Main definitions

* `Dialect.ErasesGroups` : the denial of a group leaves nothing of it.
* `Atom.GoesToQuery` : the rule that an atom is written by writes to the query.
* `Expr.IsVoid` : nothing of an expression gets into the query.
* `Snapshot.Widens` : an expression is compiled to the query that asks for everything.

## Main results

* `Dialect.join_eq_empty_iff` : a group is dropped if all its members are.
* `Expr.text_eq_empty_iff` : the fragment of an expression is empty if nothing of it is written.
* `Expr.isVoid_iff_of_isNormal` : in most dialects this is so if nothing is written for any atom.
* `Snapshot.query_eq_empty_iff_of_compile` : when a successful compilation has an empty query.
-/

namespace BiblioQuery

/-! ### Groups and denials -/

namespace Dialect

variable {d : Dialect} {c : Connective}

/-- A group is dropped if all its members are. -/
theorem join_eq_empty_iff {fragments : List String} :
    d.join c fragments = "" ↔ ∀ s ∈ fragments, s = "" := by
  have hkept : (∀ s ∈ fragments, s = "") ↔ (fragments.filter fun s => !s.isEmpty) = [] := by
    simp [List.filter_eq_nil_iff]
  have hmem : ∀ s ∈ fragments.filter fun s => !s.isEmpty, s ≠ "" := by simp
  rw [hkept, join]
  generalize fragments.filter (fun s => !s.isEmpty) = kept at hmem
  match kept with
  | [] => simp
  | [s] => simpa using hmem
  | s :: t :: rest =>
    have hs : s ≠ "" := hmem s List.mem_cons_self
    simp [group_eq_empty_iff, intercalate_eq_empty_iff, hs]

/-- The denial of a group leaves nothing of it. -/
def ErasesGroups (d : Dialect) : Prop := ∃ t, d.notTemplate = some t ∧ t.source = ""

/-- What is not empty has an empty denial only if there is nothing in the template for denials. -/
theorem deny_none_eq_empty_iff {inner text : String} (hinner : inner ≠ "")
    (h : d.deny none inner = .ok text) : text = "" ↔ d.ErasesGroups := by
  have hslots : ∀ p, EmptyInDenial none (inner = "") p ↔ False := fun p => by
    cases p <;> simp [EmptyInDenial, hinner]
  simp only [deny_eq_empty_iff h, Template.isVoid_congr hslots, Template.isVoid_false_iff,
    ErasesGroups]

end Dialect

/-! ### Expressions -/

/-- The rule that an atom is written by, if there is one, writes to the query. -/
def Atom.GoesToQuery (s : Snapshot) (a : Atom) : Prop :=
  ∀ r denied, s.ruleFor? a = some (r, denied) → r.emit = .query

/-- Where no rule writes to parameters, all atoms go to the query. -/
theorem Atom.goesToQuery_of_forall_rules {s : Snapshot} (h : ∀ r ∈ s.rules, r.emit = .query)
    (a : Atom) : a.GoesToQuery s :=
  fun r _ hrule => h r (Snapshot.mem_rules_of_ruleFor? hrule)

/-- What is written for such an atom is its fragment. -/
theorem Atom.GoesToQuery.text_writing {s : Snapshot} {assumed : Offset} {a : Atom} {w : Applied}
    (hquery : a.GoesToQuery s) (h : a.write s assumed = .ok w) (conditional : Bool) :
    (w.writing conditional a).text = w.fragment := by
  have hemit : w.rule.emit = .query := hquery _ _ (exists_text_of_write h).1
  simp [Applied.writing, Rule.paramTarget?, hemit]

namespace Expr

mutual

/-- Nothing of an expression gets into the query. -/
def IsVoid (s : Snapshot) (assumed : Offset) : Expr → Prop
  | .const true => True
  | .const false => s.dialect.matchNothing = some ""
  | .atom a => a.IsVoid s assumed
  | .group _ xs => AreVoid s assumed xs
  | .not x => IsVoid s assumed x ∨ s.dialect.ErasesGroups

/-- Nothing of any expression of a list gets into the query. -/
def AreVoid (s : Snapshot) (assumed : Offset) : List Expr → Prop
  | [] => True
  | x :: xs => IsVoid s assumed x ∧ AreVoid s assumed xs

end

variable {s : Snapshot} {assumed : Offset} {n : Expr}

mutual

-- The hypotheses pass down, as what is found in a part is among the faults of the whole.

/-- The fragment of an expression is empty if nothing of it is written, where writing finds no error
and all rules write to the query. -/
theorem text_eq_empty_iff (conditional : Bool) : (e : Expr) →
    (∀ f ∈ (e.write s assumed conditional).faults, f.severity ≠ .error) →
      (∀ a ∈ e.atoms, a.GoesToQuery s) →
        ((e.write s assumed conditional).text = "" ↔ e.IsVoid s assumed)
  | .const true, _, _ => by simp [write, IsVoid]
  | .const false, hfaults, _ => by
    rw [write] at hfaults ⊢
    rw [IsVoid]
    cases hmarker : s.dialect.matchNothing with
    | some marker => simp
    | none => simp [hmarker, RenderFault.severity] at hfaults
  | .atom a, hfaults, hquery => by
    rw [write] at hfaults ⊢
    rw [IsVoid]
    cases hw : a.write s assumed with
    | ok w =>
      have htext := (hquery a (List.mem_singleton_self a)).text_writing hw conditional
      simpa only [htext] using a.fragment_eq_empty_iff hw
    | error f =>
      have hfault := hfaults f (by simp [hw])
      exact absurd (Atom.severity_of_write hw) hfault
  | .group c xs, hfaults, hquery => by
    rw [write, Dialect.joinWritings, IsVoid, Dialect.join_eq_empty_iff, List.forall_mem_map]
    refine forall_text_eq_empty_iff (conditional || c == .any) xs (fun w hw f hf => ?_) hquery
    exact hfaults f (by rw [write]; exact List.mem_flatMap.2 ⟨w, hw, hf⟩)
  | .not x, hfaults, hquery => by
    rw [write] at hfaults ⊢
    have hx := text_eq_empty_iff true x
      (fun f hf => hfaults f (s.dialect.faults_subset_denyWriting _ hf)) hquery
    rw [IsVoid, ← hx]
    -- the template for denials is used only if there is something to deny
    by_cases hempty : (x.write s assumed true).text = ""
    · simp [Dialect.denyWriting, hempty]
    · rw [Dialect.denyWriting, if_neg (by simpa using hempty)] at hfaults ⊢
      cases hdeny : s.dialect.deny none (x.write s assumed true).text with
      | ok text => simp [hempty, Dialect.deny_none_eq_empty_iff hempty hdeny]
      | error f =>
        have hfault := hfaults f (by simp [hdeny])
        exact absurd (Dialect.severity_of_deny hdeny) hfault

/-- The fragments of members are empty if nothing of them is written. -/
theorem forall_text_eq_empty_iff (conditional : Bool) : (xs : List Expr) →
    (∀ w ∈ writeList s assumed conditional xs, ∀ f ∈ w.faults, f.severity ≠ .error) →
      (∀ a ∈ atomsOfList xs, a.GoesToQuery s) →
        ((∀ w ∈ writeList s assumed conditional xs, w.text = "") ↔ AreVoid s assumed xs)
  | [], _, _ => by simp [writeList, AreVoid]
  | x :: xs, hfaults, hquery => by
    rw [writeList, List.forall_mem_cons] at hfaults
    rw [atomsOfList, List.forall_mem_append] at hquery
    rw [writeList, List.forall_mem_cons, AreVoid,
      text_eq_empty_iff conditional x hfaults.1 hquery.1,
      forall_text_eq_empty_iff conditional xs hfaults.2 hquery.2]

end

theorem areVoid_iff {xs : List Expr} : AreVoid s assumed xs ↔ ∀ x ∈ xs, x.IsVoid s assumed := by
  induction xs with
  | nil => simp [AreVoid]
  | cons x xs ih => rw [AreVoid, ih, List.forall_mem_cons]

theorem forall_mem_atomsOfList_iff {xs : List Expr} {p : Atom → Prop} :
    (∀ a ∈ atomsOfList xs, p a) ↔ ∀ x ∈ xs, ∀ a ∈ x.atoms, p a := by
  induction xs with
  | nil => simp [atomsOfList]
  | cons x xs ih => rw [atomsOfList, List.forall_mem_append, ih, List.forall_mem_cons]

/-- Nothing of a normal expression other than a truth value is written if nothing is written for any
of its atoms, unless the dialect leaves nothing of denied groups. -/
theorem isVoid_iff_of_isNormal (h : n.IsNormal) (hconst : ∀ b, n ≠ .const b)
    (hd : ¬s.dialect.ErasesGroups) :
    n.IsVoid s assumed ↔ ∀ a ∈ n.atoms, a.IsVoid s assumed := by
  induction h with
  | const b => exact absurd rfl (hconst b)
  | atom a => rw [IsVoid, atoms, List.forall_mem_singleton]
  | group hlen hmem hxs ih =>
    rw [IsVoid, areVoid_iff, atoms, forall_mem_atomsOfList_iff]
    refine forall₂_congr fun x hx => ih x hx ?_
    rintro b rfl
    exact hmem _ hx
  | notGroup h ih =>
    rw [IsVoid, or_iff_left hd, atoms]
    exact ih fun b hb => by cases hb

end Expr

/-! ### Compilations -/

namespace Snapshot

variable {s : Snapshot} {o : Options} {e : Expr} {c : Compiled}

/-- A successful compilation whose rules write to the query has written every atom, and a fragment
is empty if nothing is written for its atom.  The query is empty if nothing is written for the
normal form.  If that is not truth, then the query is empty because nothing is written for any of
its atoms, unless falsity is marked by the empty text or groups are denied by an empty template. -/
theorem query_eq_empty_iff_of_compile (h : s.compile o e = .ok c) (hok : c.isOk = true)
    (hquery : ∀ a ∈ c.normalized.atoms, a.GoesToQuery s) :
    ∃ assumed, o.offset? = some assumed ∧
      (∀ a ∈ c.normalized.atoms, ∃ w, a.write s assumed = .ok w ∧
        (w.fragment = "" ↔ a.IsVoid s assumed)) ∧
      (c.query = "" ↔ c.normalized.IsVoid s assumed) ∧
      (c.normalized ≠ .const true → s.dialect.matchNothing ≠ some "" →
        ¬s.dialect.ErasesGroups →
          (c.query = "" ↔ c.normalized ≠ .const false ∧
            ∀ a ∈ c.normalized.atoms, a.IsVoid s assumed)) := by
  obtain ⟨assumed, n, hoffset, hn, rfl⟩ := compile_eq_ok_iff.1 h
  obtain ⟨stage, hstage⟩ := exists_endsAt_compileNormal s o assumed n
  obtain rfl := hstage.isOk_iff.1 hok
  rw [normalized_compileNormal] at hquery ⊢
  cases hstage with
  | complete _ hwritten _ _ _ _ htext =>
    rw [normalized_compileNormal] at hwritten htext
    have hvoid : (n.write s assumed false).text = "" ↔ n.IsVoid s assumed :=
      Expr.text_eq_empty_iff false n (Expr.severity_ne_error_of_render hwritten) hquery
    rw [htext]
    refine ⟨assumed, hoffset, fun a ha => ?_, hvoid, fun htrue hmarker hgroups => ?_⟩
    · obtain ⟨w, hw⟩ := Expr.exists_write_of_render hwritten ha
      exact ⟨w, hw, a.fragment_eq_empty_iff hw⟩
    · refine hvoid.trans ?_
      by_cases hfalse : n = .const false
      · simp [hfalse, Expr.IsVoid, hmarker]
      · have hnormal : n.IsNormal :=
          Expr.eq_normalForm_of_normalize e hn ▸ Expr.isNormal_normalForm e
        have hconst : ∀ b, n ≠ .const b := Bool.forall_bool.2 ⟨hfalse, htrue⟩
        rw [Expr.isVoid_iff_of_isNormal hnormal hconst hgroups, and_iff_right hfalse]

/-! ### Searches that are widened -/

/-- An expression that is not truth is compiled to the query that asks for everything. -/
def Widens (s : Snapshot) (e : Expr) : Prop :=
  s.validate = .ok () ∧ ∃ c, s.compile .standard e = .ok c ∧ c.isOk = true ∧
    c.normalized ≠ .const true ∧ (∀ a ∈ c.normalized.atoms, a.GoesToQuery s) ∧ c.query = ""

theorem readSegments_value : Template.readSegments "\x7bvalue\x7d" = .ok [.slot .value] := by cbv

/-- A provider that takes the digits of years, in a dialect. -/
def yearsIn (d : Dialect) : Snapshot :=
  { Snapshot.ofOne ((Declaration.of "year").allowNegated .term)
      { Rule.of "year" ⟨"\x7bvalue\x7d", [.slot .value], readSegments_value⟩ with
        transform := some .year } with
    dialect := d }

theorem offset?_standard : Options.standard.offset? = some .utc := by decide

theorem goesToQuery_yearsIn (d : Dialect) (a : Atom) : a.GoesToQuery (yearsIn d) :=
  a.goesToQuery_of_forall_rules (by simp [yearsIn, ofOne, Rule.of])

/-- The standard dialect with an empty template for denials and an empty mark for falsity. -/
def silent : Dialect :=
  { Dialect.standard with notTemplate := some ⟨"", [], by cbv⟩, matchNothing := some "" }

/-- The statement that the year is not known yet. -/
def forthcoming : Expr := .atom (.exact "year" "forthcoming")

/-- The denial of two years. -/
def neitherYear : Expr := .not (.or [.atom (.exact "year" "1984"), .atom (.exact "year" "1985")])

theorem widens_of_compileNormal {d : Dialect} {n : Expr} (hn : e.normalize false = .ok n)
    (hvalid : (yearsIn d).validate = .ok ())
    (hok : ((yearsIn d).compileNormal .standard .utc n).isOk = true) (hne : n ≠ .const true)
    (hempty : ((yearsIn d).compileNormal .standard .utc n).query = "") :
    (yearsIn d).Widens e := by
  have hcompiled : (yearsIn d).compile .standard e =
      .ok ((yearsIn d).compileNormal .standard .utc n) :=
    compile_eq_ok_iff.2 ⟨.utc, n, offset?_standard, hn, rfl⟩
  refine ⟨hvalid, _, hcompiled, hok, ?_, fun a _ => goesToQuery_yearsIn d a, hempty⟩
  rwa [normalized_compileNormal]

/-- A year without digits, falsity without a mark, and a denial without text. -/
theorem widens_yearsIn :
    (yearsIn .standard).Widens forthcoming ∧ (yearsIn silent).Widens (.const false) ∧
      (yearsIn silent).Widens neitherYear :=
  ⟨widens_of_compileNormal rfl (by decide) (by decide) nofun (by decide),
    widens_of_compileNormal rfl (by decide) (by decide) (by decide) (by decide),
    widens_of_compileNormal rfl (by decide) (by decide) nofun (by decide)⟩

/-- Of two years, one of which has no digits, the other one is written. -/
theorem query_eq_empty_iff_of_compile_years :
    ∃ c, (yearsIn .standard).compile .standard
        (.and [.atom (.exact "year" "1984"), forthcoming]) = .ok c ∧ c.isOk = true ∧
      (∀ a ∈ c.normalized.atoms, a.GoesToQuery (yearsIn .standard)) ∧ c.query = "1984" ∧
      ¬c.normalized.IsVoid (yearsIn .standard) .utc ∧
      (Atom.exact "year" "forthcoming").IsVoid (yearsIn .standard) .utc := by
  have h : (yearsIn .standard).compile .standard
      (.and [.atom (.exact "year" "1984"), forthcoming]) =
        .ok ((yearsIn .standard).compileNormal .standard .utc
          (.and [.atom (.exact "year" "1984"), forthcoming])) :=
    compile_eq_ok_iff.2 ⟨.utc, _, offset?_standard, rfl, rfl⟩
  obtain ⟨assumed, hoffset, hatoms, hvoid, -⟩ :=
    query_eq_empty_iff_of_compile h (by decide) fun a _ => goesToQuery_yearsIn .standard a
  obtain rfl : Offset.utc = assumed := Option.some.inj (offset?_standard.symm.trans hoffset)
  obtain ⟨w, hw, hempty⟩ := hatoms (.exact "year" "forthcoming") (by decide)
  have hfragment : w.fragment = "" := by
    have hwritten : ((Atom.exact "year" "forthcoming").write (yearsIn .standard) .utc).toOption.map
        Applied.fragment = some "" := by decide
    simpa [hw, Except.toOption] using hwritten
  exact ⟨_, h, by decide, fun a _ => goesToQuery_yearsIn .standard a, by decide,
    fun hc => absurd (hvoid.2 hc) (by decide), hempty.1 hfragment⟩

end Snapshot

end BiblioQuery
