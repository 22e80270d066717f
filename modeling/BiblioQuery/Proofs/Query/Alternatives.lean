import BiblioQuery.Proofs.Query.Checking

/-!
# Repeated alternatives

Alternatives with one key count as one, which is stated by the first of them.  The check holds the
number of different alternatives against the greatest size, and writing puts one item for each of
them into the list, so that the limit is one on the items in the query.

The scan for repetitions carries the keys that it has met.  What carries its induction is that these
are the keys of the part it has passed, so that an alternative is kept where its key is new to that
part.

## Main definitions

* `MemberValue.firsts` : the alternatives whose keys do not occur earlier, with their positions.
* `Applied.Joins` : a fragment is made from a list of items.

## Main results

* `MemberValue.distinct_eq_map_firsts` : what is kept.
* `MemberValue.nodup_keys_distinct` : no two of what is kept count as one.
* `MemberValue.distinct_eq_values_iff` : when all are kept.
* `Applied.exists_joins_of_write` : the items of an atom that is written.
* `MemberValue.distinct_eq_firsts_and_joined` : the check and the writing count alike.
-/

namespace BiblioQuery

namespace MemberValue

variable {caseSensitive : Bool} {value : String} {seen earlier values : List String}

/-! ### First occurrences -/

/-- No alternative before a position counts as the same as the one given. -/
def IsNewAt (v : MemberValue) (value : String) (position : ℕ) : Prop :=
  key v.caseSensitive value ∉ (v.values.take position).map (key v.caseSensitive)

instance (v : MemberValue) (value : String) (position : ℕ) :
    Decidable (v.IsNewAt value position) :=
  inferInstanceAs (Decidable (_ ∉ _))

/-- The alternatives that are new at their positions, with the positions. -/
def firsts (v : MemberValue) : List (String × ℕ) :=
  v.values.zipIdx.filter fun p => decide (v.IsNewAt p.1 p.2)

theorem distinctFrom_cons_of_mem (h : key caseSensitive value ∈ seen) :
    distinctFrom caseSensitive seen (value :: values) = distinctFrom caseSensitive seen values :=
  if_pos (List.contains_iff_mem.2 h)

theorem distinctFrom_cons_of_notMem (h : key caseSensitive value ∉ seen) :
    distinctFrom caseSensitive seen (value :: values) =
      value :: distinctFrom caseSensitive (key caseSensitive value :: seen) values :=
  if_neg fun hcontains => h (List.contains_iff_mem.1 hcontains)

theorem isNewAt_append :
    IsNewAt ⟨earlier ++ values, caseSensitive⟩ value earlier.length ↔
      key caseSensitive value ∉ earlier.map (key caseSensitive) := by
  rw [IsNewAt, List.take_left]

/-- Behind what was passed, with its keys seen, the scan keeps what is new. -/
theorem distinctFrom_eq_map_filter
    (hseen : ∀ k, k ∈ seen ↔ k ∈ earlier.map (key caseSensitive)) :
    distinctFrom caseSensitive seen values =
      ((values.zipIdx earlier.length).filter fun p =>
        decide (IsNewAt ⟨earlier ++ values, caseSensitive⟩ p.1 p.2)).map Prod.fst := by
  induction values generalizing seen earlier with
  | nil => rfl
  | cons value values ih =>
    -- The value joins what was passed, whether it is kept or not.
    have hsplit : earlier ++ value :: values = (earlier ++ [value]) ++ values := by simp
    have hkeys : ∀ k, k ∈ (earlier ++ [value]).map (key caseSensitive) ↔
        k = key caseSensitive value ∨ k ∈ seen := by
      intro k
      rw [List.map_append, List.mem_append, hseen, or_comm, List.map_singleton, List.mem_singleton]
    rw [List.zipIdx_cons, List.filter_cons]
    by_cases hk : key caseSensitive value ∈ seen
    · have hold : ¬IsNewAt ⟨earlier ++ value :: values, caseSensitive⟩ value earlier.length :=
        fun h => isNewAt_append.1 h ((hseen _).1 hk)
      have hpassed := @ih seen (earlier ++ [value]) fun k =>
        ⟨fun h => (hkeys k).2 (.inr h), fun h => ((hkeys k).1 h).elim (fun heq => heq ▸ hk) id⟩
      rw [distinctFrom_cons_of_mem hk, if_neg (by simpa using hold), hpassed, hsplit,
        List.length_append, List.length_singleton]
    · have hnew : IsNewAt ⟨earlier ++ value :: values, caseSensitive⟩ value earlier.length :=
        isNewAt_append.2 fun h => hk ((hseen _).2 h)
      have hpassed := @ih (key caseSensitive value :: seen) (earlier ++ [value]) fun k =>
        List.mem_cons.trans (hkeys k).symm
      rw [distinctFrom_cons_of_notMem hk, if_pos (decide_eq_true hnew), hpassed, hsplit,
        List.length_append, List.length_singleton, List.map_cons]

/-- What is kept are the alternatives that are new at their positions, in order. -/
theorem distinct_eq_map_firsts (v : MemberValue) : v.distinct = v.firsts.map Prod.fst :=
  @distinctFrom_eq_map_filter v.caseSensitive [] [] v.values fun _ => Iff.rfl

/-! ### Keys -/

/-- The scan keeps no key that it has seen, and none twice. -/
theorem keys_distinctFrom (caseSensitive : Bool) (seen values : List String) :
    ((distinctFrom caseSensitive seen values).map (key caseSensitive)).Nodup ∧
      ∀ k ∈ (distinctFrom caseSensitive seen values).map (key caseSensitive), k ∉ seen := by
  induction values generalizing seen with
  | nil => exact ⟨.nil, List.forall_mem_nil _⟩
  | cons value values ih =>
    by_cases hk : key caseSensitive value ∈ seen
    · rw [distinctFrom_cons_of_mem hk]
      exact ih seen
    · obtain ⟨hnodup, hunseen⟩ := ih (key caseSensitive value :: seen)
      rw [distinctFrom_cons_of_notMem hk, List.map_cons, List.nodup_cons, List.forall_mem_cons]
      exact ⟨⟨fun h => hunseen _ h List.mem_cons_self, hnodup⟩, hk,
        fun k hmem h => hunseen k hmem (List.mem_cons_of_mem _ h)⟩

/-- The scan keeps everything if no key was seen and none occurs twice. -/
theorem distinctFrom_eq_self (hnodup : (values.map (key caseSensitive)).Nodup)
    (hunseen : ∀ k ∈ values.map (key caseSensitive), k ∉ seen) :
    distinctFrom caseSensitive seen values = values := by
  induction values generalizing seen with
  | nil => rfl
  | cons value values ih =>
    rw [List.map_cons, List.nodup_cons] at hnodup
    rw [List.map_cons, List.forall_mem_cons] at hunseen
    rw [distinctFrom_cons_of_notMem hunseen.1, ih hnodup.2]
    intro k hk hmem
    rcases List.mem_cons.1 hmem with rfl | hmem
    · exact hnodup.1 hk
    · exact hunseen.2 k hk hmem

/-- No two alternatives that are kept count as one. -/
theorem nodup_keys_distinct (v : MemberValue) :
    (v.distinct.map (key v.caseSensitive)).Nodup :=
  (keys_distinctFrom v.caseSensitive [] v.values).1

/-- Alternatives are all kept exactly if no two of them count as one. -/
theorem distinct_eq_values_iff (v : MemberValue) :
    v.distinct = v.values ↔ (v.values.map (key v.caseSensitive)).Nodup :=
  ⟨fun h => h ▸ v.nodup_keys_distinct,
    fun h => distinctFrom_eq_self h fun _ _ => List.not_mem_nil⟩

/-- There are repetitions exactly if something is not kept. -/
theorem hasDuplicates_eq_false_iff (v : MemberValue) :
    v.hasDuplicates = false ↔ v.distinct = v.values := by
  rw [hasDuplicates, bne_eq_false_iff_eq]
  exact (distinctFrom_sublist v.caseSensitive [] v.values).length_eq

/-- What is kept is kept again. -/
theorem distinct_distinct (v : MemberValue) :
    ({ v with values := v.distinct } : MemberValue).distinct = v.distinct :=
  (distinct_eq_values_iff { v with values := v.distinct }).2 v.nodup_keys_distinct

/-! ### The check -/

/-- The check finds too many alternatives exactly if more are kept than may be, and says how many
are kept. -/
theorem tooManyAlternatives_mem_violations_iff (v : MemberValue) {c : MemberCapability} {m : UInt64}
    (hmax : c.maxSize = some m) (size : ℕ) :
    Violation.tooManyAlternatives size m.toNat ∈ c.violations v ↔
      size = v.distinct.length ∧ m.toNat < size := by
  cases hvalues : v.values with
  | nil =>
    have hnone : v.distinct = [] := by rw [distinct, hvalues, distinctFrom]
    simp only [MemberCapability.violations, hvalues, hnone, List.isEmpty_nil, if_true,
      List.mem_singleton, reduceCtorEq, List.length_nil, false_iff]
    omega
  | cons value values =>
    have hfound : Violation.tooManyAlternatives size m.toNat ∈ c.violations v ↔
        m.toNat < v.distinct.length ∧ size = v.distinct.length := by
      simp [MemberCapability.violations, hvalues, hmax, Violation.when]
    rw [hfound, and_comm]
    exact and_congr_right fun hsize => by rw [hsize]

end MemberValue

/-! ### The items of an atom -/

/-- A fragment comes from a template in which the items, joined, stand for the alternatives. -/
structure Applied.Joins (w : Applied) (d : Dialect) (assumed : Offset) (a : Atom)
    (items : List String) : Prop where
  /-- The template is filled with the joined items, and what comes out is grouped and denied as the
  rule and the dialect have it. -/
  filled : ∃ own text,
    w.rule.slots (w.rule.joiner.getD d.orJoiner) assumed a.field a.value = .ok own ∧
    w.rule.slotText a.field own .values =
      some ((w.rule.joiner.getD d.orJoiner).intercalate items) ∧
    w.rule.fill a.field w.rule.template own = .ok text ∧
    (if w.denied then d.deny (some a.field) else Except.ok)
      (if w.rule.wrapGroup then d.group text else text) = .ok w.fragment

/-- An atom that is written has one item for each alternative that is kept, in order. -/
theorem Applied.exists_joins_of_write {s : Snapshot} {assumed : Offset} {a : Atom}
    {v : MemberValue} {w : Applied} (hv : a.value = .member v) (h : a.write s assumed = .ok w) :
    ∃ items, w.Joins s.dialect assumed a items ∧
      List.Forall₂ (fun value item => w.rule.itemText a.field value = .ok item) v.distinct
        items := by
  obtain ⟨-, text, htext, hfragment⟩ := Atom.exists_text_of_write h
  obtain ⟨own, hown, hfill⟩ := ok_of_bind_eq_ok htext
  have hslots := hown
  rw [hv] at hslots
  obtain ⟨items, hitems, hjoined⟩ := ok_of_bind_eq_ok hslots
  obtain rfl := Except.ok.inj hjoined
  exact ⟨items, ⟨_, text, hown, rfl, hfill, hfragment⟩, forall₂_of_mapM_eq_ok hitems⟩

namespace MemberValue

/-- What is kept of alternatives are the ones whose keys do not occur at an earlier position.  There
are no repetitions exactly if all are kept, and what is kept is kept again.  The check counts what
is kept, and so does the writing: of an expression that passes the check, every list that is
written has one item for each alternative kept, in order, and no more than the declaration of the
field allows. -/
theorem distinct_eq_firsts_and_joined (v : MemberValue) :
    v.distinct = v.firsts.map Prod.fst ∧
      (v.hasDuplicates = false ↔ v.distinct = v.values) ∧
      ({ v with values := v.distinct } : MemberValue).distinct = v.distinct ∧
      (∀ (c : MemberCapability) (m : UInt64), c.maxSize = some m → ∀ size,
        (Violation.tooManyAlternatives size m.toNat ∈ c.violations v ↔
          size = v.distinct.length ∧ m.toNat < size)) ∧
      ∀ (s : Snapshot) (strict : Bool) (assumed : Offset) (e : Expr) (a : Atom) (w : Applied),
        (e.check s strict).any Issue.isError = false → a ∈ e.atoms → a.value = .member v →
        a.write s assumed = .ok w →
        ∃ d items, s.governing? a.field = some d ∧ w.Joins s.dialect assumed a items ∧
          List.Forall₂ (fun value item => w.rule.itemText a.field value = .ok item) v.distinct
            items ∧
          items.length = v.distinct.length ∧
          ∀ m, (d.member.getD .standard).maxSize = some m → items.length ≤ m.toNat := by
  refine ⟨v.distinct_eq_map_firsts, v.hasDuplicates_eq_false_iff, v.distinct_distinct,
    fun c m hmax => v.tooManyAlternatives_mem_violations_iff hmax, ?_⟩
  intro s strict assumed e a w hpassed ha hv hwritten
  obtain ⟨items, hjoins, hitems⟩ := Applied.exists_joins_of_write hv hwritten
  obtain ⟨d, hd, htakes⟩ := Expr.exists_takesValue_of_check hpassed ha
  rw [hv] at htakes
  refine ⟨d, items, hd, hjoins, hitems, hitems.length_eq.symm, fun m hmax => ?_⟩
  rw [← hitems.length_eq]
  exact htakes.size m hmax

/-- A provider that takes at most two keywords, each between quotes in the query. -/
def twoKeywords : Snapshot :=
  .ofOne { (Declaration.of "keyword").allow .member with member := some ⟨some 2, false⟩ }
    { Rule.of "keyword" ⟨"kw:(\x7bvalues\x7d)", [.literal "kw:(".toList, .slot .values,
        .literal [')']], by cbv⟩ with
      itemTemplate := some ⟨"\x7bquoted\x7d", [.slot .quoted], by cbv⟩ }

/-- Three keywords, two of which differ in case only. -/
def setsAndMaps : MemberValue := ⟨["Sets", "Maps", "sets"], false⟩

/-- The statement that there is one of the keywords. -/
def aboutSetsOrMaps : Atom := .of "keyword" (.member setsAndMaps)

/-- The keyword that is repeated counts once in the check and stands once in the query. -/
theorem distinct_eq_firsts_and_joined_setsAndMaps :
    setsAndMaps.firsts = [("Sets", 0), ("Maps", 1)] ∧
      ∃ d items w, twoKeywords.governing? "keyword" = some d ∧
        aboutSetsOrMaps.write twoKeywords .utc = .ok w ∧
        w.fragment = "kw:(\"Sets\" OR \"Maps\")" ∧
        List.Forall₂ (fun value item => w.rule.itemText "keyword" value = .ok item)
          ["Sets", "Maps"] items ∧
        ∀ m, (d.member.getD .standard).maxSize = some m → items.length ≤ m.toNat := by
  have hdistinct : setsAndMaps.distinct = ["Sets", "Maps"] := by decide
  obtain ⟨-, -, -, -, hjoined⟩ := distinct_eq_firsts_and_joined setsAndMaps
  obtain ⟨d, items, hd, -, hitems, -, hsize⟩ := hjoined twoKeywords true .utc
    (.atom aboutSetsOrMaps) aboutSetsOrMaps _ (by decide) (by decide) rfl rfl
  exact ⟨by decide, d, items, _, hd, rfl, by decide, hdistinct ▸ hitems, hsize⟩

end MemberValue

end BiblioQuery
