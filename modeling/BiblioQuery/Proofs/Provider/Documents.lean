import BiblioQuery.Proofs.Calendar.Instants
import BiblioQuery.Proofs.Json.Records
import BiblioQuery.Provider.Document

/-!
# Documents of snapshots read back

A snapshot is written with all its fields, those that have their defaults included, and each field
is read by the reader of its type.  So a snapshot is read back from its document as soon as the
instants in it are: those of its windows and the one at which it was taken.  Where a default is not
`null`, as for the template of denials of a dialect, an explicit `null` is read as what it is.

No document has an instant that is not read back, since a leap second inside a minute is not written
as one.  So the condition on the instants is met by all snapshots that come from documents, and it
is as weak as it can be.

## Main definitions

* `Window.Shown`, `Snapshot.Shown` : a clock of universal time can show all instants in it.

## Main results

* `Declaration.ofJson?_toJson`, `Rule.ofJson?_toJson`, `Dialect.ofJson?_toJson` : the parts of a
  snapshot are read back.
* `Snapshot.ofJson?_toJson` : so is the snapshot.
* `Snapshot.fits_toJson` : the document of a snapshot is no deeper than it may be.
* `Snapshot.parse_pretty_eq` : the text of a snapshot is read as the snapshot.
* `Snapshot.valid_and_shown_of_parse` : what the snapshots are like that texts are read as.
* `Snapshot.parse_pretty_round_trip` : the snapshots that are read back, no more and no fewer.
-/

namespace BiblioQuery

open Json

/-! ### Instants, windows, patterns and templates -/

theorem Instant.ofJson?_toJson {i : Instant} (h : i.Shown) : ofJson? i.toJson = some i := by
  rw [ofJson?, toJson, text?, Option.bind_some, parse?_text, reread_eq_self h]

theorem Pattern.ofJson?_toJson (p : Pattern) : ofJson? p.toJson = some p := by
  rw [ofJson?, toJson, text?, Option.bind_some, ofSource?_source]

theorem Template.ofJson?_toJson (t : Template) : ofJson? t.toJson = some t := by
  rw [ofJson?, toJson, text?, Option.bind_some, parse_source]
  rfl

/-- A clock of universal time can show the ends of the window. -/
structure Window.Shown (w : Window) : Prop where
  /-- The start, if there is one. -/
  start : ∀ i ∈ w.start, i.Shown
  /-- The end, if there is one. -/
  stop : ∀ i ∈ w.stop, i.Shown

/-- An end of a window is read back. -/
theorem option?_instant {o : Option Instant} (h : ∀ i ∈ o, i.Shown) :
    option? Instant.ofJson? (ofOption Instant.toJson o) = some o := by
  cases o with
  | none => rfl
  | some i =>
    have hread := Instant.ofJson?_toJson (h i rfl)
    rw [Instant.toJson] at hread
    rw [ofOption, Instant.toJson, option?, hread]
    · rfl
    · rintro ⟨⟩

/-- A window is read back. -/
theorem Window.ofJson?_toJson {w : Window} (h : w.Shown) : ofJson? w.toJson = some w := by
  rw [ofJson?, toJson, record?_object]
  case hkeys => rfl
  case hnodup => decide
  simp [↓bind_eq_elim, orElse_eq, field?, option?_instant h.start, option?_instant h.stop]

theorem Instant.shown_of_ofJson? {j : Json} {i : Instant} (h : ofJson? j = some i) : i.Shown := by
  obtain ⟨_, -, hparse⟩ := Option.bind_eq_some_iff.1 h
  exact shown_of_parse? hparse

/-- A window that is open at both ends shows no instant. -/
theorem Window.shown_always : Window.always.Shown := ⟨fun _ => nofun, fun _ => nofun⟩

/-- A clock of universal time can show the ends of a window that was read. -/
theorem Window.shown_of_ofJson? {j : Json} {w : Window} (h : ofJson? j = some w) : w.Shown := by
  have hend {key : String} {fields : List (String × Json)} {o : Option Instant}
      (h : orElse key none (option? Instant.ofJson?) fields = some o) : ∀ i ∈ o, i.Shown := by
    refine of_orElse (P := fun o => ∀ i ∈ o, i.Shown) (fun _ => nofun) ?_ h
    exact fun _ _ => of_mem_option? fun _ _ => Instant.shown_of_ofJson?
  obtain ⟨fields, -, h⟩ := Option.bind_eq_some_iff.1 h
  obtain ⟨start, hstart, h⟩ := Option.bind_eq_some_iff.1 h
  obtain ⟨stop, hstop, h⟩ := Option.bind_eq_some_iff.1 h
  obtain rfl := Option.some.inj h
  exact ⟨hend hstart, hend hstop⟩

theorem Window.fits_toJson (w : Window) : w.toJson.Fits 1 := by
  have hinstant : ∀ i : Instant, i.toJson.Fits 0 := fun i => fits_string i.text
  simp [toJson, fits_ofOption hinstant]

/-! ### Keywords -/

/-- A keyword is read back from its name. -/
theorem keyword?_nameJson {α : Type} {ofName? : String → Option α} {name : α → String}
    (h : ∀ a, ofName? (name a) = some a) (a : α) :
    keyword? ofName? (nameJson name a) = some a := h a

theorem keyword?_operator (o : Operator) :
    keyword? Operator.ofName? (nameJson Operator.name o) = some o :=
  keyword?_nameJson (fun _ => Operator.ofName?_eq_some_iff.2 rfl) o

theorem keyword?_matchType (m : MatchType) :
    keyword? MatchType.ofName? (nameJson MatchType.name m) = some m :=
  keyword?_nameJson (fun _ => MatchType.ofName?_eq_some_iff.2 rfl) m

theorem fits_nameJson {α : Type} (name : α → String) (n : Nat) (a : α) :
    (nameJson name a).Fits n := fits_string (name a)

/-! ### Capabilities -/

theorem option?_pattern (o : Option Pattern) :
    option? Pattern.ofJson? (ofOption Pattern.toJson o) = some o :=
  option?_ofOption Pattern.ofJson?_toJson (fun _ => nofun) o

theorem Pattern.fits_toJson (n : Nat) (p : Pattern) : p.toJson.Fits n := fits_string p.source

theorem TermCapability.ofJson?_toJson (c : TermCapability) : ofJson? c.toJson = some c := by
  have hmatchTypes := set?_ofSet keyword?_matchType c.matchTypes
  rw [ofJson?, toJson, record?_object]
  case hkeys => rfl
  case hnodup => decide
  simp [↓bind_eq_elim, orElse_eq, field?, flag?, hmatchTypes, option?_pattern]

theorem TermCapability.fits_toJson (c : TermCapability) : c.toJson.Fits 2 := by
  simp [toJson, fits_ofSet (fits_nameJson _ _), fits_ofOption fits_ofWord,
    fits_ofOption (Pattern.fits_toJson _)]

theorem MemberCapability.ofJson?_toJson (c : MemberCapability) : ofJson? c.toJson = some c := by
  rw [ofJson?, toJson, record?_object]
  case hkeys => rfl
  case hnodup => decide
  simp [↓bind_eq_elim, orElse_eq, field?, flag?]

theorem MemberCapability.fits_toJson (c : MemberCapability) : c.toJson.Fits 2 := by
  simp [toJson, fits_ofOption fits_ofWord]

theorem RangeCapability.ofJson?_toJson (c : RangeCapability) : ofJson? c.toJson = some c := by
  have hkind : keyword? RangeKind.ofName? (.string c.kind.name) = some c.kind :=
    RangeKind.ofName?_eq_some_iff.2 rfl
  have henforcement : keyword? Enforcement.ofName? (.string c.enforcement.name) =
      some c.enforcement := Enforcement.ofName?_eq_some_iff.2 rfl
  rw [ofJson?, toJson, record?_object]
  case hkeys => rfl
  case hnodup => decide
  simp [↓bind_eq_elim, orElse_eq, needed, field?, flag?, hkind, henforcement]

theorem RangeCapability.fits_toJson (c : RangeCapability) : c.toJson.Fits 2 := by
  simp [toJson, fits_ofOption fits_string]

theorem TokenCapability.ofJson?_toJson (c : TokenCapability) : ofJson? c.toJson = some c := by
  rw [ofJson?, toJson, record?_object]
  case hkeys => rfl
  case hnodup => decide
  simp [↓bind_eq_elim, orElse_eq, field?, option?_pattern]

theorem TokenCapability.fits_toJson (c : TokenCapability) : c.toJson.Fits 2 := by
  simp [toJson, fits_ofSet fits_string, fits_ofOption (Pattern.fits_toJson _)]

/-! ### Declarations -/

namespace Declaration

/-- A declaration is read back. -/
theorem ofJson?_toJson {d : Declaration} (h : d.effective.Shown) :
    ofJson? d.toJson = some d := by
  have hoperators := set?_ofSet keyword?_operator d.operators
  have hnegatable := set?_ofSet keyword?_operator d.negatable
  have hterm := option?_ofOption TermCapability.ofJson?_toJson (fun _ => nofun) d.term
  have hmember := option?_ofOption MemberCapability.ofJson?_toJson (fun _ => nofun) d.member
  have hrange := option?_ofOption RangeCapability.ofJson?_toJson (fun _ => nofun) d.range
  have htoken := option?_ofOption TokenCapability.ofJson?_toJson (fun _ => nofun) d.token
  rw [ofJson?, toJson, record?_object]
  case hkeys => rfl
  case hnodup => decide
  simp [↓bind_eq_elim, orElse_eq, needed, field?, text?, flag?, Window.ofJson?_toJson h,
    hoperators, hnegatable, hterm, hmember, hrange, htoken]

/-- The window of a declaration that was read can be shown. -/
theorem shown_of_ofJson? {j : Json} {d : Declaration} (h : ofJson? j = some d) :
    d.effective.Shown := by
  iterate 4
    obtain ⟨_, -, h⟩ := Option.bind_eq_some_iff.1 h
  obtain ⟨effective, heffective, h⟩ := Option.bind_eq_some_iff.1 h
  iterate 7
    obtain ⟨_, -, h⟩ := Option.bind_eq_some_iff.1 h
  obtain rfl := Option.some.inj h
  exact of_orElse Window.shown_always (fun _ _ => Window.shown_of_ofJson?) heffective

theorem fits_toJson (d : Declaration) : d.toJson.Fits 3 := by
  have hwindow : d.effective.toJson.Fits 2 := d.effective.fits_toJson.mono (by decide)
  simp [toJson, fits_ofOption fits_string, hwindow, fits_ofSet (fits_nameJson _ _),
    fits_ofOption TermCapability.fits_toJson, fits_ofOption MemberCapability.fits_toJson,
    fits_ofOption RangeCapability.fits_toJson, fits_ofOption TokenCapability.fits_toJson]

theorem listOfJson?_listToJson {ds : List Declaration} (h : ∀ d ∈ ds, d.effective.Shown) :
    listOfJson? (listToJson ds) = some ds := by
  have hlist := list?_ofList fun d hd => ofJson?_toJson (h d hd)
  rw [listOfJson?, listToJson, record?_object]
  case hkeys => rfl
  case hnodup => decide
  simp [↓bind_eq_elim, orElse_eq, field?, hlist]

theorem shown_of_listOfJson? {j : Json} {ds : List Declaration} (h : listOfJson? j = some ds) :
    ∀ d ∈ ds, d.effective.Shown := by
  obtain ⟨fields, -, h⟩ := Option.bind_eq_some_iff.1 h
  refine of_orElse (P := fun ds => ∀ d ∈ ds, d.effective.Shown) (List.forall_mem_nil _) ?_ h
  exact fun _ _ => of_mem_list? fun _ _ => shown_of_ofJson?

theorem fits_listToJson (ds : List Declaration) : (listToJson ds).Fits 5 := by
  simp [listToJson, fits_ofList fits_toJson]

end Declaration

/-! ### Rules and dialects -/

theorem option?_template (o : Option Template) :
    option? Template.ofJson? (ofOption Template.toJson o) = some o :=
  option?_ofOption Template.ofJson?_toJson (fun _ => nofun) o

theorem Template.fits_toJson (n : Nat) (t : Template) : t.toJson.Fits n := fits_string t.source

namespace Rule

/-- A rule is read back. -/
theorem ofJson?_toJson {r : Rule} (h : r.effective.Shown) : ofJson? r.toJson = some r := by
  have hoperator := option?_ofOption keyword?_operator (fun _ => nofun) r.operator
  have hmatchType := option?_ofOption keyword?_matchType (fun _ => nofun) r.matchType
  have hemit : keyword? EmitTarget.ofName? (.string r.emit.name) = some r.emit :=
    EmitTarget.ofName?_eq_some_iff.2 rfl
  have htransform := option?_ofOption
    (keyword?_nameJson fun _ => Transform.ofName?_eq_some_iff.2 rfl) (fun _ => nofun) r.transform
  rw [ofJson?, toJson, record?_object]
  case hkeys => rfl
  case hnodup => decide
  simp [↓bind_eq_elim, orElse_eq, needed, field?, text?, flag?, hoperator, hmatchType, hemit,
    htransform, Template.ofJson?_toJson, option?_template, Window.ofJson?_toJson h]

/-- The window of a rule that was read can be shown. -/
theorem shown_of_ofJson? {j : Json} {r : Rule} (h : ofJson? j = some r) : r.effective.Shown := by
  iterate 18
    obtain ⟨_, -, h⟩ := Option.bind_eq_some_iff.1 h
  obtain ⟨effective, heffective, h⟩ := Option.bind_eq_some_iff.1 h
  obtain rfl := Option.some.inj h
  exact of_orElse Window.shown_always (fun _ _ => Window.shown_of_ofJson?) heffective

theorem fits_toJson (r : Rule) : r.toJson.Fits 2 := by
  simp [toJson, fits_ofOption fits_string, fits_ofOption (fits_nameJson _ _),
    fits_ofOption fits_bool, Template.fits_toJson, fits_ofOption (Template.fits_toJson _),
    Window.fits_toJson]

end Rule

namespace Dialect

/-- A dialect is read back; that denials have no template is written as `null` and read as that, not
as the default. -/
theorem ofJson?_toJson (d : Dialect) : ofJson? d.toJson = some d := by
  rw [ofJson?, toJson, record?_object]
  case hkeys => rfl
  case hnodup => decide
  simp [↓bind_eq_elim, orElse_eq, field?, text?, option?_template]

theorem fits_toJson (d : Dialect) : d.toJson.Fits 3 := by
  simp [toJson, fits_ofOption fits_string, fits_ofOption (Template.fits_toJson _)]

theorem rulesOfJson?_rulesToJson (d : Dialect) {rs : List Rule} (h : ∀ r ∈ rs, r.effective.Shown) :
    rulesOfJson? (d.rulesToJson rs) = some (d, rs) := by
  have hlist := list?_ofList fun r hr => Rule.ofJson?_toJson (h r hr)
  rw [rulesOfJson?, rulesToJson, record?_object]
  case hkeys => rfl
  case hnodup => decide
  simp [↓bind_eq_elim, orElse_eq, field?, ofJson?_toJson, hlist]

theorem shown_of_rulesOfJson? {j : Json} {p : Dialect × List Rule} (h : rulesOfJson? j = some p) :
    ∀ r ∈ p.2, r.effective.Shown := by
  obtain ⟨fields, -, h⟩ := Option.bind_eq_some_iff.1 h
  obtain ⟨dialect, -, h⟩ := Option.bind_eq_some_iff.1 h
  obtain ⟨rules, hrules, h⟩ := Option.bind_eq_some_iff.1 h
  obtain rfl := Option.some.inj h
  refine of_orElse (P := fun rs => ∀ r ∈ rs, r.effective.Shown) (List.forall_mem_nil _) ?_ hrules
  exact fun _ _ => of_mem_list? fun _ _ => Rule.shown_of_ofJson?

theorem fits_rulesToJson (d : Dialect) (rs : List Rule) : (d.rulesToJson rs).Fits 4 := by
  simp [rulesToJson, fits_toJson, fits_ofList Rule.fits_toJson]

end Dialect

/-! ### Snapshots -/

namespace Snapshot

/-- A clock of universal time can show all instants in the snapshot. -/
structure Shown (s : Snapshot) : Prop where
  /-- The instant at which it was taken. -/
  capturedAt : s.capturedAt.Shown
  /-- The windows of the declarations. -/
  declarations : ∀ d ∈ s.declarations, d.effective.Shown
  /-- The windows of the rules. -/
  rules : ∀ r ∈ s.rules, r.effective.Shown

/-- A snapshot is read back. -/
theorem ofJson?_toJson {s : Snapshot} (h : s.Shown) : ofJson? s.toJson = some s := by
  have hcapabilities := Declaration.listOfJson?_listToJson h.declarations
  have hrules := s.dialect.rulesOfJson?_rulesToJson h.rules
  rw [ofJson?, toJson, record?_object]
  case hkeys => rfl
  case hnodup => decide
  simp [↓bind_eq_elim, orElse_eq, needed, field?, text?, Instant.ofJson?_toJson h.capturedAt,
    hcapabilities, hrules]

/-- A clock of universal time can show all instants in a snapshot that was read. -/
theorem shown_of_ofJson? {j : Json} {s : Snapshot} (h : ofJson? j = some s) : s.Shown := by
  iterate 6
    obtain ⟨_, -, h⟩ := Option.bind_eq_some_iff.1 h
  obtain ⟨capturedAt, hcapturedAt, h⟩ := Option.bind_eq_some_iff.1 h
  obtain ⟨declarations, hdeclarations, h⟩ := Option.bind_eq_some_iff.1 h
  obtain ⟨⟨dialect, rules⟩, hrules, h⟩ := Option.bind_eq_some_iff.1 h
  obtain rfl := Option.some.inj h
  obtain ⟨_, -, hinstant⟩ := Option.bind_eq_some_iff.1 hcapturedAt
  refine ⟨Instant.shown_of_ofJson? hinstant, ?_, ?_⟩
  · refine of_orElse (P := fun ds => ∀ d ∈ ds, d.effective.Shown) (List.forall_mem_nil _) ?_
      hdeclarations
    exact fun _ _ => Declaration.shown_of_listOfJson?
  · refine of_orElse (P := fun p => ∀ r ∈ p.2, r.effective.Shown) (List.forall_mem_nil _) ?_
      hrules
    exact fun _ _ => Dialect.shown_of_rulesOfJson?

/-- The document of a snapshot is no deeper than it may be. -/
theorem fits_toJson (s : Snapshot) : s.toJson.Fits maxLevels := by
  have hinstant : s.capturedAt.toJson.Fits 5 := fits_string s.capturedAt.text
  have hrules : (s.dialect.rulesToJson s.rules).Fits 5 :=
    (s.dialect.fits_rulesToJson s.rules).mono (by decide)
  have hfits : s.toJson.Fits 6 := by
    simp [toJson, hinstant, Declaration.fits_listToJson, hrules]
  exact hfits.mono (by decide)

/-- The text of a valid snapshot is read as the snapshot. -/
theorem parse_pretty_eq {s : Snapshot} (hvalid : s.validate = .ok ()) (h : s.Shown) :
    parse s.pretty = .ok s := by
  rw [parse, pretty, s.fits_toJson.parse?_pretty, Option.bind_some, ofJson?_toJson h]
  dsimp only
  rw [validated, hvalid]

/-- A snapshot that is read from a text is valid, and a clock can show all instants in it. -/
theorem valid_and_shown_of_parse {text : String} {s : Snapshot} (h : parse text = .ok s) :
    s.validate = .ok () ∧ s.Shown := by
  unfold parse at h
  split at h
  · cases h
  rename_i s' hread
  obtain ⟨j, -, hj⟩ := Option.bind_eq_some_iff.1 hread
  unfold validated at h
  split at h
  · rename_i hvalid
    obtain rfl := Except.ok.inj h
    exact ⟨hvalid, shown_of_ofJson? hj⟩
  · cases h

/-- The indented text of a snapshot is read as just that snapshot if and only if the snapshot is
valid and all its instants are instants of universal time, in which a leap second ends a minute; the
year may be any year of the calendar.  All snapshots that come from a text are such snapshots, so
writing and reading a document once more changes nothing. -/
theorem parse_pretty_round_trip :
    (∀ s : Snapshot, parse s.pretty = .ok s ↔ s.validate = .ok () ∧ s.Shown) ∧
      ∀ (text : String) (s : Snapshot), parse text = .ok s → parse s.pretty = .ok s := by
  refine ⟨fun s => ⟨valid_and_shown_of_parse, fun h => parse_pretty_eq h.1 h.2⟩, ?_⟩
  intro text s hparse
  have hs := valid_and_shown_of_parse hparse
  exact parse_pretty_eq hs.1 hs.2

end Snapshot

end BiblioQuery
