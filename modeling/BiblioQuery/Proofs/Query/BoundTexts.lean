import BiblioQuery.Proofs.Calendar.Formats
import BiblioQuery.Proofs.Provider.Validity
import BiblioQuery.Proofs.Query.FaultSources
import BiblioQuery.Proofs.Query.Stages

/-!
# Bounds in the formats of rules

Validation reads the formats of a rule and refuses those with unknown specifiers; what a format asks
for it does not look at, and need not, as a rule may carry a format that it never uses.  So a format
of a valid snapshot is always understood, yet a bound is written only if the format asks for nothing
that bounds of its kind do not have.  A rule that asks a date for the hour is valid, and writes no
date at all.

## Main definitions

* `Rule.formatItems?` : the items of the format that bounds of a kind are written in.
* `RangeKind.offers` : bounds of the kind have what an item asks for.
* `Bound.InCalendar` : the bound is in the calendar of universal time.

## Main results

* `Rule.exists_boundText_iff`, `Rule.boundText_eq_error_iff` : which bounds a rule writes, and why
  it does not write the others.
* `Snapshot.bounds_written_of_validate` : what validation says of bounds, and of the compilations
  that fail for a format.
* `Snapshot.not_written_of_daysByHour` : a valid snapshot that cannot write dates.
-/

namespace BiblioQuery

/-! ### What bounds have -/

/-- Bounds of the kind have what the item asks for. -/
def RangeKind.offers : RangeKind → Format.Item → Bool
  | .date => Format.Item.isOfDate
  | .dateTime => Format.Item.isWritable
  | .number => fun _ => true

/-- The bound is in the calendar of universal time, where a moment without offset takes the assumed
one. -/
def Bound.InCalendar (assumed : Offset) : Bound → Prop
  | .dateTime t => ∃ i, t.toInstant? assumed = some i
  | _ => True

namespace Rule

/-- The items of the format that the rule writes bounds of a kind in; numbers are written without
one. -/
def formatItems? (r : Rule) : RangeKind → Option (List Format.Item)
  | .date => Format.parse? (r.paramOr "date_format" "%Y-%m-%d")
  | .dateTime => Format.parse? (r.paramOr "datetime_format" "%Y-%m-%dT%H:%M:%SZ")
  | .number => some []

/-- The rule writes bounds of a kind: its format is understood and asks for nothing that they do not
have. -/
def WritesKind (r : Rule) (k : RangeKind) : Prop :=
  ∃ items, r.formatItems? k = some items ∧ ∀ i ∈ items, k.offers i = true

variable {r : Rule} {assumed : Offset} {b : Bound}

/-- A rule writes dates if it writes any one of them. -/
theorem writesKind_date_iff (d : Date) : r.WritesKind .date ↔
    ∃ text, Format.write? ⟨d, none⟩ (r.paramOr "date_format" "%Y-%m-%d") = some text :=
  (Format.exists_write?_iff ⟨d, none⟩).symm

/-- A rule writes moments if it writes any one of them. -/
theorem writesKind_dateTime_iff (m : Moment) : r.WritesKind .dateTime ↔
    ∃ text, Format.write? ⟨m.date, some m.clock⟩
      (r.paramOr "datetime_format" "%Y-%m-%dT%H:%M:%SZ") = some text :=
  (Format.exists_write?_iff ⟨m.date, some m.clock⟩).symm

theorem writesKind_number : r.WritesKind .number := ⟨[], rfl, List.forall_mem_nil _⟩

/-- For a bound in the calendar only the format of the rule decides. -/
theorem boundText_of_inCalendar (h : b.InCalendar assumed) :
    ((∃ text, r.boundText assumed b = .ok text) ↔ r.WritesKind b.kind) ∧
      ((∃ text, r.boundText assumed b = .ok text) ∨
        r.boundText assumed b = .error .formatRejected) := by
  cases b with
  | date d =>
    rw [Bound.kind, writesKind_date_iff d, boundText]
    cases Format.write? ⟨d, none⟩ (r.paramOr "date_format" "%Y-%m-%d") <;> simp
  | dateTime t =>
    obtain ⟨i, hi⟩ := h
    simp only [Bound.kind, writesKind_dateTime_iff i.moment, boundText, hi]
    cases Format.write? ⟨i.moment.date, some i.moment.clock⟩
      (r.paramOr "datetime_format" "%Y-%m-%dT%H:%M:%SZ") <;> simp
  | number x => simp [Bound.kind, boundText, writesKind_number]

/-- Outside the calendar nothing is written. -/
theorem boundText_of_not_inCalendar (h : ¬b.InCalendar assumed) :
    r.boundText assumed b = .error .outsideCalendar := by
  cases b with
  | dateTime t =>
    have hnone : t.toInstant? assumed = none :=
      Option.eq_none_iff_forall_ne_some.2 fun i hi => h ⟨i, hi⟩
    rw [boundText, hnone]
  | _ => exact absurd trivial h

/-- A rule writes the bounds in the calendar whose kind it writes. -/
theorem exists_boundText_iff :
    (∃ text, r.boundText assumed b = .ok text) ↔ b.InCalendar assumed ∧ r.WritesKind b.kind := by
  by_cases h : b.InCalendar assumed
  · simp [(boundText_of_inCalendar h).1, h]
  · simp [boundText_of_not_inCalendar h, h]

/-- Why a rule does not write a bound. -/
theorem boundText_eq_error_iff {reason : BoundFault} :
    r.boundText assumed b = .error reason ↔
      (¬b.InCalendar assumed ∧ reason = .outsideCalendar) ∨
        b.InCalendar assumed ∧ ¬r.WritesKind b.kind ∧ reason = .formatRejected := by
  by_cases h : b.InCalendar assumed
  · obtain ⟨hiff, hcases⟩ := boundText_of_inCalendar (r := r) h
    rw [← hiff]
    rcases hcases with ⟨text, htext⟩ | hrejected
    · simp [htext, h]
    · simp [hrejected, h, eq_comm]
  · simp [boundText_of_not_inCalendar h, h, eq_comm]

/-- The formats of a rule that passes validation are understood. -/
theorem exists_formatItems?_of_validate (h : r.validate = .ok ()) (k : RangeKind) :
    ∃ items, r.formatItems? k = some items := by
  obtain ⟨-, -, hformats⟩ := validate_eq_ok_iff.1 h
  have hread {key default : String} (hkey : key ∈ formatKeys)
      (hdefault : ∃ items, Format.parse? default = some items) :
      ∃ items, Format.parse? (r.paramOr key default) = some items := by
    rw [paramOr]
    cases hformat : r.params.get? key with
    | none => exact hdefault
    | some format => exact hformats key hkey format hformat
  cases k with
  | date => exact hread (by decide) ⟨_, rfl⟩
  | dateTime => exact hread (by decide) ⟨_, rfl⟩
  | number => exact ⟨[], rfl⟩

end Rule

/-! ### Compilations that fail for a format -/

namespace Snapshot

variable {s : Snapshot}

/-- A compilation fails for a format at a bound of an atom that its rule cannot write. -/
theorem exists_unwritableBound_of_compile {o : Options} {e : Expr} {c : Compiled} {i : Issue}
    (h : s.compile o e = .ok c) (hi : i ∈ c.report.warnings ++ c.report.errors)
    (hcode : i.code = .renderFormatFailed) :
    ∃ assumed a r denied b reason, o.offset? = some assumed ∧ a ∈ c.normalized.atoms ∧
      s.ruleFor? a = some (r, denied) ∧ b ∈ a.value.bounds ∧
      r.boundText assumed b = .error reason ∧
      i = (RenderFault.unwritableBound a.field r.id b reason).issue := by
  obtain ⟨assumed, n, hoffset, -, rfl⟩ := compile_eq_ok_iff.1 h
  obtain ⟨stage, hstage⟩ := exists_endsAt_compileNormal s o assumed n
  obtain hcheck | hrender | hbudget := hstage.mem_check_or_mem_render hi
  · have hkind := Expr.kind_of_mem_check hcheck
    rw [Issue.kind, hcode] at hkind
    cases hkind
  · obtain ⟨f, hf, rfl⟩ := List.mem_map.1 hrender
    obtain ⟨a, r, denied, b, reason, ha, hrule, hb, hreason, rfl⟩ :=
      (Expr.finds_of_mem_faults false _ f hf).exists_unwritableBound hcode
    exact ⟨assumed, a, r, denied, b, reason, hoffset, ha, hrule, hb, hreason, rfl⟩
  · rw [hcode] at hbudget
    cases hbudget

/-- In a valid snapshot the formats of all rules are understood.  A rule writes a bound in the
calendar if its format asks for nothing that bounds of the kind do not have: a date has no time of
day, no zone and no number of seconds since 1970, and a moment lacks nothing but the offset that can
be read only.  If the format does ask for such a thing, then the rule writes no bound of the kind,
and the fault says so.  A compilation fails for a format only at a bound that is outside the
calendar or that lacks what the format of its rule asks for. -/
theorem bounds_written_of_validate (hvalid : s.validate = .ok ()) :
    (∀ r ∈ s.rules, ∀ k : RangeKind, ∃ items, r.formatItems? k = some items ∧
      ∀ (assumed : Offset) (b : Bound), b.kind = k → b.InCalendar assumed →
        ((∃ text, r.boundText assumed b = .ok text) ↔ ∀ i ∈ items, k.offers i = true) ∧
          (r.boundText assumed b = .error .formatRejected ↔ ∃ i ∈ items, k.offers i = false)) ∧
      ∀ (o : Options) (e : Expr) (c : Compiled), s.compile o e = .ok c →
        ∀ issue ∈ c.report.warnings ++ c.report.errors, issue.code = .renderFormatFailed →
          ∃ assumed a r denied b reason, o.offset? = some assumed ∧ a ∈ c.normalized.atoms ∧
            s.ruleFor? a = some (r, denied) ∧ b ∈ a.value.bounds ∧
            issue = (RenderFault.unwritableBound a.field r.id b reason).issue ∧
            (¬b.InCalendar assumed ∧ reason = .outsideCalendar ∨
              reason = .formatRejected ∧ ∃ items, r.formatItems? b.kind = some items ∧
                ∃ i ∈ items, b.kind.offers i = false) := by
  obtain ⟨-, -, hrules⟩ := validate_eq_ok_iff.1 hvalid
  have hwrites {r : Rule} {k : RangeKind} {items : List Format.Item}
      (hitems : r.formatItems? k = some items) :
      r.WritesKind k ↔ ∀ i ∈ items, k.offers i = true := by
    simp [Rule.WritesKind, hitems]
  have hlacks {items : List Format.Item} {k : RangeKind} :
      (∃ i ∈ items, k.offers i = false) ↔ ¬∀ i ∈ items, k.offers i = true := by
    simp
  refine ⟨fun r hr k => ?_, fun o e c hc issue hissue hcode => ?_⟩
  · obtain ⟨items, hitems⟩ := Rule.exists_formatItems?_of_validate (hrules r hr) k
    refine ⟨items, hitems, ?_⟩
    rintro assumed b rfl hb
    rw [Rule.exists_boundText_iff, Rule.boundText_eq_error_iff, hwrites hitems, hlacks]
    simp [hb]
  · obtain ⟨assumed, a, r, denied, b, reason, hoffset, ha, hrule, hb, hreason, rfl⟩ :=
      exists_unwritableBound_of_compile hc hissue hcode
    refine ⟨assumed, a, r, denied, b, reason, hoffset, ha, hrule, hb, rfl, ?_⟩
    obtain ⟨items, hitems⟩ :=
      Rule.exists_formatItems?_of_validate (hrules r (mem_rules_of_ruleFor? hrule)) b.kind
    rw [Rule.boundText_eq_error_iff, hwrites hitems] at hreason
    exact hreason.imp_right fun h => ⟨h.2.2, items, hitems, hlacks.2 h.2.1⟩

/-- A provider that can be asked for what was published since a day, which is written in the given
format. -/
def daysIn (format : String) : Snapshot :=
  .ofOne ((Declaration.of "published").allow .range)
    { Rule.of "published" ⟨"\x7blower\x7d", [.slot .lower], by cbv⟩ with
      params := .ofList [("date_format", format)] }

/-- The statement that something was published since the first day of the year 2024. -/
def sinceNewYear : Expr :=
  .atom ⟨"published", .range (.dates (some ((Date.of? 2024 1 1).getD .epoch)) none), false⟩

/-- A format of dates that asks for the day alone writes all of them, and whatever compilation fails
for a format does so at a moment outside the calendar. -/
theorem bounds_written_of_validate_daysInDigits :
    (daysIn "%Y%m%d").validate = .ok () ∧
      (∀ r ∈ (daysIn "%Y%m%d").rules, ∀ (assumed : Offset) (d : Date),
        ∃ text, r.boundText assumed (.date d) = .ok text) ∧
      ∀ (o : Options) (e : Expr) (c : Compiled), (daysIn "%Y%m%d").compile o e = .ok c →
        ∀ issue ∈ c.report.errors, issue.code = .renderFormatFailed →
          ∃ assumed, ∃ a ∈ c.normalized.atoms, ∃ b ∈ a.value.bounds, ¬b.InCalendar assumed := by
  have hvalid : (daysIn "%Y%m%d").validate = .ok () := rfl
  have hoffers : ∀ r ∈ (daysIn "%Y%m%d").rules, ∀ k : RangeKind, ∀ items,
      r.formatItems? k = some items → ∀ i ∈ items, k.offers i = true := by
    intro r hr k items hitems
    obtain rfl := List.mem_singleton.1 hr
    cases k <;> obtain rfl := Option.some.inj hitems <;> decide
  obtain ⟨hrules, hcompile⟩ := bounds_written_of_validate hvalid
  refine ⟨hvalid, fun r hr assumed d => ?_, fun o e c hc issue hissue hcode => ?_⟩
  · obtain ⟨items, hitems, hbounds⟩ := hrules r hr .date
    exact (hbounds assumed (.date d) rfl trivial).1.2 (hoffers r hr .date items hitems)
  · obtain ⟨assumed, a, r, denied, b, reason, -, ha, hrule, hb, -, hwhy⟩ :=
      hcompile o e c hc issue (List.mem_append_right _ hissue) hcode
    refine ⟨assumed, a, ha, b, hb, ?_⟩
    rcases hwhy with ⟨hout, -⟩ | ⟨-, items, hitems, i, hi, hlacks⟩
    · exact hout
    · have hoffered := hoffers r (mem_rules_of_ruleFor? hrule) b.kind items hitems i hi
      exact absurd hlacks (by simp [hoffered])

/-- A format that asks for the hour is valid for dates, and no date is written in it: a compilation
with a first day fails. -/
theorem not_written_of_daysByHour :
    (daysIn "%H").validate = .ok () ∧
      (∀ r ∈ (daysIn "%H").rules, ∀ (assumed : Offset) (d : Date),
        r.boundText assumed (.date d) = .error .formatRejected) ∧
      ∃ c, (daysIn "%H").compile .standard sinceNewYear = .ok c ∧
        ∃ i ∈ c.report.errors, i.code = .renderFormatFailed ∧
          i.message = "cannot format range bound 2024-01-01: format string rejected" := by
  refine ⟨rfl, fun r hr assumed d => ?_, _, rfl, by decide⟩
  obtain rfl := List.mem_singleton.1 hr
  rfl

end Snapshot

end BiblioQuery
