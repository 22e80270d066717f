import BiblioQuery.Proofs.Collection.Results
import BiblioQuery.Provider.Snapshot

/-!
# Valid snapshots

Validation goes through the declarations and then through the rules, and ends at the first fault.
So a snapshot is valid if and only if each declaration and each rule passes on its own and no two
rules have one name.

## Main results

* `Rule.validate_eq_ok_iff` : what it takes for a rule to pass.
* `Rule.validateAll_eq_ok_iff` : what it takes for the rules of a snapshot.
* `Snapshot.validate_eq_ok_iff` : what it takes for a snapshot to be valid.
* `Snapshot.nodup_of_validate` : no two rules of a valid snapshot have one name.
-/

namespace BiblioQuery

/-! ### Rules -/

namespace Rule

/-- A rule passes if its window has room, it names the parameter that it writes to, and its formats
of dates and moments can be understood. -/
theorem validate_eq_ok_iff {r : Rule} : r.validate = .ok () ↔
    r.effective.isEmpty = false ∧ ¬(r.emit = .params ∧ r.paramKey = none) ∧
      ∀ key ∈ formatKeys, ∀ format, r.params.get? key = some format →
        ∃ items, Format.parse? format = some items := by
  have hformats : ((formatKeys.filterMap r.params.get?).find? fun f => (Format.parse? f).isNone) =
      none ↔ ∀ key ∈ formatKeys, ∀ format, r.params.get? key = some format →
        ∃ items, Format.parse? format = some items := by
    simp only [List.find?_eq_none, List.mem_filterMap, Option.isNone_iff_eq_none,
      Option.ne_none_iff_exists', forall_exists_index, and_imp]
    exact ⟨fun h key hkey format hformat => h format key hkey hformat,
      fun h format key hkey hformat => h key hkey format hformat⟩
  rw [validate, ← hformats]
  cases hempty : r.effective.isEmpty with
  | true => simp
  | false =>
    by_cases hkey : r.emit = .params ∧ r.paramKey = none
    · simp [hkey]
    · cases (formatKeys.filterMap r.params.get?).find? fun f => (Format.parse? f).isNone with
      | none => simp [hkey]
      | some format => simp [hkey]

/-- Rules pass if each of them does, no two of them have one name, and none of the names was taken
before. -/
theorem validateAll_eq_ok_iff {taken : List String} {rules : List Rule} :
    validateAll taken rules = .ok () ↔
      (rules.map id).Nodup ∧ (∀ r ∈ rules, r.id ∉ taken) ∧ ∀ r ∈ rules, r.validate = .ok () := by
  induction rules generalizing taken with
  | nil => simp [validateAll]
  | cons r rules ih =>
    rw [validateAll]
    by_cases hfresh : r.id ∈ taken
    · simp [hfresh]
    · rw [if_neg (by simpa using hfresh), bind_eq_ok_iff, ih]
      have hnew : (∀ q ∈ rules, q.id ∉ r.id :: taken) ↔
          r.id ∉ rules.map id ∧ ∀ q ∈ rules, q.id ∉ taken := by
        simp only [List.mem_cons, not_or, forall_and, List.mem_map, not_exists, not_and]
      rw [hnew, List.map_cons, List.nodup_cons, List.forall_mem_cons, List.forall_mem_cons]
      constructor
      · rintro ⟨hr, hnodup, ⟨hdistinct, hfree⟩, hrules⟩
        exact ⟨⟨hdistinct, hnodup⟩, ⟨hfresh, hfree⟩, hr, hrules⟩
      · rintro ⟨⟨hdistinct, hnodup⟩, ⟨-, hfree⟩, hr, hrules⟩
        exact ⟨hr, hnodup, ⟨hdistinct, hfree⟩, hrules⟩

end Rule

/-! ### Snapshots -/

namespace Snapshot

variable {s : Snapshot}

/-- A snapshot is valid if each declaration and each rule passes and no two rules have one name. -/
theorem validate_eq_ok_iff : s.validate = .ok () ↔
    (∀ d ∈ s.declarations, d.validate = .ok ()) ∧ (s.rules.map Rule.id).Nodup ∧
      ∀ r ∈ s.rules, r.validate = .ok () := by
  rw [validate, bind_eq_ok_iff, forM_eq_ok_iff, Rule.validateAll_eq_ok_iff]
  simp

/-- No two rules of a valid snapshot have one name. -/
theorem nodup_of_validate (h : s.validate = .ok ()) : (s.rules.map Rule.id).Nodup :=
  (validate_eq_ok_iff.1 h).2.1

end Snapshot

end BiblioQuery
