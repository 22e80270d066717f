import BiblioQuery.Proofs.Archive.TidyTrees

/-!
# Codes that are names of the archive's own files

Any text that can be the name of a directory is taken as the code of a provider, also the names of
the manifest and of the file it is written to first.  The directory of such a provider takes the
place of that file, so its snapshots cannot be saved.  In a file tree that starts empty and takes
the names, these two are the only codes that cannot.

## Main results

* `Store.saves_succeed_iff` : saves in a row all succeed unless a code is reserved.
* `Store.save_manifest_json_refused` : one of the codes that are accepted and never work.
-/

namespace BiblioQuery

namespace Store

open FileTree (disk)

/-- The requests to save snapshots, each with what the clock shows. -/
def savesOf (saves : List (Instant × Snapshot)) : List Request :=
  saves.map fun p => .change (.save p.1 p.2)

/-- Saves in a row all succeed in a tidy tree that takes the names, unless a code is reserved. -/
theorem performAll_savesOf_eq_ok_iff {saves : List (Instant × Snapshot)} {st : Store} {t : FileTree}
    (htidy : t.Tidy) (hvalid : ∀ p ∈ saves, p.2.validate = .ok ())
    (hparts : ∀ p ∈ saves, ∀ part ∈ p.2.key.parts, isPathPart part = true)
    (htakes : ∀ p ∈ saves, t.Takes p.2) :
    (∃ w, performAll disk (savesOf saves) (st, t) = (.ok (), w)) ↔
      ∀ p ∈ saves, p.2.code ∉ reservedNames := by
  induction saves generalizing st t with
  | nil => exact iff_of_true ⟨_, rfl⟩ (List.forall_mem_nil _)
  | cons p rest ih =>
    obtain ⟨hvalid', hvalidRest⟩ := List.forall_mem_cons.1 hvalid
    obtain ⟨hparts', hpartsRest⟩ := List.forall_mem_cons.1 hparts
    obtain ⟨htakes', htakesRest⟩ := List.forall_mem_cons.1 htakes
    rw [List.forall_mem_cons]
    by_cases hcode : p.2.code ∈ reservedNames
    · refine iff_of_false ?_ fun h => h.1 hcode
      rintro ⟨w, hw⟩
      obtain ⟨w₁, hfirst, -⟩ := performAll_cons_eq_ok_iff.1 hw
      obtain ⟨r, hr⟩ : ∃ r, Store.save disk p.1 p.2 (st, t) = r := ⟨_, rfl⟩
      obtain ⟨r, w₂⟩ := r
      obtain ⟨hr', -⟩ := Prod.mk.inj ((Change.perform_save hr).symm.trans hfirst)
      cases r with
      | error e => cases hr'
      | ok e => exact FileTree.save_ne_ok_of_reserved hcode st p.1 t e (by rw [hr])
    · obtain ⟨t', hsave, htidy', hlimit⟩ :=
        htidy.exists_save hvalid' hparts' hcode htakes' st p.1
      have hfirst : (Change.save p.1 p.2).perform disk (st, t) =
          (.ok (), (st.saved p.1 p.2, t')) := Change.perform_save hsave
      have hrest : (∃ w, performAll disk (savesOf rest) (st.saved p.1 p.2, t') = (.ok (), w)) ↔
          ∀ q ∈ rest, q.2.code ∉ reservedNames :=
        ih htidy' hvalidRest hpartsRest fun q hq name hname =>
          (FileTree.takesName_congr hlimit name).trans (htakesRest q hq name hname)
      rw [and_iff_right hcode, ← hrest]
      constructor
      · rintro ⟨w, hw⟩
        obtain ⟨w₁, hfirst', hw₁⟩ := performAll_cons_eq_ok_iff.1 hw
        obtain rfl := (Prod.mk.inj (hfirst.symm.trans hfirst')).2
        exact ⟨w, hw₁⟩
      · rintro ⟨w, hw⟩
        exact ⟨w, performAll_cons_eq_ok_iff.2 ⟨_, hfirst, hw⟩⟩

/-- Saves of valid snapshots with accepted keys in a row, to an archive that is opened in an empty
file tree that takes their names, all succeed exactly if none of the codes is the name of the
manifest or of the file it is written to first. -/
theorem saves_succeed_iff {limit : Option Nat} {root : String} {opened : Instant} {st : Store}
    {t : FileTree} (hopen : openAt disk root opened (.empty limit) = (.ok st, t))
    {saves : List (Instant × Snapshot)} (hvalid : ∀ p ∈ saves, p.2.validate = .ok ())
    (haccepted : ∀ p ∈ saves, ∃ path, p.2.key.documentPath? = .ok path)
    (htakes : ∀ p ∈ saves, (FileTree.empty limit).Takes p.2) :
    (∃ w, performAll disk (savesOf saves) (st, t) = (.ok (), w)) ↔
      ∀ p ∈ saves, p.2.code ≠ "manifest.json" ∧ p.2.code ≠ "manifest.json.tmp" := by
  have hstate := openAt_state FileTree.isFaithful_disk root opened (.empty limit)
  rw [hopen] at hstate
  obtain rfl : t = .empty limit := hstate
  have hparts : ∀ p ∈ saves, ∀ part ∈ p.2.key.parts, isPathPart part = true := by
    intro p hp
    obtain ⟨path, hpath⟩ := haccepted p hp
    exact (Key.documentPath?_eq_ok_iff.1 hpath).1
  rw [performAll_savesOf_eq_ok_iff (FileTree.tidy_empty limit) hvalid hparts htakes]
  simp [reservedNames]

/-- Snapshots of two providers are saved one after the other, and one of them again. -/
theorem saves_succeed_two_providers :
    let saves : List (Instant × Snapshot) :=
      [(.epoch, .blank "a" 1), (.epoch, .blank "b" 1), (.epoch, .blank "a" 2)]
    openAt disk "root" .epoch (.empty none) = (.ok ⟨"root", .empty .epoch⟩, .empty none) ∧
      ∃ w, performAll disk (savesOf saves) (⟨"root", .empty .epoch⟩, .empty none) =
        (.ok (), w) := by
  intro saves
  have hopen : openAt disk "root" .epoch (.empty none) =
      (.ok ⟨"root", .empty .epoch⟩, .empty none) := rfl
  have hvalid : ∀ p ∈ saves, p.2.validate = .ok () := by
    simp only [saves, List.forall_mem_cons]
    exact ⟨rfl, rfl, rfl, List.forall_mem_nil _⟩
  have haccepted : ∀ p ∈ saves, ∃ path, p.2.key.documentPath? = .ok path := by
    simp only [saves, List.forall_mem_cons]
    exact ⟨⟨["a", "harvest", "search.json"], by decide⟩,
      ⟨["b", "harvest", "search.json"], by decide⟩,
      ⟨["a", "harvest", "search.json"], by decide⟩, List.forall_mem_nil _⟩
  refine ⟨hopen, (saves_succeed_iff hopen hvalid haccepted fun p _ name _ => rfl).2 ?_⟩
  simp [saves, Snapshot.blank]

/-- The name of the manifest is accepted as a code, and the snapshot with that code is valid, but it
is refused even where nothing was saved before. -/
theorem save_manifest_json_refused :
    let s : Snapshot := .blank "manifest.json" 1
    let st : Store := ⟨"root", .empty .epoch⟩
    openAt disk "root" .epoch (.empty none) = (.ok st, .empty none) ∧ s.validate = .ok () ∧
      s.key.documentPath? = .ok ["manifest.json", "harvest", "search.json"] ∧
      (save disk .epoch s (st, .empty none)).1 =
        .error (.disk (st.pathText "manifest.json") .isDirectory) := by
  refine ⟨rfl, rfl, by decide, ?_⟩
  rfl

end Store

end BiblioQuery
