import BiblioQuery.Proofs.Archive.Changes
import BiblioQuery.Proofs.Archive.FileTrees

/-!
# File trees of archives

A file tree that only an archive has written to has files in two layers: the manifest and the file
it is written to first right below the root, and documents three names deep, below directories.  A
provider whose code is the name of one of the two files would need a directory in its place.  All
other snapshots can be saved, if the tree takes the names, and then the tree is as before.

## Main definitions

* `reservedNames` : the names of the manifest and of the file it is written to first.
* `FileTree.Tidy` : files and directories are in their layers.
* `FileTree.Takes` : the names that belong to a snapshot are not too long.

## Main results

* `FileTree.Tidy.replacing_eq_ok` : a file can be put in its place if it suits there.
* `FileTree.Tidy.exists_save` : a snapshot with a code that is not reserved can be saved.
* `FileTree.save_ne_ok_of_reserved` : one with a reserved code never can.
-/

namespace BiblioQuery

/-- The names right below the root that the archive uses itself. -/
def reservedNames : List String := ["manifest.json", "manifest.json.tmp"]

namespace FileTree

variable {t t' : FileTree} {p q : DiskPath} {n : String} {st st' : Store} {bytes : List UInt8}
  {report : String → DiskError → ArchiveError}

/-! ### Layers -/

/-- What may be at a path: directories at most two names deep, but not with a reserved name, and
files with a reserved name or three names deep. -/
def Suits (p : DiskPath) : DiskNode → Prop
  | .directory => p.length ≤ 2 ∧ ∀ name ∈ reservedNames, p ≠ [name]
  | .file _ => p.length = 3 ∨ ∃ name ∈ reservedNames, p = [name]

/-- Files and directories are in their layers. -/
def Tidy (t : FileTree) : Prop := ∀ p x, p.IsPlain → t.node? p = some x → Suits p x

theorem suits_nil : Suits [] .directory := ⟨Nat.zero_le 2, fun _ _ h => by cases h⟩

theorem tidy_empty (limit : Option Nat) : (empty limit).Tidy := by
  intro p x hp hx
  by_cases hne : p = []
  · subst hne
    obtain rfl : x = .directory := (Option.some.inj hx).symm
    exact suits_nil
  · rw [node?, all_dots_eq_false hp hne] at hx
    cases hx

namespace Tidy

theorem put (h : t.Tidy) (hp : p.IsPlain) (hne : p ≠ []) {x : DiskNode} (hx : Suits p x) :
    (t.put p x).Tidy := by
  intro q y hq hy
  rw [node?_put hp hne] at hy
  split at hy
  · rename_i hqp
    exact hqp ▸ Option.some.inj hy ▸ hx
  · exact h q y hq hy

theorem erase (h : t.Tidy) (hp : p.IsPlain) (hne : p ≠ []) :
    Tidy { t with nodes := t.nodes.erase p } := by
  intro q y hq hy
  rw [node?_erase hp hne] at hy
  split at hy
  · cases hy
  · exact h q y hq hy

end Tidy

/-! ### Files that are put in their places -/

theorem takesName_of_append {m n : String} (h : t.takesName (m ++ n) = true) :
    t.takesName m = true := by
  rw [takesName, Option.all_eq_true_iff_get] at h ⊢
  intro hlimit
  have hfits := h hlimit
  simp only [decide_eq_true_eq, String.utf8ByteSize_append] at hfits ⊢
  omega

theorem takesName_congr (h : t'.nameLimit = t.nameLimit) (n : String) :
    t'.takesName n = t.takesName n := by
  rw [takesName, takesName, h]

theorem not_suits_directory (h : Suits p (.file bytes)) : ¬ Suits p .directory := by
  rintro ⟨hlength, hreserved⟩
  rcases h with hthree | ⟨name, hname, rfl⟩
  · omega
  · exact hreserved name hname rfl

theorem isPlain_concat (hp : p.IsPlain) (hn : isPathPart n = true) :
    DiskPath.IsPlain (p ++ [n]) :=
  List.forall_mem_append.2 ⟨hp, List.forall_mem_singleton.2 hn⟩

namespace Tidy

variable {m : String}

/-- There is no directory where a file suits. -/
theorem node?_ne_directory (h : t.Tidy) (hp : p.IsPlain) (hfile : Suits p (.file bytes)) :
    t.node? p ≠ some .directory :=
  fun hnode => not_suits_directory hfile (h p _ hp hnode)

/-- A file can be written where it suits. -/
theorem exists_write (h : t.Tidy) (hp : p.IsPlain) (hn : isPathPart n = true)
    (hdir : disk.HasDirectory t p) (htakes : t.takesName n = true)
    (hfile : Suits (p ++ [n]) (.file bytes)) :
    ∃ t', disk.write (p ++ [n]) bytes t = (.ok (), t') ∧ t'.Tidy ∧ t'.nameLimit = t.nameLimit ∧
      t'.node? (p ++ [n]) = some (.file bytes) := by
  have hpn := isPlain_concat hp hn
  have hne : p ++ [n] ≠ [] := by simp
  have hlocate := (locate_concat_eq_ok_iff hp hn).2 ⟨rfl, hdir, htakes⟩
  have hnode := h.node?_ne_directory hpn hfile
  refine ⟨t.put (p ++ [n]) (.file bytes), ?_, h.put hpn hne hfile, rfl, ?_⟩
  · change change (fun t => t.write _ bytes) t = _
    rw [change, write, hlocate]
    dsimp only
    rcases hp' : t.node? (p ++ [n]) with _ | _ | _
    · rfl
    · contradiction
    · rfl
  · rw [node?_put hpn hne, if_pos rfl]

/-- A file can be moved within a directory to where it suits. -/
theorem exists_rename (h : t.Tidy) (hp : p.IsPlain) (hm : isPathPart m = true)
    (hn : isPathPart n = true) (hdir : disk.HasDirectory t p) (htakes : t.takesName m = true)
    (htakes' : t.takesName n = true) (hnode : t.node? (p ++ [m]) = some (.file bytes))
    (hfile : Suits (p ++ [n]) (.file bytes)) :
    ∃ t', disk.rename (p ++ [m]) (p ++ [n]) t = (.ok (), t') ∧ t'.Tidy ∧
      t'.nameLimit = t.nameLimit := by
  have hpm := isPlain_concat hp hm
  have hpn := isPlain_concat hp hn
  have hne : p ++ [m] ≠ [] := by simp
  have hne' : p ++ [n] ≠ [] := by simp
  have hlocate := (locate_concat_eq_ok_iff hp hm).2 ⟨rfl, hdir, htakes⟩
  have hlocate' := (locate_concat_eq_ok_iff hp hn).2 ⟨rfl, hdir, htakes'⟩
  have hnode' := h.node?_ne_directory hpn hfile
  refine ⟨FileTree.put { t with nodes := t.nodes.erase (p ++ [m]) } (p ++ [n]) (.file bytes), ?_,
    (h.erase hpm hne).put hpn hne' hfile, rfl⟩
  change change (fun t => t.rename _ _) t = _
  rw [change, rename, hlocate, hlocate']
  dsimp only
  rw [hnode]
  rcases hq : t.node? (p ++ [n]) with _ | _ | _
  · rfl
  · contradiction
  · rfl

/-- A file that can be read can be removed. -/
theorem exists_unlink (h : t.Tidy) (hp : p.IsPlain) (hcontent : disk.content t p = .ok bytes) :
    ∃ t', disk.unlink p t = (.ok (), t') ∧ t'.Tidy ∧ t'.nameLimit = t.nameLimit := by
  change t.read p = _ at hcontent
  obtain hlocate | ⟨e, -, hlocate⟩ := t.locate_eq_or hp
  · rw [read_eq, hlocate, Except.bind] at hcontent
    rcases hnode : t.node? p with _ | _ | file
    · rw [hnode] at hcontent
      cases hcontent
    · rw [hnode] at hcontent
      cases hcontent
    · have hne : p ≠ [] := by
        rintro rfl
        cases hnode
      refine ⟨{ t with nodes := t.nodes.erase p }, ?_, h.erase hp hne, rfl⟩
      change change (fun t => t.unlink p) t = _
      rw [change, unlink, hlocate]
      dsimp only
      rw [hnode]
  · rw [read_eq, hlocate] at hcontent
    cases hcontent

/-- A file can be put in its place if it suits there and beside it. -/
theorem replacing_eq_ok (h : t.Tidy) (hp : p.IsPlain) (hn : isPathPart n = true)
    (hextension : withExtension n "json.tmp" = n ++ ".tmp") (hdir : disk.HasDirectory t p)
    (htakes : t.takesName (n ++ ".tmp") = true)
    (hfile : Suits (p ++ [n]) (.file bytes)) (hbeside : Suits (p ++ [n ++ ".tmp"]) (.file bytes))
    {r : Except ArchiveError Unit}
    (hreplacing : Store.Replacing disk report st (p ++ [n]) bytes t r t') :
    r = .ok () ∧ t'.Tidy ∧ t'.nameLimit = t.nameLimit := by
  have hn' : isPathPart (n ++ ".tmp") = true := isPathPart_append hn (by decide) (by decide)
  obtain ⟨t₁, hwrite, htidy₁, hlimit₁, hnode⟩ := h.exists_write hp hn' hdir htakes hbeside
  obtain ⟨hleaves, -⟩ := isFaithful_disk.write (isPlain_concat hp hn') hwrite
  rw [← takesName_congr hlimit₁] at htakes
  obtain ⟨t₂, hmove, htidy₂, hlimit₂⟩ := htidy₁.exists_rename hp hn' hn
    (hleaves.directory p hp hdir) htakes (takesName_of_append htakes) hnode hfile
  cases hreplacing with
  | notWritten hwrite' =>
    rw [besidePath_concat, hextension, hwrite] at hwrite'
    cases hwrite'
  | notMoved hwrite' hmove' =>
    rw [besidePath_concat, hextension, hwrite] at hwrite'
    obtain rfl := (Prod.mk.inj hwrite').2
    rw [besidePath_concat, hextension, hmove] at hmove'
    cases hmove'
  | done hwrite' hmove' =>
    rw [besidePath_concat, hextension, hwrite] at hwrite'
    obtain rfl := (Prod.mk.inj hwrite').2
    rw [besidePath_concat, hextension, hmove] at hmove'
    obtain rfl := (Prod.mk.inj hmove').2
    exact ⟨rfl, htidy₂, hlimit₂.trans hlimit₁⟩

/-! ### Directories that are made -/

/-- A directory can be made where no file is. -/
theorem exists_makeDirOnce (h : t.Tidy) (hp : p.IsPlain) (hlocate : t.locate p = .ok p)
    (hsuits : Suits p .directory) (hnode : ∀ bytes, t.node? p ≠ some (.file bytes)) :
    ∃ t', t.makeDirOnce p = .ok t' ∧ t'.Tidy ∧ t'.nameLimit = t.nameLimit := by
  rcases hp' : t.node? p with _ | _ | bytes
  · have hne : p ≠ [] := by
      rintro rfl
      cases hp'
    refine ⟨t.put p .directory, ?_, h.put hp hne hsuits, rfl⟩
    rw [makeDirOnce, makeDir, hlocate]
    dsimp only
    rw [hp']
  · refine ⟨t, ?_, h, rfl⟩
    have hdir := (isDirectory_iff hp).2 ((hasDirectory_iff hp).2 ⟨hlocate, hp'⟩)
    rw [makeDirOnce, makeDir, hlocate]
    dsimp only
    rw [hp']
    exact if_pos hdir
  · exact absurd hp' (hnode bytes)

theorem createDirsUp_of_ok {name : String} {up : DiskPath}
    (h : t.makeDirOnce (name :: up).reverse = .ok t') :
    t.createDirsUp (name :: up) = (.ok (), t') := by
  rw [createDirsUp, h]

theorem createDirsUp_of_missing {name : String} {up : DiskPath} {t₁ : FileTree}
    (h : t.makeDirOnce (name :: up).reverse = .error .notFound)
    (hup : t.createDirsUp up = (.ok (), t₁))
    (h' : t₁.makeDirOnce (name :: up).reverse = .ok t') :
    t.createDirsUp (name :: up) = (.ok (), t') := by
  rw [createDirsUp, h]
  dsimp only
  rw [hup]
  dsimp only
  rw [h']

/-- The directories of a document can be made if the first one has no reserved name. -/
theorem exists_createDirs {a b : String} (h : t.Tidy) (ha : isPathPart a = true)
    (hb : isPathPart b = true) (hreserved : a ∉ reservedNames) (htakes : t.takesName a = true)
    (htakes' : t.takesName b = true) :
    ∃ t', disk.createDirs [a, b] t = (.ok (), t') ∧ t'.Tidy ∧ t'.nameLimit = t.nameLimit := by
  have hpa : DiskPath.IsPlain [a] := .cons ha .nil
  have hpab : DiskPath.IsPlain [a, b] := .cons ha (.cons hb .nil)
  have hsuits : Suits [a] .directory := by
    refine ⟨by simp, fun name hname heq => hreserved ?_⟩
    obtain rfl := List.singleton_inj.1 heq
    exact hname
  have hsuits' : Suits [a, b] .directory := ⟨by simp, fun name _ heq => by simp at heq⟩
  have hnode (u : FileTree) (hu : u.Tidy) (bytes : List UInt8) :
      u.node? [a] ≠ some (.file bytes) := fun hfile =>
    not_suits_directory (hu [a] _ hpa hfile) hsuits
  have hnode' (u : FileTree) (hu : u.Tidy) (bytes : List UInt8) :
      u.node? [a, b] ≠ some (.file bytes) := fun hfile =>
    not_suits_directory (hu [a, b] _ hpab hfile) hsuits'
  have hlocate : t.locate [a] = .ok [a] :=
    (locate_concat_eq_ok_iff .nil ha).2 ⟨rfl, hasDirectory_nil t, htakes⟩
  change ∃ t', t.createDirsUp [b, a] = (.ok (), t') ∧ t'.Tidy ∧ t'.nameLimit = t.nameLimit
  rcases hthere : t.node? [a] with _ | _ | bytes
  · -- The first directory is missing, so it is made before the second one.
    have hmissing : t.makeDirOnce [a, b] = .error .notFound := by
      have hlocate' : t.locate [a, b] = .error .notFound := by
        rw [locate_of_isPlain t hpab, resolve_cons_cons t [] ha, if_pos htakes, List.nil_append,
          hthere]
      rw [makeDirOnce, makeDir, hlocate']
      dsimp only
      rw [if_neg]
      rw [isDirectory_iff hpab, hasDirectory_iff hpab, hlocate']
      rintro ⟨⟨⟩, -⟩
    obtain ⟨t₁, hmake₁, htidy₁, hlimit₁⟩ := h.exists_makeDirOnce hpa hlocate hsuits (hnode t h)
    have hdir₁ := (leaves_makeDirOnce hpa hmake₁).2
    have hlocate₁ : t₁.locate ([a] ++ [b]) = .ok ([a] ++ [b]) :=
      (locate_concat_eq_ok_iff hpa hb).2 ⟨rfl, hdir₁, (takesName_congr hlimit₁ b).trans htakes'⟩
    obtain ⟨t₂, hmake₂, htidy₂, hlimit₂⟩ :=
      htidy₁.exists_makeDirOnce hpab hlocate₁ hsuits' (hnode' t₁ htidy₁)
    exact ⟨t₂, createDirsUp_of_missing hmissing (createDirsUp_of_ok hmake₁) hmake₂, htidy₂,
      hlimit₂.trans hlimit₁⟩
  · have hdir : disk.HasDirectory t [a] := (hasDirectory_iff hpa).2 ⟨hlocate, hthere⟩
    have hlocate' : t.locate ([a] ++ [b]) = .ok ([a] ++ [b]) :=
      (locate_concat_eq_ok_iff hpa hb).2 ⟨rfl, hdir, htakes'⟩
    obtain ⟨t₁, hmake₁, htidy₁, hlimit₁⟩ :=
      h.exists_makeDirOnce hpab hlocate' hsuits' (hnode' t h)
    exact ⟨t₁, createDirsUp_of_ok hmake₁, htidy₁, hlimit₁⟩
  · exact absurd hthere (hnode t h bytes)

end Tidy

/-! ### Snapshots -/

/-- The names that belong to a snapshot, and those of the archive, are not too long. -/
def Takes (t : FileTree) (s : Snapshot) : Prop :=
  ∀ name ∈ [s.code, s.taskType, s.operation ++ ".json" ++ ".tmp", "manifest.json.tmp"],
    t.takesName name = true

/-- The manifest can be put in its place. -/
theorem Tidy.manifest_eq_ok (h : t.Tidy) (htakes : t.takesName "manifest.json.tmp" = true)
    {r : Except ArchiveError Unit}
    (hreplacing : Store.Replacing disk .ofManifest st manifestPath bytes t r t') :
    r = .ok () ∧ t'.Tidy ∧ t'.nameLimit = t.nameLimit :=
  h.replacing_eq_ok (p := []) (n := "manifest.json") .nil (by decide) (by decide)
    (hasDirectory_nil t) htakes (.inr ⟨_, by decide, rfl⟩)
    (.inr ⟨"manifest.json.tmp", by decide, rfl⟩) hreplacing

/-- A snapshot can be saved in a tidy tree that takes its names, if it is valid and its code is not
reserved; the tree stays tidy. -/
theorem Tidy.exists_save (h : t.Tidy) {s : Snapshot} (hvalid : s.validate = .ok ())
    (hparts : ∀ part ∈ s.key.parts, isPathPart part = true) (hcode : s.code ∉ reservedNames)
    (htakes : t.Takes s) (st : Store) (now : Instant) :
    ∃ t', Store.save disk now s (st, t) = (.ok s.entry, (st.saved now s, t')) ∧ t'.Tidy ∧
      t'.nameLimit = t.nameLimit := by
  simp only [Takes, List.forall_mem_cons, List.not_mem_nil] at htakes
  obtain ⟨htakesCode, htakesTask, htakesFile, htakesManifest, -⟩ := htakes
  have hparts' := hparts
  simp only [Key.parts, Snapshot.key, List.forall_mem_cons, List.not_mem_nil] at hparts'
  obtain ⟨hpartCode, hpartTask, hpartOperation, -⟩ := hparts'
  have hfile : isPathPart (s.operation ++ ".json") = true :=
    isPathPart_append hpartOperation (by decide) (by decide)
  have hextension := withExtension_json (isPathPart_iff.1 hpartOperation).1
  obtain ⟨t₁, hmake, htidy₁, hlimit₁⟩ :=
    h.exists_createDirs hpartCode hpartTask hcode htakesCode htakesTask
  have hplain : DiskPath.IsPlain [s.code, s.taskType] := .cons hpartCode (.cons hpartTask .nil)
  have hdir := (isFaithful_disk.createDirs hplain hmake).2 rfl
  have hdocument {r : Except ArchiveError Unit} {t₂ : FileTree}
      (hreplacing :
        Store.Replacing disk .disk st s.key.documentPath (Sha256.textBytes s.pretty) t₁ r t₂) :
      r = .ok () ∧ t₂.Tidy ∧ t₂.nameLimit = t₁.nameLimit :=
    htidy₁.replacing_eq_ok (p := [s.code, s.taskType]) (n := s.operation ++ ".json") hplain hfile
      hextension hdir ((takesName_congr hlimit₁ _).trans htakesFile) (.inl rfl) (.inl rfl)
      hreplacing
  obtain ⟨r, st', t', hsave, hend⟩ := Store.saving_of_save disk st now s t
  rw [hsave]
  cases hend with
  | invalid hinvalid =>
    rw [hvalid] at hinvalid
    cases hinvalid
  | unnamed hpath =>
    rw [Key.documentPath?_eq_ok_iff.2 ⟨hparts, rfl⟩] at hpath
    cases hpath
  | noDirectory _ hmake' =>
    obtain ⟨hr, -⟩ := Prod.mk.inj (hmake'.symm.trans hmake)
    cases hr
  | noDocument _ hmake' hreplacing =>
    obtain ⟨-, rfl⟩ := Prod.mk.inj (hmake'.symm.trans hmake)
    cases (hdocument hreplacing).1
  | listed _ _ hmake' hreplacing hmanifest =>
    obtain ⟨-, rfl⟩ := Prod.mk.inj (hmake'.symm.trans hmake)
    obtain ⟨-, htidy₂, hlimit₂⟩ := hdocument hreplacing
    obtain ⟨rfl, htidy', hlimit'⟩ := htidy₂.manifest_eq_ok
      ((takesName_congr (hlimit₂.trans hlimit₁) _).trans htakesManifest) hmanifest
    exact ⟨t', rfl, htidy', hlimit'.trans (hlimit₂.trans hlimit₁)⟩

/-- No file can be put where there is a directory, nor where one is beside. -/
theorem not_replacing_ok (hp : p.IsPlain)
    (hdir : disk.HasDirectory t p ∨ disk.HasDirectory t (besidePath p)) :
    ¬ Store.Replacing disk report st p bytes t (.ok ()) t' := by
  intro h
  cases h with
  | done hwrite hmove =>
    have hdir₁ := (isFaithful_disk.write hp.beside hwrite).1.directory p hp
    rcases hdir with hdir | hdir
    · obtain ⟨_, -, -, -, -, hnode⟩ := eq_put_of_rename_eq_ok hp.beside hp
        (change_eq_ok (f := fun t => t.rename _ _) hmove)
      exact hnode ((hasDirectory_iff hp).1 (hdir₁ hdir)).2
    · obtain ⟨-, -, hnode⟩ := eq_put_of_write_eq_ok hp.beside
        (change_eq_ok (f := fun t => t.write _ _) hwrite)
      exact hnode ((hasDirectory_iff hp.beside).1 hdir).2

/-- A snapshot with a reserved code is never saved. -/
theorem save_ne_ok_of_reserved {s : Snapshot} (hcode : s.code ∈ reservedNames) (st : Store)
    (now : Instant) (t : FileTree) (e : ManifestEntry) :
    (Store.save disk now s (st, t)).1 ≠ .ok e := by
  obtain ⟨r, st', t', hsave, hend⟩ := Store.saving_of_save disk st now s t
  rw [hsave]
  rintro rfl
  generalize hr : (Except.ok e : Except ArchiveError ManifestEntry) = r at hend
  cases hend with
  | invalid | unnamed | noDirectory | noDocument => cases hr
  | @listed r _ t₂ _ _ hparts hmake hdocument hmanifest =>
    cases r with
    | error e => cases hr
    | ok =>
      have hdir := (Store.leaves_of_document isFaithful_disk hparts hmake hdocument).2.1
      simp only [Key.parts, Snapshot.key, List.forall_mem_cons, List.not_mem_nil] at hparts
      -- The directory of the provider is where the manifest has to go.
      have hcodeDir : disk.HasDirectory t₂ [s.code] :=
        ((hasDirectory_concat_iff (p := [s.code]) (.cons hparts.1 .nil) hparts.2.1).1 hdir).1
      refine not_replacing_ok isPlain_manifestPath ?_ hmanifest
      rcases List.mem_cons.1 hcode with hname | hname
      · rw [hname] at hcodeDir
        exact .inl hcodeDir
      · rw [List.mem_singleton.1 hname] at hcodeDir
        exact .inr hcodeDir

end FileTree

end BiblioQuery
