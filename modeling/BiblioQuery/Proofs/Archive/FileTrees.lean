import BiblioQuery.Proofs.Archive.FaithfulDisks
import Mathlib.Data.List.Induction

/-!
# File trees are faithful

A path of plain names leads to itself, or nowhere, and what is read at it depends on what is read at
the directory above it and on what there is at the path.  So a change of what there is at one path
shows there, and nowhere else that stands in a directory.

## Main definitions

* `FileTree.contentOf` : what is read of what there is at a path.

## Main results

* `FileTree.locate_eq_or`, `FileTree.locate_concat_eq_ok_iff` : where paths lead.
* `FileTree.content_concat` : what is read right inside a directory.
* `FileTree.leaves_of_nodes` : what a change of what there is leaves alone.
* `FileTree.isFaithful_disk` : a file tree is a faithful disk.
-/

namespace BiblioQuery

namespace FileTree

variable {t t' : FileTree} {p q : DiskPath} {n : String}

/-- What is read of what there is at a path. -/
def contentOf : Option DiskNode → Except DiskError (List UInt8)
  | none => .error .notFound
  | some .directory => .error .isDirectory
  | some (.file bytes) => .ok bytes

@[simp]
theorem node?_nil (t : FileTree) : t.node? [] = some .directory := rfl

theorem hasDirectory_nil (t : FileTree) : disk.HasDirectory t [] := rfl

theorem read_eq (t : FileTree) (p : DiskPath) :
    t.read p = (t.locate p).bind fun q => contentOf (t.node? q) := by
  rw [read, find]
  rcases t.locate p with e | q
  · rfl
  · rw [Except.map, Except.bind]
    rcases t.node? q with _ | _ | _ <;> rfl

theorem isPathPart_ne (h : isPathPart n = true) : n ≠ "." ∧ n ≠ ".." :=
  ⟨(isPathPart_iff.1 h).2.1, (isPathPart_iff.1 h).2.2.1⟩

theorem locate_of_isPlain (t : FileTree) (h : p.IsPlain) : t.locate p = t.resolve [] p := by
  rw [locate, if_neg]
  simp only [List.any_eq_true, List.contains_iff_mem, not_exists, not_and]
  intro name hname hzero
  exact ((isPathPart_iff.1 (h name hname)).2.2.2 _ hzero).2.2 rfl

theorem resolve_singleton (t : FileTree) (directory : DiskPath) (hn : isPathPart n = true) :
    t.resolve directory [n] =
      if t.takesName n then .ok (directory ++ [n]) else .error .nameTooLong := by
  obtain ⟨hdot, hdots⟩ := isPathPart_ne hn
  rw [resolve, if_neg hdot, if_neg hdots]

theorem resolve_cons_cons (t : FileTree) (directory : DiskPath) (hn : isPathPart n = true)
    (next : String) (rest : DiskPath) :
    t.resolve directory (n :: next :: rest) =
      if t.takesName n then
        match t.node? (directory ++ [n]) with
        | none => .error .notFound
        | some (.file _) => .error .notDirectory
        | some .directory => t.resolve (directory ++ [n]) (next :: rest)
      else .error .nameTooLong := by
  obtain ⟨hdot, hdots⟩ := isPathPart_ne hn
  rcases hnode : t.node? (directory ++ [n]) with _ | _ | bytes
  · rw [resolve.eq_3 _ _ _ _ _ hnode, if_neg hdot, if_neg hdots]
  · rw [resolve.eq_5 _ _ _ _ _ hnode, if_neg hdot, if_neg hdots]
  · rw [resolve.eq_4 _ _ _ _ _ _ hnode, if_neg hdot, if_neg hdots]

theorem resolve_concat (t : FileTree) (hp : p.IsPlain) (hn : isPathPart n = true)
    {directory : DiskPath} (hdir : t.node? directory = some .directory) :
    t.resolve directory (p ++ [n]) = (t.resolve directory p).bind fun q =>
      match t.node? q with
      | none => .error .notFound
      | some (.file _) => .error .notDirectory
      | some .directory => if t.takesName n then .ok (q ++ [n]) else .error .nameTooLong := by
  induction p generalizing directory with
  | nil => rw [List.nil_append, resolve_singleton t directory hn, resolve, Except.bind, hdir]
  | cons name rest ih =>
    obtain ⟨hname, hrest⟩ := List.forall_mem_cons.1 hp
    -- The path goes on behind the first name in any case, so what is there decides.
    have hleft : t.resolve directory (name :: rest ++ [n]) =
        if t.takesName name then
          match t.node? (directory ++ [name]) with
          | none => .error .notFound
          | some (.file _) => .error .notDirectory
          | some .directory => t.resolve (directory ++ [name]) (rest ++ [n])
        else .error .nameTooLong := by
      cases rest with
      | nil => exact resolve_cons_cons t directory hname n []
      | cons next rest => exact resolve_cons_cons t directory hname next (rest ++ [n])
    rw [hleft]
    by_cases htakes : t.takesName name = true
    · rw [if_pos htakes]
      rcases hnode : t.node? (directory ++ [name]) with _ | _ | bytes
      · cases rest with
        | nil => simp [resolve_singleton t directory hname, htakes, Except.bind, hnode]
        | cons next rest => simp [resolve_cons_cons t directory hname, htakes, Except.bind, hnode]
      · dsimp only
        rw [ih hrest hnode]
        cases rest with
        | nil => rw [resolve_singleton t directory hname, if_pos htakes, resolve]
        | cons next rest => rw [resolve_cons_cons t directory hname, if_pos htakes, hnode]
      · cases rest with
        | nil => simp [resolve_singleton t directory hname, htakes, Except.bind, hnode]
        | cons next rest => simp [resolve_cons_cons t directory hname, htakes, Except.bind, hnode]
    · rw [if_neg htakes]
      cases rest with
      | nil => rw [resolve_singleton t directory hname, if_neg htakes, Except.bind]
      | cons next rest => rw [resolve_cons_cons t directory hname, if_neg htakes, Except.bind]

/-- A plain path leads to itself, if it leads anywhere. -/
theorem locate_eq_or (t : FileTree) (hp : p.IsPlain) :
    t.locate p = .ok p ∨ ∃ e, e ≠ .isDirectory ∧ t.locate p = .error e := by
  rw [locate_of_isPlain t hp]
  induction p using List.reverseRecOn with
  | nil => exact .inl rfl
  | append_singleton p n ih =>
    obtain ⟨hp, hn⟩ := List.forall_mem_append.1 hp
    rw [resolve_concat t hp (hn n List.mem_cons_self) (node?_nil t)]
    obtain h | ⟨e, he, h⟩ := ih hp
    · rw [h]
      dsimp only [Except.bind]
      split
      · exact .inr ⟨.notFound, by decide, rfl⟩
      · exact .inr ⟨.notDirectory, by decide, rfl⟩
      · split
        · exact .inl rfl
        · exact .inr ⟨.nameTooLong, by decide, rfl⟩
    · rw [h]
      exact .inr ⟨e, he, rfl⟩

/-- There is a directory at a path that leads to one. -/
theorem hasDirectory_iff (hp : p.IsPlain) :
    disk.HasDirectory t p ↔ t.locate p = .ok p ∧ t.node? p = some .directory := by
  change t.read p = _ ↔ _
  rw [read_eq]
  obtain h | ⟨e, he, h⟩ := t.locate_eq_or hp
  · rw [h]
    rcases hnode : t.node? p with _ | _ | bytes <;> simp [Except.bind, contentOf, hnode]
  · rw [h]
    simp [Except.bind, he]

/-- A path leads to where it says if it goes through directories and its last name is not too long.
-/
theorem locate_concat_eq_ok_iff (hp : p.IsPlain) (hn : isPathPart n = true) :
    t.locate (p ++ [n]) = .ok q ↔
      q = p ++ [n] ∧ disk.HasDirectory t p ∧ t.takesName n = true := by
  have hpn : DiskPath.IsPlain (p ++ [n]) :=
    List.forall_mem_append.2 ⟨hp, List.forall_mem_singleton.2 hn⟩
  rw [hasDirectory_iff hp, locate_of_isPlain t hpn, resolve_concat t hp hn (node?_nil t),
    ← locate_of_isPlain t hp]
  obtain h | ⟨e, he, h⟩ := t.locate_eq_or hp
  · rw [h]
    rcases hnode : t.node? p with _ | _ | bytes
    · simp [Except.bind, hnode]
    · by_cases htakes : t.takesName n = true <;> simp [Except.bind, hnode, htakes, eq_comm]
    · simp [Except.bind, hnode]
  · rw [h]
    simp [Except.bind]

theorem content_concat (hp : p.IsPlain) (hn : isPathPart n = true) (hdir : disk.HasDirectory t p) :
    disk.content t (p ++ [n]) =
      if t.takesName n then contentOf (t.node? (p ++ [n])) else .error .nameTooLong := by
  have hpn : DiskPath.IsPlain (p ++ [n]) :=
    List.forall_mem_append.2 ⟨hp, List.forall_mem_singleton.2 hn⟩
  obtain ⟨hlocate, hnode⟩ := (hasDirectory_iff hp).1 hdir
  change t.read (p ++ [n]) = _
  rw [read_eq, locate_of_isPlain t hpn, resolve_concat t hp hn (node?_nil t),
    ← locate_of_isPlain t hp, hlocate]
  by_cases htakes : t.takesName n = true <;> simp [Except.bind, hnode, htakes]

/-! ### Trees with something else at a path -/

theorem all_dots_eq_false (hp : p.IsPlain) (hne : p ≠ []) : (p.all fun s => s = "..") = false := by
  obtain ⟨name, rest, rfl⟩ := List.exists_cons_of_ne_nil hne
  have hname := (isPathPart_ne (hp name List.mem_cons_self)).2
  simp [hname]

theorem node?_put (hp : p.IsPlain) (hne : p ≠ []) (x : DiskNode) (q : DiskPath) :
    (t.put p x).node? q = if q = p then some x else t.node? q := by
  have hdots := all_dots_eq_false hp hne
  rw [node?, node?, put, SortedMap.get?_insert]
  by_cases hq : q = p
  · subst hq
    simp [hdots]
  · simp [hq, Ne.symm hq]

theorem node?_erase (hp : p.IsPlain) (hne : p ≠ []) (q : DiskPath) :
    FileTree.node? { t with nodes := t.nodes.erase p } q = if q = p then none else t.node? q := by
  have hdots := all_dots_eq_false hp hne
  rw [node?, node?, SortedMap.get?_erase]
  by_cases hq : q = p
  · subst hq
    simp [hdots]
  · simp [hq, Ne.symm hq]

theorem hasDirectory_concat_iff (hp : p.IsPlain) (hn : isPathPart n = true) :
    disk.HasDirectory t (p ++ [n]) ↔
      disk.HasDirectory t p ∧ t.takesName n = true ∧ t.node? (p ++ [n]) = some .directory := by
  have hpn : DiskPath.IsPlain (p ++ [n]) :=
    List.forall_mem_append.2 ⟨hp, List.forall_mem_singleton.2 hn⟩
  rw [hasDirectory_iff hpn, locate_concat_eq_ok_iff hp hn, eq_self, true_and, and_assoc]

theorem leaves_of_nodes {P : DiskPath → Prop} (hlimit : t'.nameLimit = t.nameLimit)
    (hdirectory : ∀ q : DiskPath, t.node? q = some .directory → t'.node? q = some .directory)
    (helsewhere : ∀ q : DiskPath, q.IsPlain → disk.HasDirectory t q.dropLast → ¬ P q →
      t'.node? q = t.node? q) : disk.Leaves t t' P := by
  have htakes (n : String) : t'.takesName n = t.takesName n := by
    rw [takesName, takesName, hlimit]
  have hstays : ∀ q : DiskPath, q.IsPlain → disk.HasDirectory t q → disk.HasDirectory t' q := by
    intro q hq hdir
    induction q using List.reverseRecOn with
    | nil => exact hasDirectory_nil t'
    | append_singleton q n ih =>
      obtain ⟨hq, hn⟩ := List.forall_mem_append.1 hq
      have hn := hn n List.mem_cons_self
      obtain ⟨habove, hname, hnode⟩ := (hasDirectory_concat_iff hq hn).1 hdir
      exact (hasDirectory_concat_iff hq hn).2
        ⟨ih hq habove, htakes n ▸ hname, hdirectory _ hnode⟩
  refine ⟨hstays, fun q hq hdir htouched => ?_⟩
  have hnode := helsewhere q hq hdir htouched
  cases q using List.reverseRecOn with
  | nil => rfl
  | append_singleton q n =>
    rw [List.dropLast_concat] at hdir
    obtain ⟨hq, hn⟩ := List.forall_mem_append.1 hq
    have hn := hn n List.mem_cons_self
    rw [content_concat hq hn hdir, content_concat hq hn (hstays q hq hdir), htakes, hnode]

/-- What there is at a path that leads somewhere is read there, in another tree as well. -/
theorem content_of_locate {P : DiskPath → Prop} (hp : p.IsPlain) (hlocate : t.locate p = .ok p)
    (h : disk.Leaves t t' P) (hlimit : t'.nameLimit = t.nameLimit) :
    disk.content t' p = contentOf (t'.node? p) := by
  cases p using List.reverseRecOn with
  | nil => rfl
  | append_singleton p n =>
    obtain ⟨hp, hn⟩ := List.forall_mem_append.1 hp
    have hn := hn n List.mem_cons_self
    obtain ⟨-, hdir, htakes⟩ := (locate_concat_eq_ok_iff hp hn).1 hlocate
    have htakes' : t'.takesName n = true := by rwa [takesName, hlimit]
    rw [content_concat hp hn (h.directory p hp hdir), if_pos htakes']

/-! ### Operations -/

theorem change_eq_ok {f : FileTree → Except DiskError FileTree}
    (h : change f t = (.ok (), t')) : f t = .ok t' := by
  rw [change] at h
  cases hf : f t with
  | error e =>
    rw [hf] at h
    cases h
  | ok t₁ =>
    rw [hf] at h
    rw [(Prod.mk.inj h).2]

theorem eq_put_of_write_eq_ok {bytes : List UInt8} (hp : p.IsPlain)
    (h : t.write p bytes = .ok t') :
    t' = t.put p (.file bytes) ∧ t.locate p = .ok p ∧ t.node? p ≠ some .directory := by
  rw [write] at h
  obtain hlocate | ⟨e, -, hlocate⟩ := t.locate_eq_or hp
  · simp only [hlocate] at h
    split at h
    · cases h
    · rename_i hnode
      exact ⟨(Except.ok.inj h).symm, hlocate, hnode⟩
  · simp only [hlocate] at h
    cases h

theorem eq_erase_of_unlink_eq_ok (hp : p.IsPlain) (h : t.unlink p = .ok t') :
    t' = { t with nodes := t.nodes.erase p } ∧ ∃ bytes, t.node? p = some (.file bytes) := by
  rw [unlink] at h
  obtain hlocate | ⟨e, -, hlocate⟩ := t.locate_eq_or hp
  · simp only [hlocate] at h
    split at h
    · cases h
    · cases h
    · rename_i bytes hnode
      exact ⟨(Except.ok.inj h).symm, bytes, hnode⟩
  · simp only [hlocate] at h
    cases h

theorem eq_put_of_rename_eq_ok (hp : p.IsPlain) (hq : q.IsPlain) (h : t.rename p q = .ok t') :
    ∃ bytes, t' = put { t with nodes := t.nodes.erase p } q (.file bytes) ∧
      t.locate p = .ok p ∧ t.locate q = .ok q ∧ t.node? p = some (.file bytes) ∧
      t.node? q ≠ some .directory := by
  rw [rename] at h
  obtain hlocate | ⟨e, -, hlocate⟩ := t.locate_eq_or hp
  · obtain hlocate' | ⟨e, -, hlocate'⟩ := t.locate_eq_or hq
    · simp only [hlocate, hlocate'] at h
      split at h
      · cases h
      · cases h
      · cases h
      · rename_i bytes hnode hnode'
        exact ⟨bytes, (Except.ok.inj h).symm, hlocate, hlocate', hnode, hnode'⟩
    · simp only [hlocate, hlocate'] at h
      cases h
  · simp only [hlocate] at h
    cases h

theorem leaves_write (t : FileTree) (hp : p.IsPlain) (bytes : List UInt8) :
    disk.Leaves t (disk.write p bytes t).2 (fun q => q = p) ∧
      ((disk.write p bytes t).1 = .ok () →
        disk.content (disk.write p bytes t).2 p = .ok bytes) := by
  change disk.Leaves t (change (fun t => t.write p bytes) t).2 _ ∧
    ((change (fun t => t.write p bytes) t).1 = .ok () →
      disk.content (change (fun t => t.write p bytes) t).2 p = .ok bytes)
  rw [change]
  cases h : t.write p bytes with
  | error e => exact ⟨.refl disk t _, nofun⟩
  | ok t' =>
    obtain ⟨rfl, hlocate, hnode⟩ := eq_put_of_write_eq_ok hp h
    have hne : p ≠ [] := by
      rintro rfl
      exact hnode rfl
    have hleaves : disk.Leaves t (t.put p (.file bytes)) (fun q => q = p) := by
      refine leaves_of_nodes rfl (fun q hq => ?_) fun q _ _ hqp => ?_
      · rw [node?_put hp hne, if_neg, hq]
        rintro rfl
        exact hnode hq
      · rw [node?_put hp hne, if_neg hqp]
    refine ⟨hleaves, fun _ => ?_⟩
    change disk.content (t.put p (.file bytes)) p = _
    rw [content_of_locate hp hlocate hleaves rfl, node?_put hp hne, if_pos rfl, contentOf]

theorem leaves_rename (t : FileTree) (hp : p.IsPlain) (hq : q.IsPlain) :
    disk.Leaves t (disk.rename p q t).2
        (fun r => (disk.rename p q t).1 = .ok () ∧ (r = p ∨ r = q)) ∧
      ((disk.rename p q t).1 = .ok () →
        disk.content (disk.rename p q t).2 q = disk.content t p) := by
  have hrename : disk.rename p q t = change (fun t => t.rename p q) t := rfl
  rw [hrename, change]
  cases h : t.rename p q with
  | error e => exact ⟨.refl disk t _, nofun⟩
  | ok t' =>
    obtain ⟨bytes, rfl, hlocate, hlocate', hnode, hnode'⟩ := eq_put_of_rename_eq_ok hp hq h
    have hne : p ≠ [] := by
      rintro rfl
      cases hnode
    have hne' : q ≠ [] := by
      rintro rfl
      exact hnode' rfl
    have hleaves : disk.Leaves t (put { t with nodes := t.nodes.erase p } q (.file bytes))
        (fun r => r = p ∨ r = q) := by
      refine leaves_of_nodes rfl (fun r hr => ?_) fun r _ _ htouched => ?_
      · have hrq : r ≠ q := by
          rintro rfl
          exact hnode' hr
        have hrp : r ≠ p := by
          rintro rfl
          rw [hnode] at hr
          cases hr
        rw [node?_put hq hne', if_neg hrq, node?_erase hp hne, if_neg hrp, hr]
      · obtain ⟨hrp, hrq⟩ := not_or.1 htouched
        rw [node?_put hq hne', if_neg hrq, node?_erase hp hne, if_neg hrp]
    refine ⟨hleaves.mono fun r _ hr => ⟨rfl, hr⟩, fun _ => ?_⟩
    change disk.content (put { t with nodes := t.nodes.erase p } q (.file bytes)) q = _
    rw [content_of_locate hq hlocate' hleaves rfl, node?_put hq hne', if_pos rfl,
      content_of_locate hp hlocate (.refl disk t fun _ => False) rfl, hnode]

theorem leaves_unlink (t : FileTree) (hp : p.IsPlain) :
    disk.Leaves t (disk.unlink p t).2 fun q => (disk.unlink p t).1 = .ok () ∧ q = p := by
  have hunlink : disk.unlink p t = change (fun t => t.unlink p) t := rfl
  rw [hunlink, change]
  cases h : t.unlink p with
  | error e => exact .refl disk t _
  | ok t' =>
    obtain ⟨rfl, bytes, hnode⟩ := eq_erase_of_unlink_eq_ok hp h
    have hne : p ≠ [] := by
      rintro rfl
      cases hnode
    refine leaves_of_nodes rfl (fun q hq => ?_) fun q _ _ htouched => ?_
    · rw [node?_erase hp hne, if_neg, hq]
      rintro rfl
      rw [hnode] at hq
      cases hq
    · rw [node?_erase hp hne, if_neg fun hqp => htouched ⟨rfl, hqp⟩]

/-! ### Directories -/

theorem eq_put_of_makeDir_eq_ok (hp : p.IsPlain) (h : t.makeDir p = .ok t') :
    t' = t.put p .directory ∧ t.locate p = .ok p ∧ t.node? p = none := by
  rw [makeDir] at h
  obtain hlocate | ⟨e, -, hlocate⟩ := t.locate_eq_or hp
  · simp only [hlocate] at h
    split at h
    · cases h
    · rename_i hnode
      exact ⟨(Except.ok.inj h).symm, hlocate, hnode⟩
  · simp only [hlocate] at h
    cases h

theorem isDirectory_iff (hp : p.IsPlain) : t.isDirectory p = true ↔ disk.HasDirectory t p := by
  rw [hasDirectory_iff hp, isDirectory, find]
  obtain hlocate | ⟨e, -, hlocate⟩ := t.locate_eq_or hp
  · rw [hlocate]
    rcases hnode : t.node? p with _ | _ | bytes <;> simp [Except.map, hnode]
  · rw [hlocate]
    simp [Except.map]

theorem leaves_makeDirOnce (hp : p.IsPlain) (h : t.makeDirOnce p = .ok t') :
    disk.Leaves t t'
        (fun q => q = p ∧ disk.content t q = .error .notFound ∧ disk.HasDirectory t' q) ∧
      disk.HasDirectory t' p := by
  rw [makeDirOnce] at h
  cases hmake : t.makeDir p with
  | error e =>
    simp only [hmake] at h
    split at h
    · rename_i hdir
      obtain rfl := Except.ok.inj h
      exact ⟨.refl disk t _, (isDirectory_iff hp).1 hdir⟩
    · cases h
  | ok t₁ =>
    simp only [hmake] at h
    obtain rfl := Except.ok.inj h
    obtain ⟨rfl, hlocate, hnode⟩ := eq_put_of_makeDir_eq_ok hp hmake
    have hne : p ≠ [] := by
      rintro rfl
      cases hnode
    have hmissing : disk.content t p = .error .notFound := by
      rw [content_of_locate hp hlocate (.refl disk t fun _ => False) rfl, hnode, contentOf]
    have hleaves : disk.Leaves t (t.put p .directory) (fun q => q = p) := by
      refine leaves_of_nodes rfl (fun q hq => ?_) fun q _ _ hqp => ?_
      · rw [node?_put hp hne]
        split
        · rfl
        · exact hq
      · rw [node?_put hp hne, if_neg hqp]
    have hdir : disk.HasDirectory (t.put p .directory) p := by
      rw [Disk.HasDirectory, content_of_locate hp hlocate hleaves rfl, node?_put hp hne,
        if_pos rfl, contentOf]
    refine ⟨hleaves.mono fun q _ hq => ?_, hdir⟩
    subst hq
    exact ⟨rfl, hmissing, hdir⟩

theorem leaves_createDirsUp (t : FileTree) {up : DiskPath} (hup : DiskPath.IsPlain up.reverse) :
    disk.Leaves t (t.createDirsUp up).2
        (fun q => q <+: up.reverse ∧ disk.content t q = .error .notFound ∧
          disk.HasDirectory (t.createDirsUp up).2 q) ∧
      ((t.createDirsUp up).1 = .ok () → disk.HasDirectory (t.createDirsUp up).2 up.reverse) := by
  induction up with
  | nil => exact ⟨.refl disk t _, fun _ => hasDirectory_nil t⟩
  | cons name up ih =>
    have hway : up.reverse <+: (name :: up).reverse := by
      rw [List.reverse_cons]
      exact List.prefix_append _ _
    obtain ⟨hup', -⟩ := ih fun s hs => hup s (hway.subset hs)
    have habove : disk.Leaves t (t.createDirsUp up).2
        (fun q => q <+: (name :: up).reverse ∧ disk.content t q = .error .notFound ∧
          disk.HasDirectory (t.createDirsUp up).2 q) :=
      hup'.mono fun q _ hq => ⟨hq.1.trans hway, hq.2⟩
    rw [createDirsUp]
    cases hmake : t.makeDirOnce (name :: up).reverse with
    | ok t' =>
      obtain ⟨hleaves, hdir⟩ := leaves_makeDirOnce hup hmake
      exact ⟨hleaves.mono fun q _ hq => ⟨hq.1 ▸ List.prefix_rfl, hq.2.1, hq.2.2⟩, fun _ => hdir⟩
    | error e =>
      cases e with
      | alreadyExists | notDirectory | isDirectory | nameTooLong | zeroByte | brokenOff | other =>
        exact ⟨.refl disk t _, nofun⟩
      | notFound =>
        dsimp only
        rcases hmakeUp : t.createDirsUp up with ⟨_ | _, t₁⟩
        · rw [hmakeUp] at habove
          exact ⟨habove, nofun⟩
        rw [hmakeUp] at habove
        dsimp only
        cases hmake' : t₁.makeDirOnce (name :: up).reverse with
        | error e => exact ⟨habove, nofun⟩
        | ok t₂ =>
          obtain ⟨hleaves, hdir⟩ := leaves_makeDirOnce hup hmake'
          refine ⟨⟨fun q hq hd => hleaves.directory q hq (habove.directory q hq hd),
            fun q hq hd htouched => ?_⟩, fun _ => hdir⟩
          -- What was not made on the way was missing from the start if it is made at the end.
          have hsame : disk.content t₁ q = disk.content t q := by
            refine habove.elsewhere q hq hd fun h => htouched ⟨h.1, h.2.1, ?_⟩
            exact hleaves.directory q hq h.2.2
          refine (hleaves.elsewhere q hq (habove.directory _ hq.dropLast hd) ?_).trans hsame
          rintro ⟨rfl, hmissing, hmade⟩
          exact htouched ⟨List.prefix_rfl, hsame.symm.trans hmissing, hmade⟩

/-- A file tree is faithful. -/
theorem isFaithful_disk : disk.IsFaithful where
  read _ _ := rfl
  isPresent {p} t hp := by
    change FileTree.isPresent p t = true ↔
      (∃ bytes, t.read p = .ok bytes) ∨ t.read p = .error .isDirectory
    rw [FileTree.isPresent, read, find]
    obtain hlocate | ⟨e, he, hlocate⟩ := t.locate_eq_or hp
    · rw [hlocate]
      rcases hnode : t.node? p with _ | _ | bytes <;> simp [Except.map, hnode]
    · rw [hlocate]
      simp [Except.map, he]
  createDirs {p t r t'} hp hmake := by
    have hup : DiskPath.IsPlain p.reverse.reverse := by rwa [List.reverse_reverse]
    have h := leaves_createDirsUp t hup
    have hmake : t.createDirsUp p.reverse = (r, t') := hmake
    rwa [hmake, List.reverse_reverse] at h
  write {p bytes t r t'} hp hwrite := by
    have h := leaves_write t hp bytes
    rwa [hwrite] at h
  rename {p q t r t'} hp hq hrename := by
    have h := leaves_rename t hp hq
    rwa [hrename] at h
  unlink {p t r t'} hp hunlink := by
    have h := leaves_unlink t hp
    rwa [hunlink] at h

end FileTree

end BiblioQuery
