import BiblioQuery.Proofs.Archive.FileTrees

/-!
# Places of documents

The document of a key is three names below the root: the parts of the key, which are checked, and
the extension behind the last one, which cannot turn it into a name that leads elsewhere.  The text
of the path is taken apart into the same three names, and no file tree leads the path to another
place.  A document is written first to a file with another extension beside it.  As the name of an
operation is not empty, its extension is the one that was put behind it, whatever dots and
extensions the operation itself has, and so all these places are different.

## Main definitions

* `DiskPath.StaysInside` : a path has three names and stays inside the root.

## Main results

* `Store.pathFor_eq_ok` : the file of a document is below the root.
* `Key.besidePath_inj` : documents that are written first to one file are of one key.
* `Key.documents_inside_and_apart` : documents, and the files that they are written to first, are
  inside the root and do not clash.
-/

namespace BiblioQuery

variable {k l : Key} {p q : DiskPath}

/-- The text of a plain path does not start at the root of all files. -/
theorem startsWith_fileText (h : p.IsPlain) (hp : p ≠ []) :
    (fileText p).startsWith "/" = false := by
  refine Bool.eq_false_iff.2 fun hstarts => ?_
  obtain ⟨rest, hrest⟩ := String.startsWith_string_iff.1 hstarts
  have hhead : (fileText p).toList.head? = some '/' := by
    rw [← hrest]
    rfl
  have hpath := pathOfText_fileText h hp
  -- Such a text would lead out of the root first.
  simp only [pathOfText, if_pos hhead] at hpath
  have houtside : isPathPart ".." = true := h ".." (hpath ▸ List.mem_cons_self)
  exact absurd houtside (by decide)

namespace Key

theorem operation_ne_empty (h : ∀ s ∈ k.parts, isPathPart s = true) : k.operation ≠ "" := by
  have hoperation : isPathPart k.operation = true := h _ (by simp [parts])
  exact (isPathPart_iff.1 hoperation).1

/-- Documents that are written first to one file are of one key. -/
theorem besidePath_inj (hk : k.operation ≠ "") (hl : l.operation ≠ "")
    (h : besidePath k.documentPath = besidePath l.documentPath) : k = l := by
  rw [besidePath_documentPath hk, besidePath_documentPath hl] at h
  simp only [List.cons.injEq, and_true] at h
  obtain ⟨hprovenance, htaskType, hname⟩ := h
  have hchars := congrArg String.toList hname
  rw [String.toList_append, String.toList_append (s := l.operation ++ ".json")] at hchars
  refine documentPath_inj ?_
  rw [documentPath, documentPath, hprovenance, htaskType,
    String.toList_inj.1 (List.append_cancel_right hchars)]

end Key

/-- The file of a document is below the root. -/
theorem Store.pathFor_eq_ok (h : k.documentPath? = .ok p) (st : Store) :
    st.pathFor k = .ok (st.root ++ "/" ++ fileText p) := by
  obtain ⟨hparts, rfl⟩ := Key.documentPath?_eq_ok_iff.1 h
  have hstarts := startsWith_fileText (Key.isPlain_documentPath hparts) (List.cons_ne_nil _ _)
  rw [pathFor, h]
  dsimp only
  rw [pathText, hstarts, if_neg Bool.false_ne_true]

/-! ### Paths that stay inside the root -/

/-- The path has three names and stays inside the root. -/
structure DiskPath.StaysInside (p : DiskPath) : Prop where
  /-- There are three names. -/
  length : p.length = 3
  /-- No name is empty, leads elsewhere or has a slash in it. -/
  normal : ∀ name ∈ p, name ≠ "" ∧ name ≠ "." ∧ name ≠ ".." ∧
    ∀ c ∈ name.toList, c ≠ '/' ∧ c ≠ '\\'
  /-- The names are those of the text of the path, which does not lead out of the root. -/
  text : pathOfText (fileText p) = p
  /-- In every file tree the path leads where its names say. -/
  leads : ∀ (t : FileTree) (q : DiskPath), t.locate p = .ok q → q = p

/-- A plain path of three names stays inside the root. -/
theorem DiskPath.IsPlain.staysInside (h : p.IsPlain) (hlength : p.length = 3) : p.StaysInside where
  length := hlength
  normal name hname := by
    obtain ⟨hempty, hdot, hdots, hchars⟩ := isPathPart_iff.1 (h name hname)
    exact ⟨hempty, hdot, hdots, fun c hc => ⟨(hchars c hc).1, (hchars c hc).2.1⟩⟩
  text := pathOfText_fileText h (List.ne_nil_of_length_eq_add_one hlength)
  leads t q hq := by
    obtain hlocate | ⟨e, -, hlocate⟩ := t.locate_eq_or h
    · exact (Except.ok.inj (hlocate.symm.trans hq)).symm
    · cases hlocate.symm.trans hq

/-- Documents, and the files that they are written to first, stay inside the root and do not clash.
The document of a key is below the root directory of any archive.  Different keys have different
documents, no document is where any document is written first, and those of different keys are
written first to different files. -/
theorem Key.documents_inside_and_apart :
    (∀ (k : Key) (p : DiskPath), k.documentPath? = .ok p →
      p.StaysInside ∧ (besidePath p).StaysInside ∧
        ∀ st : Store, st.pathFor k = .ok (st.root ++ "/" ++ fileText p)) ∧
    ∀ (k l : Key) (p q : DiskPath), k.documentPath? = .ok p → l.documentPath? = .ok q →
      (k ≠ l → p ≠ q) ∧ besidePath p ≠ q ∧ (k ≠ l → besidePath p ≠ besidePath q) := by
  refine ⟨fun k p h => ?_, fun k l p q hp hq => ?_⟩
  · obtain ⟨hparts, rfl⟩ := documentPath?_eq_ok_iff.1 h
    have hplain := isPlain_documentPath hparts
    have hlength : (besidePath k.documentPath).length = 3 := by
      rw [besidePath_documentPath (operation_ne_empty hparts)]
      rfl
    exact ⟨hplain.staysInside k.length_documentPath, hplain.beside.staysInside hlength,
      Store.pathFor_eq_ok h⟩
  · obtain ⟨hk, rfl⟩ := documentPath?_eq_ok_iff.1 hp
    obtain ⟨hl, rfl⟩ := documentPath?_eq_ok_iff.1 hq
    refine ⟨fun hne h => hne (documentPath_inj h), (documentPath_ne_beside l k).symm,
      fun hne h => hne ?_⟩
    exact besidePath_inj (operation_ne_empty hk) (operation_ne_empty hl) h

/-- The name of an operation may end as the files do that documents are written to first. -/
theorem Key.documents_inside_and_apart_dottedOperation :
    let k : Key := ⟨"a", "b", "c"⟩
    let l : Key := ⟨"a", "b", "c.json.tmp"⟩
    k.documentPath? = .ok k.documentPath ∧ l.documentPath? = .ok l.documentPath ∧ k ≠ l ∧
      besidePath k.documentPath = ["a", "b", "c.json.tmp"] ∧
      besidePath l.documentPath = ["a", "b", "c.json.tmp.json.tmp"] ∧
      besidePath k.documentPath ≠ l.documentPath ∧ l.documentPath.StaysInside := by
  intro k l
  have hk : k.documentPath? = .ok k.documentPath :=
    documentPath?_eq_ok_iff.2 ⟨by decide, rfl⟩
  have hl : l.documentPath? = .ok l.documentPath :=
    documentPath?_eq_ok_iff.2 ⟨by decide, rfl⟩
  exact ⟨hk, hl, by decide, by decide, by decide,
    (documents_inside_and_apart.2 k l _ _ hk hl).2.1, (documents_inside_and_apart.1 l _ hl).1⟩

end BiblioQuery
