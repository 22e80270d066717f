import BiblioQuery.Archive.Store

/-!
# Paths of documents

A part of a key that can be the name of a directory has no slash in it and is none of the names that
lead elsewhere.  So a path of such names is read back from its text, keys with different parts have
documents at different paths, and no document lies where another one, or the manifest, is written
first.

## Main definitions

* `DiskPath.IsPlain` : all names of a path can be names of directories.

## Main results

* `fileStem_append`, `withExtension_json` : names with an extension that is replaced.
* `pathOfText_fileText` : a plain path is read back from its text.
* `Key.isPlain_documentPath`, `DiskPath.IsPlain.beside` : where documents are, and where they are
  written first, are plain paths.
* `Key.documentPath_inj` : keys with one document are equal.
* `Key.documentPath_ne_beside`, `Key.documentPath_ne_manifestPath` : no document lies where another
  one is written first, or where the manifest is.
-/

namespace BiblioQuery

/-! ### Names -/

theorem isPathPart_iff {s : String} :
    isPathPart s = true ↔
      s ≠ "" ∧ s ≠ "." ∧ s ≠ ".." ∧ ∀ c ∈ s.toList, c ≠ '/' ∧ c ≠ '\\' ∧ c ≠ '\x00' := by
  simp [isPathPart, and_assoc]

/-- A name of more than two characters can only have a character that it must not have. -/
theorem isPathPart_of_length {s : String} (hlength : 2 < s.toList.length)
    (hchars : ∀ c ∈ s.toList, c ≠ '/' ∧ c ≠ '\\' ∧ c ≠ '\x00') : isPathPart s = true := by
  -- The names that lead elsewhere have at most two characters.
  have hne : ∀ u : String, u.toList.length ≤ 2 → s ≠ u := by
    rintro u hu rfl
    omega
  exact isPathPart_iff.2 ⟨hne _ (by decide), hne _ (by decide), hne _ (by decide), hchars⟩

/-- A name stays a name when an extension is put behind it. -/
theorem isPathPart_append {s t : String} (hs : isPathPart s = true) (ht : isPathPart t = true)
    (hlength : 2 ≤ t.toList.length) :
    isPathPart (s ++ t) = true := by
  obtain ⟨hempty, -, -, hchars⟩ := isPathPart_iff.1 hs
  obtain ⟨-, -, -, hchars'⟩ := isPathPart_iff.1 ht
  have hpos : 0 < s.toList.length :=
    List.length_pos_iff.2 fun h => hempty (String.toList_eq_nil_iff.1 h)
  refine isPathPart_of_length ?_ fun c hc => ?_
  · rw [String.toList_append, List.length_append]
    omega
  · rcases List.mem_append.1 (String.toList_append ▸ hc) with hc | hc
    · exact hchars c hc
    · exact hchars' c hc

/-! ### Extensions -/

/-- A name without its extension has no other characters. -/
theorem mem_of_mem_fileStem {name : String} {c : Char} (h : c ∈ (fileStem name).toList) :
    c ∈ name.toList := by
  rw [fileStem] at h
  split at h
  · next dot before rest hstem =>
    rw [String.toList_ofList, List.mem_reverse] at h
    have hmem : c ∈ name.toList.reverse.dropWhile (· != '.') :=
      hstem ▸ List.mem_cons_of_mem dot h
    exact List.mem_reverse.1 ((List.dropWhile_sublist _).subset hmem)
  · exact h

/-- The extension of a name is taken away, whatever dots there are before it. -/
theorem fileStem_append {s extension : String} (hs : s ≠ "") (h : '.' ∉ extension.toList) :
    fileStem (s ++ "." ++ extension) = s := by
  have hdrop : (s ++ "." ++ extension).toList.reverse.dropWhile (· != '.') =
      '.' :: s.toList.reverse := by
    have hall : ∀ c ∈ extension.toList.reverse, (c != '.') = true := fun c hc =>
      bne_iff_ne.2 fun hdot => h (hdot ▸ List.mem_reverse.1 hc)
    rw [String.toList_append, String.toList_append, List.reverse_append, List.reverse_append,
      List.dropWhile_append_of_pos hall]
    rfl
  rw [fileStem, hdrop]
  cases hrest : s.toList.reverse with
  | nil => exact absurd (String.toList_eq_nil_iff.1 (List.reverse_eq_nil_iff.1 hrest)) hs
  | cons before rest =>
    dsimp only
    rw [← hrest, List.reverse_reverse, String.ofList_toList]

/-- The extension of a document is replaced by itself with another one behind it. -/
theorem withExtension_json {s : String} (hs : s ≠ "") :
    withExtension (s ++ ".json") "json.tmp" = s ++ ".json" ++ ".tmp" := by
  have hname : s ++ ".json" = s ++ "." ++ "json" := by rw [String.append_assoc]; rfl
  rw [withExtension, hname, fileStem_append hs (by decide), String.append_assoc,
    String.append_assoc, String.append_assoc]
  rfl

/-- A name stays a name when its extension is replaced. -/
theorem isPathPart_withExtension {name extension : String} (hname : isPathPart name = true)
    (hextension : isPathPart extension = true) (hlength : 2 ≤ extension.toList.length) :
    isPathPart (withExtension name extension) = true := by
  obtain ⟨-, -, -, hchars⟩ := isPathPart_iff.1 hname
  obtain ⟨-, -, -, hchars'⟩ := isPathPart_iff.1 hextension
  have hparts : (withExtension name extension).toList =
      (fileStem name).toList ++ '.' :: extension.toList := by
    rw [withExtension, String.toList_append, String.toList_append, List.append_assoc]
    rfl
  refine isPathPart_of_length ?_ ?_
  · rw [hparts, List.length_append, List.length_cons]
    omega
  · rw [hparts, List.forall_mem_append, List.forall_mem_cons]
    exact ⟨fun c hc => hchars c (mem_of_mem_fileStem hc), by decide, hchars'⟩

/-! ### Plain paths -/

/-- All names of the path can be names of directories. -/
def DiskPath.IsPlain (p : DiskPath) : Prop := ∀ name ∈ p, isPathPart name = true

/-- A plain path is read back from its text. -/
theorem pathOfText_fileText {p : DiskPath} (h : p.IsPlain) (hp : p ≠ []) :
    pathOfText (fileText p) = p := by
  have hslash : ∀ cs ∈ p.map String.toList, '/' ∉ cs := by
    refine List.forall_mem_map.2 fun name hname hmem => ?_
    exact ((isPathPart_iff.1 (h name hname)).2.2.2 _ hmem).1 rfl
  have hnonempty : ∀ cs ∈ p.map String.toList, cs ≠ [] := by
    refine List.forall_mem_map.2 fun name hname hnil => ?_
    exact (isPathPart_iff.1 (h name hname)).1 (String.toList_eq_nil_iff.1 hnil)
  have hsplit : (fileText p).toList.splitOn '/' = p.map String.toList := by
    rw [fileText, String.toList_intercalate]
    exact List.splitOn_intercalate '/' hslash (by simpa using hp)
  -- A slash at either end would leave an empty part.
  have hlast : (fileText p).toList.getLast? ≠ some '/' := by
    intro hlast
    obtain ⟨cs, hcs⟩ := List.getLast?_eq_some_iff.1 hlast
    rw [hcs, List.splitOn_append_cons_self, List.splitOn_nil] at hsplit
    exact hnonempty [] (hsplit ▸ List.mem_append_right _ List.mem_cons_self) rfl
  have hhead : (fileText p).toList.head? ≠ some '/' := by
    intro hhead
    obtain ⟨cs, hcs⟩ := List.head?_eq_some_iff.1 hhead
    rw [hcs, ← List.nil_append ('/' :: cs), List.splitOn_append_cons_self,
      List.splitOn_nil] at hsplit
    exact hnonempty [] (hsplit ▸ List.mem_append_left _ List.mem_cons_self) rfl
  have hfilter : (p.map String.toList).filter (fun name => !name.isEmpty) = p.map String.toList :=
    List.filter_eq_self.2 fun cs hcs => by simpa using hnonempty cs hcs
  simp only [pathOfText, if_neg hlast, if_neg hhead, hsplit, hfilter]
  simp [Function.comp_def]

namespace DiskPath.IsPlain

variable {p : DiskPath}

theorem nil : IsPlain [] := nofun

theorem cons {name : String} (hname : isPathPart name = true) (hp : p.IsPlain) :
    IsPlain (name :: p) := List.forall_mem_cons.2 ⟨hname, hp⟩

theorem dropLast (h : p.IsPlain) : IsPlain p.dropLast :=
  fun name hname => h name (List.dropLast_subset p hname)

/-- The path where a file is written first is as plain as that of the file. -/
theorem beside (h : p.IsPlain) : IsPlain (besidePath p) := by
  induction p with
  | nil => exact nil
  | cons name rest ih =>
    obtain ⟨hname, hrest⟩ := List.forall_mem_cons.1 h
    cases rest with
    | nil => exact cons (isPathPart_withExtension hname (by decide) (by decide)) nil
    | cons next rest => exact cons hname (ih hrest)

end DiskPath.IsPlain

theorem besidePath_concat (p : DiskPath) (name : String) :
    besidePath (p ++ [name]) = p ++ [withExtension name "json.tmp"] := by
  induction p with
  | nil => rfl
  | cons first rest ih =>
    cases rest with
    | nil => rfl
    | cons next rest => exact congrArg (first :: ·) ih

theorem isPlain_manifestPath : manifestPath.IsPlain := .cons (by decide) .nil

theorem manifestPath_ne_beside : manifestPath ≠ besidePath manifestPath := by decide

/-! ### Documents of keys -/

namespace Key

@[simp]
theorem length_documentPath (k : Key) : k.documentPath.length = 3 := rfl

@[simp]
theorem dropLast_documentPath (k : Key) :
    k.documentPath.dropLast = [k.provenance, k.taskType] := rfl

/-- The document of a key whose parts can be names has a plain path. -/
theorem isPlain_documentPath {k : Key} (h : ∀ s ∈ k.parts, isPathPart s = true) :
    k.documentPath.IsPlain := by
  simp only [parts, List.forall_mem_cons, List.not_mem_nil] at h
  obtain ⟨hprovenance, htaskType, hoperation, -⟩ := h
  exact .cons hprovenance (.cons htaskType
    (.cons (isPathPart_append hoperation (by decide) (by decide)) .nil))

/-- Keys with one document are equal. -/
theorem documentPath_inj {k l : Key} (h : k.documentPath = l.documentPath) : k = l := by
  obtain ⟨provenance, taskType, operation⟩ := k
  obtain ⟨provenance', taskType', operation'⟩ := l
  simp only [documentPath, List.cons.injEq, and_true] at h
  obtain ⟨rfl, rfl, hoperation⟩ := h
  have hchars := congrArg String.toList hoperation
  rw [String.toList_append, String.toList_append] at hchars
  rw [String.toList_inj.1 (List.append_cancel_right hchars)]

/-- Where the document of a key that can be a name is written first. -/
theorem besidePath_documentPath {k : Key} (h : k.operation ≠ "") :
    besidePath k.documentPath = [k.provenance, k.taskType, k.operation ++ ".json" ++ ".tmp"] := by
  change k.provenance :: k.taskType :: [withExtension (k.operation ++ ".json") "json.tmp"] = _
  rw [withExtension_json h]

/-- No document lies where another one is written first. -/
theorem documentPath_ne_beside (k l : Key) : k.documentPath ≠ besidePath l.documentPath := by
  intro h
  simp only [documentPath, besidePath, List.cons.injEq, and_true] at h
  -- The names end in different letters.
  have hlast := congrArg (fun name : String => name.toList.getLast?) h.2.2
  simp [withExtension] at hlast

/-- No document is on the way to the directory of another one. -/
theorem not_documentPath_prefix (k l : Key) : ¬ k.documentPath <+: l.documentPath.dropLast := by
  intro h
  have hlength := h.length_le
  simp at hlength

theorem documentPath_ne_manifestPath (k : Key) : k.documentPath ≠ manifestPath := by
  simp [documentPath, manifestPath]

theorem documentPath_ne_beside_manifestPath (k : Key) :
    k.documentPath ≠ besidePath manifestPath := by
  simp [documentPath, manifestPath, besidePath]

end Key

end BiblioQuery
