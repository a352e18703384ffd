import VersionedAssets.Proofs.FileTree.Settling
import VersionedAssets.Proofs.ResourcePath.Segments

/-! # Paths as texts

The names of entries lead on from a path one by one, and a path made of them is written as a text
that is read as the same path.
-/

namespace VersionedAssets.FilePath

open ResourcePath

/-- The text can be the name of an entry of a directory. -/
structure IsEntryName (name : String) : Prop where
  isName : FileTree.IsName name
  no_slash : '/' ∉ name.toList
  no_nul : Char.ofNat 0 ∉ name.toList

theorem isEntryName_of_isSafe {name : String} (hsafe : IsSafe name) : IsEntryName name where
  isName := ⟨by simp [isVoid, hsafe.ne_empty, hsafe.ne_dot], hsafe.ne_up⟩
  no_slash := hsafe.no_slash
  no_nul := hsafe.no_nul

instance (name : String) : Decidable (IsEntryName name) :=
  decidable_of_iff ((isVoid name = false ∧ name ≠ "..") ∧ '/' ∉ name.toList ∧
      Char.ofNat 0 ∉ name.toList)
    ⟨fun ⟨⟨hvoid, hup⟩, hslash, hnul⟩ => ⟨⟨hvoid, hup⟩, hslash, hnul⟩,
      fun ⟨⟨hvoid, hup⟩, hslash, hnul⟩ => ⟨⟨hvoid, hup⟩, hslash, hnul⟩⟩

variable {name : String} {path names : List String}

theorem IsEntryName.ne_empty (hname : IsEntryName name) : name ≠ "" := by
  rintro rfl
  exact absurd hname.isName.not_void (by decide)

theorem IsEntryName.holds_nul (hname : IsEntryName name) :
    Text.holds (Char.ofNat 0) name = false := by
  simpa [Text.holds] using hname.no_nul

theorem any_nul_of_isEntryName (hpath : ∀ name ∈ path, IsEntryName name) :
    path.any (Text.holds (Char.ofNat 0)) = false :=
  List.any_eq_false.mpr fun name hname => by simp [(hpath name hname).holds_nul]

/-! ## Going on from a path -/

theorem append_of_isEntryName (hname : IsEntryName name) : append path name = path ++ [name] := by
  have hrelative : isAbsolute name = false := by
    rw [isAbsolute, Text.startsWith, ← Bool.not_eq_true, List.isPrefixOf_iff_prefix]
    intro hslash
    exact hname.no_slash (hslash.subset (by simp))
  have hnames : FilePath.names name = [name] := by
    rw [FilePath.names, Text.pieces, Text.pieceLists_of_notMem hname.no_slash]
    simp [hname.isName.not_void]
  rw [append, hrelative, hnames]
  rfl

theorem foldl_append_of_isEntryName (hnames : ∀ name ∈ names, IsEntryName name) :
    names.foldl append path = path ++ names := by
  induction names generalizing path with
  | nil => exact (List.append_nil path).symm
  | cons name rest ih =>
      obtain ⟨hfirst, hrest⟩ := List.forall_mem_cons.mp hnames
      rw [List.foldl_cons, append_of_isEntryName hfirst, ih hrest, List.append_assoc,
        List.singleton_append]

/-- In a tree without links a path of entries stands for itself. -/
theorem isSettled_of_isEntryName {files : FileTree} (hlinks : files.root.linkCount = 0)
    (hpath : ∀ name ∈ path, IsEntryName name) : FileTree.IsSettled files path :=
  ⟨fun name hname => (hpath name hname).isName, fun _ _ _ => FileTree.link?_eq_none hlinks _⟩

/-! ## Writing a path -/

theorem pieces_join (hne : names ≠ []) (hnames : ∀ name ∈ names, IsEntryName name) :
    Text.pieces '/' (Text.join "/" names) = names :=
  Text.pieces_join hne fun name hname => (hnames name hname).no_slash

theorem render_eq (hpath : ∀ name ∈ path, IsEntryName name) :
    render path = "/" ++ Text.join "/" path := by
  refine if_neg ?_
  rintro rfl
  exact (hpath "" List.mem_cons_self).ne_empty rfl

theorem names_render (hpath : ∀ name ∈ path, IsEntryName name) :
    FilePath.names (render path) = path := by
  have hfilter : path.filter (fun name => !isVoid name) = path :=
    List.filter_eq_self.mpr fun name hname => by simp [(hpath name hname).isName.not_void]
  rw [FilePath.names, render_eq hpath, Text.pieces_slash_append,
    List.filter_cons_of_neg (by decide)]
  by_cases hne : path = []
  · rw [hne]
    decide
  · rw [pieces_join hne hpath, hfilter]

theorem mem_pieces_render (hpath : ∀ name ∈ path, IsEntryName name) {piece : String}
    (hpiece : piece ∈ Text.pieces '/' (render path)) : piece = "" ∨ piece ∈ path := by
  rw [render_eq hpath, Text.pieces_slash_append, List.mem_cons] at hpiece
  by_cases hne : path = []
  · rw [hne, show Text.pieces '/' (Text.join "/" []) = [""] from by decide,
      List.mem_singleton] at hpiece
    exact .inl (or_self_iff.mp hpiece)
  · rwa [pieces_join hne hpath] at hpiece

theorem holds_nul_render (hpath : ∀ name ∈ path, IsEntryName name) :
    Text.holds (Char.ofNat 0) (render path) = false := by
  rw [← Bool.not_eq_true, Text.holds, List.contains_iff_mem,
    ← Text.exists_mem_pieceLists_iff (show Char.ofNat 0 ≠ '/' by decide)]
  rintro ⟨piece, hpiece, hnul⟩
  rcases mem_pieces_render hpath (List.mem_map_of_mem hpiece) with hempty | hname
  · rw [String.ofList_eq_empty_iff.mp hempty] at hnul
    cases hnul
  · have hplain := (hpath _ hname).no_nul
    rw [String.toList_ofList] at hplain
    exact hplain hnul

theorem trimSlashes_join (hnames : ∀ name ∈ names, IsEntryName name) :
    Text.trimSlashes (Text.join "/" names) = Text.join "/" names := by
  by_cases hne : names = []
  · rw [hne]
    decide
  · refine Text.trimSlashes_of_notMem ?_
    rw [pieces_join hne hnames]
    exact fun hempty => (hnames "" hempty).ne_empty rfl

end VersionedAssets.FilePath
