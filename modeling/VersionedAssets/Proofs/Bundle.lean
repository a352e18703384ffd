import VersionedAssets.Bundle
import VersionedAssets.Proofs.Attempt
import VersionedAssets.Proofs.FileTree.Opening
import VersionedAssets.Proofs.FileTree.PathText
import VersionedAssets.Proofs.FileTree.Reordering

/-! # What bundles answer

Safe segments lead from the directory of a package to what has their names one after the other,
whether the package is unpacked or packed. As long as nothing on the host fails, a bundle says what
is there, with one exception: a path that is too long to be a directory is a fault, although it is
none to a question for files.
-/

namespace VersionedAssets

open ResourcePath

namespace Bundle

variable {files : FileTree} {path : FilePath} {segments : List String}

/-- Safe segments lead from the place to a node or to nothing, so that no fault comes of asking for
them. Only places of marked packages and of archives can be gone on from in any number of steps. -/
def IsSound (files : FileTree) : Bundle → Prop
  | unpacked path => (∀ name ∈ path, Text.holds (Char.ofNat 0) name = false) ∧
      ∀ segments, (∀ segment ∈ segments, IsSafe segment) → ∀ fault,
        files.find (path ++ segments) = .error fault → fault.isMissing = true
  | packed .. => True
  | unmarked _ | faulty _ => False

/-- The place that safe segments lead to. -/
def below (segments : List String) : Bundle → Bundle
  | unpacked path => unpacked (path ++ segments)
  | packed archive place => packed archive (archive.follow place segments)
  | unmarked path => unmarked path
  | faulty isFile => faulty isFile

/-- A file is at the place. -/
def HoldsFile (files : FileTree) : Bundle → Prop
  | unpacked path => ∃ data modified, files.find path = .ok (.file data modified)
  | packed archive place => archive.isFile place = true
  | unmarked _ | faulty _ => False

theorem holds_nul_of_isSafe {segment : String} (hsafe : IsSafe segment) :
    Text.holds (Char.ofNat 0) segment = false :=
  (FilePath.isEntryName_of_isSafe hsafe).holds_nul

theorem append_of_isSafe {segment : String} (hsafe : IsSafe segment) :
    FilePath.append path segment = path ++ [segment] :=
  FilePath.append_of_isEntryName (FilePath.isEntryName_of_isSafe hsafe)

theorem foldl_append_of_isSafe (hsafe : ∀ segment ∈ segments, IsSafe segment) :
    segments.foldl FilePath.append path = path ++ segments :=
  FilePath.foldl_append_of_isEntryName fun segment hsegment =>
    FilePath.isEntryName_of_isSafe (hsafe segment hsegment)

theorem appendAll_eq {place : Bundle} (hsound : place.IsSound files)
    (hsafe : ∀ segment ∈ segments, IsSafe segment) :
    place.appendAll segments = .ok (place.below segments) := by
  cases place with
  | packed archive place => rfl
  | unmarked path => exact hsound.elim
  | faulty isFile => exact hsound.elim
  | unpacked path =>
      rw [appendAll, foldl_append_of_isSafe hsafe]
      rfl

theorem not_any_nul (hpath : ∀ name ∈ path, Text.holds (Char.ofNat 0) name = false)
    (hsafe : ∀ segment ∈ segments, IsSafe segment) :
    (path ++ segments).any (Text.holds (Char.ofNat 0)) = false := by
  rw [List.any_eq_false]
  intro name hname
  rcases List.mem_append.mp hname with hname | hname
  · simp [hpath name hname]
  · simp [holds_nul_of_isSafe (hsafe name hname)]

theorem isSettled_of_no_links (hlinks : files.root.linkCount = 0)
    (hpath : ∀ name ∈ path, IsSafe name) : FileTree.IsSettled files path :=
  FilePath.isSettled_of_isEntryName hlinks fun name hname =>
    FilePath.isEntryName_of_isSafe (hpath name hname)

/-- In a tree without links safe names do not lead to faults. -/
theorem isSound_of_no_links (hlinks : files.root.linkCount = 0)
    (hpath : ∀ name ∈ path, IsSafe name) : (unpacked path).IsSound files := by
  refine ⟨fun name hname => holds_nul_of_isSafe (hpath name hname), ?_⟩
  intro segments hsafe fault hfind
  have hsettled : FileTree.IsSettled files (path ++ segments) :=
    isSettled_of_no_links hlinks (List.forall_mem_append.mpr ⟨hpath, hsafe⟩)
  rcases FileTree.find_of_isSettled hsettled with ⟨node, hfound, -⟩ | ⟨found, hfound, hmissing, -⟩
  · cases hfind.symm.trans hfound
  · obtain ⟨⟩ := hfind.symm.trans hfound
    exact hmissing

/-- Asking for a file does not fail. -/
theorem isFile_below {place : Bundle} (hsound : place.IsSound files)
    (hsafe : ∀ segment ∈ segments, IsSafe segment) :
    (place.below segments).HoldsFile files ∧ (place.below segments).isFile files = .ok true ∨
      ¬ (place.below segments).HoldsFile files ∧
        (place.below segments).isFile files = .ok false := by
  cases place with
  | packed archive place =>
      cases hfile : archive.isFile (archive.follow place segments) with
      | true => exact .inl ⟨hfile, congrArg Except.ok hfile⟩
      | false =>
          refine .inr ⟨?_, congrArg Except.ok hfile⟩
          intro hthere
          exact Bool.false_ne_true (hfile.symm.trans hthere)
  | unmarked path => exact hsound.elim
  | faulty isFile => exact hsound.elim
  | unpacked path =>
      simp only [below, isFile, HoldsFile, not_any_nul hsound.1 hsafe, FileTree.isRegularFile,
        Bool.false_eq_true, if_false]
      cases hfind : files.find (path ++ segments) with
      | error fault =>
          have hmissing := hsound.2 segments hsafe fault hfind
          simp [hmissing, Except.mapError]
      | ok node => cases node <;> simp [Node.isFile, Except.mapError]

/-! ## Directories -/

theorem isTreeDirectory_eq_true_iff :
    isTreeDirectory files path = .ok true ↔
      path.any (Text.holds (Char.ofNat 0)) = false ∧
        ∃ entries, files.find path = .ok (.directory entries) := by
  unfold isTreeDirectory
  cases path.any (Text.holds (Char.ofNat 0)) with
  | true => simp
  | false =>
      cases files.find path with
      | error fault => cases fault <;> simp
      | ok node => cases node <;> simp [Node.isDirectory]

theorem isTreeDirectory_eq_error_iff {fault : IoFault} :
    isTreeDirectory files path = .error fault ↔
      path.any (Text.holds (Char.ofNat 0)) = false ∧
        files.find path = .error .nameTooLong ∧ fault = .nameTooLong := by
  unfold isTreeDirectory
  cases path.any (Text.holds (Char.ofNat 0)) with
  | true => simp
  | false =>
      cases files.find path with
      | error found => cases found <;> simp [eq_comm]
      | ok node => simp

/-- The directory at the place has a directory of the name in it. -/
def HoldsDirectory (files : FileTree) (place : Bundle) (name : String) : Prop :=
  match place with
  | unpacked path => ∃ entries, files.find path = .ok (.directory entries) ∧
      name ∈ entries.map (·.1) ∧ ∃ inside, files.find (path ++ [name]) = .ok (.directory inside)
  | packed archive place => Archive.isDirectory place = true ∧ ∃ child ∈ archive.children place,
      Archive.isDirectory child = true ∧ (FilePath.names child).getLastD "" = name
  | unmarked _ | faulty _ => False

/-- The path of the place is too long to be asked for, or that of something in its directory is. -/
def IsOverlong (files : FileTree) : Bundle → Prop
  | unpacked path => files.find path = .error .nameTooLong ∨
      ∃ entries, files.find path = .ok (.directory entries) ∧ ∃ entry ∈ entries,
        Text.holds (Char.ofNat 0) entry.1 = false ∧
          files.find (path ++ [entry.1]) = .error .nameTooLong
  | packed .. | unmarked _ | faulty _ => False

/-- The names of the directories at a place; none if no directory is there. -/
def list (files : FileTree) (place : Bundle) : Except IoFault (List String) := do
  if ← place.isDirectory files then place.directories files else return []

/-- The directories of a directory are those of its entries that are found to be directories. -/
theorem treeDirectories_outcome {entries : List (String × Node)}
    (hpath : path.any (Text.holds (Char.ofNat 0)) = false)
    (hfind : files.find path = .ok (.directory entries))
    (hnames : ∀ name, (unpacked path).HoldsDirectory files name →
      Text.holds (Char.ofNat 0) name = false) :
    (¬ (unpacked path).IsOverlong files ∧ ∃ names, treeDirectories files path = .ok names ∧
        ∀ name, name ∈ names ↔ (unpacked path).HoldsDirectory files name) ∨
      (unpacked path).IsOverlong files ∧ treeDirectories files path = .error .nameTooLong := by
  have hrun : treeDirectories files path =
      (entries.map (·.1)).filterM fun name => isTreeDirectory files (path ++ [name]) := by
    rw [treeDirectories, hfind]
    rfl
  have hnul (name : String) : (path ++ [name]).any (Text.holds (Char.ofNat 0)) = false ↔
      Text.holds (Char.ofNat 0) name = false := by
    simp [List.any_append, hpath]
  have hoverlong : (unpacked path).IsOverlong files ↔ ∃ name ∈ entries.map (·.1),
      isTreeDirectory files (path ++ [name]) = .error .nameTooLong := by
    simp only [isTreeDirectory_eq_error_iff, hnul]
    simp [IsOverlong, hfind]
  rw [hrun]
  by_cases hfails : (unpacked path).IsOverlong files
  · refine .inr ⟨hfails, Attempt.filterM_eq_error (fun name _ => ?_) (hoverlong.mp hfails)⟩
    cases hasked : isTreeDirectory files (path ++ [name]) with
    | ok answer => exact .inl ⟨answer, rfl⟩
    | error fault => rw [(isTreeDirectory_eq_error_iff.mp hasked).2.2]; exact .inr rfl
  · have hanswers : ∀ name ∈ entries.map (·.1), isTreeDirectory files (path ++ [name]) =
        .ok ((isTreeDirectory files (path ++ [name])).toOption.getD false) := by
      intro name hname
      cases hasked : isTreeDirectory files (path ++ [name]) with
      | ok answer => rfl
      | error fault =>
          obtain ⟨-, -, rfl⟩ := isTreeDirectory_eq_error_iff.mp hasked
          exact absurd (hoverlong.mpr ⟨name, hname, hasked⟩) hfails
    refine .inl ⟨hfails, _, Attempt.filterM_eq_ok hanswers, fun name => ?_⟩
    rw [List.mem_filter]
    constructor
    · rintro ⟨hname, hanswer⟩
      have htrue := hanswers name hname
      rw [hanswer] at htrue
      exact ⟨entries, hfind, hname, (isTreeDirectory_eq_true_iff.mp htrue).2⟩
    · intro hholds
      have hplain := (hnul name).mpr (hnames name hholds)
      obtain ⟨entries', hfind', hname, hinside⟩ := hholds
      obtain ⟨⟩ := hfind.symm.trans hfind'
      have htrue := isTreeDirectory_eq_true_iff.mpr ⟨hplain, hinside⟩
      exact ⟨hname, by rw [htrue]; rfl⟩

/-- Listing a directory fails if it or something in it has too long a path, and gives the names of
the directories in it otherwise. -/
theorem list_outcome {place : Bundle}
    (hsound : place.IsSound files) (hsafe : ∀ segment ∈ segments, IsSafe segment)
    (hnames : ∀ name, (place.below segments).HoldsDirectory files name → IsSafe name) :
    (¬ (place.below segments).IsOverlong files ∧ ∃ names,
        (place.below segments).list files = .ok names ∧
          ∀ name, name ∈ names ↔ (place.below segments).HoldsDirectory files name) ∨
      (place.below segments).IsOverlong files ∧
        (place.below segments).list files = .error .nameTooLong := by
  cases place with
  | packed archive place =>
      refine .inl ⟨id, ?_⟩
      cases hdirectory : Archive.isDirectory (archive.follow place segments) with
      | false =>
          refine ⟨[], ?_, fun name => ?_⟩
          · simp [list, below, isDirectory, hdirectory, bind, Except.bind, pure, Except.pure]
          · simp [below, HoldsDirectory, hdirectory]
      | true =>
          refine ⟨((archive.children (archive.follow place segments)).filter
            Archive.isDirectory).map fun name => (FilePath.names name).getLastD "", ?_,
            fun name => ?_⟩
          · simp only [list, below, isDirectory, hdirectory, bind, Except.bind, if_true]
            rfl
          · simp [below, HoldsDirectory, hdirectory, and_assoc]
  | unmarked path => exact hsound.elim
  | faulty isFile => exact hsound.elim
  | unpacked path =>
      have hnul := not_any_nul hsound.1 hsafe
      rw [below]
      cases hthere : isTreeDirectory files (path ++ segments) with
      | error fault =>
          obtain ⟨-, hfind, rfl⟩ := isTreeDirectory_eq_error_iff.mp hthere
          refine .inr ⟨.inl hfind, ?_⟩
          rw [list, isDirectory, hthere]
          rfl
      | ok there =>
          have hlist : (unpacked (path ++ segments)).list files =
              if there then treeDirectories files (path ++ segments) else .ok [] := by
            rw [list, isDirectory, hthere]
            rfl
          rw [hlist]
          cases there with
          | true =>
              obtain ⟨-, entries, hfind⟩ := isTreeDirectory_eq_true_iff.mp hthere
              exact treeDirectories_outcome hnul hfind fun name hname =>
                holds_nul_of_isSafe (hnames name hname)
          | false =>
              have hnone : ∀ entries, files.find (path ++ segments) ≠ .ok (.directory entries) := by
                intro entries hfind
                cases hthere.symm.trans (isTreeDirectory_eq_true_iff.mpr ⟨hnul, entries, hfind⟩)
              have hshort : files.find (path ++ segments) ≠ .error .nameTooLong := by
                intro hfind
                cases hthere.symm.trans (isTreeDirectory_eq_error_iff.mpr ⟨hnul, hfind, rfl⟩)
              refine .inl ⟨?_, [], rfl, fun name => ?_⟩
              · rintro (hlong | ⟨entries, hfind, -⟩)
                · exact hshort hlong
                · exact hnone entries hfind
              · simp [HoldsDirectory, hnone]

/-! ## The order of what is listed -/

/-- The places hold the same, and their directories are listed in other orders. -/
inductive Reordered (files other : FileTree) : Bundle → Bundle → Prop
  | unpacked {path : FilePath} (hfiles : files.Reordered other) :
      Reordered files other (.unpacked path) (.unpacked path)
  | packed {archive twin : Archive} {place : String} (hnames : twin.names.Perm archive.names)
      (hcontent : ∀ name, twin.content? name = archive.content? name) :
      Reordered files other (.packed archive place) (.packed twin place)

namespace Reordered

variable {other : FileTree} {place twin : Bundle}

theorem symm (hreordered : Reordered files other place twin) :
    Reordered other files twin place := by
  cases hreordered with
  | unpacked hfiles => exact .unpacked hfiles.symm
  | packed hnames hcontent => exact .packed hnames.symm fun name => (hcontent name).symm

theorem below (hreordered : Reordered files other place twin) (segments : List String) :
    Reordered files other (place.below segments) (twin.below segments) := by
  cases hreordered with
  | unpacked hfiles => exact .unpacked hfiles
  | @packed archive twin place hnames hcontent =>
      have hfollow : twin.follow place segments = archive.follow place segments := by
        simp only [Archive.follow, hnames.contains_eq]
      rw [Bundle.below, Bundle.below, hfollow]
      exact .packed hnames hcontent

theorem location_eq (hreordered : Reordered files other place twin) (uri : String) :
    twin.location uri = place.location uri := by
  cases hreordered with
  | unpacked => rfl
  | packed _ hcontent => simp only [location, memberContent, hcontent]

theorem holdsFile (hreordered : Reordered files other place twin)
    (hfile : place.HoldsFile files) : twin.HoldsFile other := by
  cases hreordered with
  | unpacked hfiles =>
      obtain ⟨data, modified, hfind⟩ := hfile
      exact ⟨data, modified, hfiles.find_file hfind⟩
  | packed hnames _ =>
      rw [HoldsFile, Archive.isFile, hnames.contains_eq]
      exact hfile

theorem holdsDirectory (hreordered : Reordered files other place twin) {name : String}
    (hdirectory : place.HoldsDirectory files name) : twin.HoldsDirectory other name := by
  cases hreordered with
  | unpacked hfiles =>
      obtain ⟨entries, hfind, hname, inside, hinside⟩ := hdirectory
      obtain ⟨others, hothers, hperm⟩ := hfiles.find_directory hfind
      obtain ⟨_, hinside, -⟩ := hfiles.find_directory hinside
      exact ⟨others, hothers, hperm.mem_iff.mpr hname, _, hinside⟩
  | packed hnames _ =>
      obtain ⟨hplace, child, hchild, hlast⟩ := hdirectory
      exact ⟨hplace, child, (hnames.filter _).mem_iff.mpr hchild, hlast⟩

theorem isOverlong (hreordered : Reordered files other place twin)
    (hoverlong : place.IsOverlong files) : twin.IsOverlong other := by
  cases hreordered with
  | unpacked hfiles =>
      rcases hoverlong with hlong | ⟨entries, hfind, entry, hentry, hplain, hlong⟩
      · exact .inl (hfiles.find_error hlong)
      · obtain ⟨others, hothers, hperm⟩ := hfiles.find_directory hfind
        obtain ⟨twin, htwin, hname⟩ :=
          List.mem_map.mp (hperm.mem_iff.mpr (List.mem_map_of_mem hentry))
        refine .inr ⟨others, hothers, twin, htwin, ?_⟩
        rw [hname]
        exact ⟨hplain, hfiles.find_error hlong⟩
  | packed => exact hoverlong.elim

theorem isSound (hreordered : Reordered files other place twin)
    (hsound : place.IsSound files) : twin.IsSound other := by
  cases hreordered with
  | unpacked hfiles =>
      exact ⟨hsound.1, fun segments hsafe fault hfind =>
        hsound.2 segments hsafe fault (hfiles.symm.find_error hfind)⟩
  | packed => trivial

end Reordered

end Bundle

end VersionedAssets
