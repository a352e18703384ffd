import VersionedAssets.FileTree

/-! # Following links

The path that names stand for is described without a search: links are followed, each from the
directory that it is in or from the root, and names that do not exist are kept. Some names stand for
no path, and those are the names behind which a link has to be followed to follow itself.
-/

namespace VersionedAssets.FileTree

variable {tree : FileTree} {base settled : FilePath} {rest names : List String} {name : String}

/-- The name stands for something in a directory, rather than for the directory or the one above. -/
structure IsName (name : String) : Prop where
  not_void : FilePath.isVoid name = false
  not_up : name ≠ ".."

/-- The path from which the target of a link in a directory is read. -/
def origin (base : FilePath) (target : String) : FilePath :=
  if FilePath.isAbsolute target then [] else base

/-- The names lead from a path without links to another one when every link is followed. -/
inductive Settles (tree : FileTree) : FilePath → List String → FilePath → Prop
  | arrived (base : FilePath) : Settles tree base [] base
  | skip {base settled : FilePath} {name : String} {rest : List String}
      (hvoid : FilePath.isVoid name = true) (hrest : Settles tree base rest settled) :
      Settles tree base (name :: rest) settled
  | up {base settled : FilePath} {rest : List String}
      (hrest : Settles tree base.dropLast rest settled) : Settles tree base (".." :: rest) settled
  | step {base settled : FilePath} {name : String} {rest : List String} (hname : IsName name)
      (hplain : tree.link? (base ++ [name]) = none)
      (hrest : Settles tree (base ++ [name]) rest settled) :
      Settles tree base (name :: rest) settled
  | follow {base reached settled : FilePath} {name target : String} {rest : List String}
      (hname : IsName name) (hlink : tree.link? (base ++ [name]) = some target)
      (htarget : Settles tree (origin base target) (Text.pieces '/' target) reached)
      (hrest : Settles tree reached rest settled) : Settles tree base (name :: rest) settled

/-- A link that has to be followed to know where the names lead. -/
inductive Meets (tree : FileTree) : FilePath → List String → FilePath → Prop
  | skip {base link : FilePath} {name : String} {rest : List String}
      (hvoid : FilePath.isVoid name = true) (hrest : Meets tree base rest link) :
      Meets tree base (name :: rest) link
  | up {base link : FilePath} {rest : List String} (hrest : Meets tree base.dropLast rest link) :
      Meets tree base (".." :: rest) link
  | step {base link : FilePath} {name : String} {rest : List String} (hname : IsName name)
      (hplain : tree.link? (base ++ [name]) = none)
      (hrest : Meets tree (base ++ [name]) rest link) : Meets tree base (name :: rest) link
  | here {base : FilePath} {name target : String} {rest : List String} (hname : IsName name)
      (hlink : tree.link? (base ++ [name]) = some target) :
      Meets tree base (name :: rest) (base ++ [name])
  | inside {base link : FilePath} {name target : String} {rest : List String}
      (hname : IsName name) (hlink : tree.link? (base ++ [name]) = some target)
      (htarget : Meets tree (origin base target) (Text.pieces '/' target) link) :
      Meets tree base (name :: rest) link
  | beyond {base reached link : FilePath} {name target : String} {rest : List String}
      (hname : IsName name) (hlink : tree.link? (base ++ [name]) = some target)
      (htarget : Settles tree (origin base target) (Text.pieces '/' target) reached)
      (hrest : Meets tree reached rest link) : Meets tree base (name :: rest) link

/-- The link has to be followed to know where its own target leads. -/
def IsCircular (tree : FileTree) (link : FilePath) : Prop :=
  ∃ target, tree.link? link = some target ∧
    Meets tree (origin link.dropLast target) (Text.pieces '/' target) link

/-- There is a circular link on the way. -/
def Loops (tree : FileTree) (base : FilePath) (names : List String) : Prop :=
  ∃ link, Meets tree base names link ∧ IsCircular tree link

theorem isName_or (name : String) :
    FilePath.isVoid name = true ∨ name = ".." ∨ IsName name := by
  by_cases hvoid : FilePath.isVoid name = true
  · exact .inl hvoid
  · by_cases hup : name = ".."
    · exact .inr (.inl hup)
    · exact .inr (.inr ⟨by simpa using hvoid, hup⟩)

theorem isVoid_up : FilePath.isVoid ".." = false := by decide

/-! ## One name at a time -/

theorem settles_void_iff (hvoid : FilePath.isVoid name = true) :
    Settles tree base (name :: rest) settled ↔ Settles tree base rest settled := by
  refine ⟨fun hsettles => ?_, .skip hvoid⟩
  cases hsettles with
  | skip _ hrest => exact hrest
  | up _ => simp [isVoid_up] at hvoid
  | step hname _ _ => simp [hname.not_void] at hvoid
  | follow hname _ _ _ => simp [hname.not_void] at hvoid

theorem settles_up_iff :
    Settles tree base (".." :: rest) settled ↔ Settles tree base.dropLast rest settled := by
  refine ⟨fun hsettles => ?_, .up⟩
  cases hsettles with
  | skip hvoid _ => simp [isVoid_up] at hvoid
  | up hrest => exact hrest
  | step hname _ _ => exact absurd rfl hname.not_up
  | follow hname _ _ _ => exact absurd rfl hname.not_up

theorem settles_plain_iff (hname : IsName name) (hplain : tree.link? (base ++ [name]) = none) :
    Settles tree base (name :: rest) settled ↔ Settles tree (base ++ [name]) rest settled := by
  refine ⟨fun hsettles => ?_, .step hname hplain⟩
  cases hsettles with
  | skip hvoid _ => simp [hname.not_void] at hvoid
  | up _ => exact absurd rfl hname.not_up
  | step _ _ hrest => exact hrest
  | follow _ hlink _ _ => simp [hplain] at hlink

theorem settles_link_iff {target : String} (hname : IsName name)
    (hlink : tree.link? (base ++ [name]) = some target) :
    Settles tree base (name :: rest) settled ↔
      ∃ reached, Settles tree (origin base target) (Text.pieces '/' target) reached ∧
        Settles tree reached rest settled := by
  constructor
  · intro hsettles
    cases hsettles with
    | skip hvoid _ => simp [hname.not_void] at hvoid
    | up _ => exact absurd rfl hname.not_up
    | step _ hplain _ => simp [hplain] at hlink
    | follow _ hlink' htarget hrest =>
        obtain rfl := Option.some.inj (hlink.symm.trans hlink')
        exact ⟨_, htarget, hrest⟩
  · rintro ⟨reached, htarget, hrest⟩
    exact .follow hname hlink htarget hrest

theorem meets_void_iff {link : FilePath} (hvoid : FilePath.isVoid name = true) :
    Meets tree base (name :: rest) link ↔ Meets tree base rest link := by
  refine ⟨fun hmeets => ?_, .skip hvoid⟩
  cases hmeets with
  | skip _ hrest => exact hrest
  | up _ => simp [isVoid_up] at hvoid
  | step hname _ _ => simp [hname.not_void] at hvoid
  | here hname _ => simp [hname.not_void] at hvoid
  | inside hname _ _ => simp [hname.not_void] at hvoid
  | beyond hname _ _ _ => simp [hname.not_void] at hvoid

theorem meets_up_iff {link : FilePath} :
    Meets tree base (".." :: rest) link ↔ Meets tree base.dropLast rest link := by
  refine ⟨fun hmeets => ?_, .up⟩
  cases hmeets with
  | skip hvoid _ => simp [isVoid_up] at hvoid
  | up hrest => exact hrest
  | step hname _ _ => exact absurd rfl hname.not_up
  | here hname _ => exact absurd rfl hname.not_up
  | inside hname _ _ => exact absurd rfl hname.not_up
  | beyond hname _ _ _ => exact absurd rfl hname.not_up

theorem meets_plain_iff {link : FilePath} (hname : IsName name)
    (hplain : tree.link? (base ++ [name]) = none) :
    Meets tree base (name :: rest) link ↔ Meets tree (base ++ [name]) rest link := by
  refine ⟨fun hmeets => ?_, .step hname hplain⟩
  cases hmeets with
  | skip hvoid _ => simp [hname.not_void] at hvoid
  | up _ => exact absurd rfl hname.not_up
  | step _ _ hrest => exact hrest
  | here _ hlink => simp [hplain] at hlink
  | inside _ hlink _ => simp [hplain] at hlink
  | beyond _ hlink _ _ => simp [hplain] at hlink

theorem meets_link_iff {link : FilePath} {target : String} (hname : IsName name)
    (hlink : tree.link? (base ++ [name]) = some target) :
    Meets tree base (name :: rest) link ↔
      link = base ++ [name] ∨
        Meets tree (origin base target) (Text.pieces '/' target) link ∨
        ∃ reached, Settles tree (origin base target) (Text.pieces '/' target) reached ∧
          Meets tree reached rest link := by
  constructor
  · intro hmeets
    cases hmeets with
    | skip hvoid _ => simp [hname.not_void] at hvoid
    | up _ => exact absurd rfl hname.not_up
    | step _ hplain _ => simp [hplain] at hlink
    | here _ _ => exact .inl rfl
    | inside _ hlink' htarget =>
        obtain rfl := Option.some.inj (hlink.symm.trans hlink')
        exact .inr (.inl htarget)
    | beyond _ hlink' htarget hrest =>
        obtain rfl := Option.some.inj (hlink.symm.trans hlink')
        exact .inr (.inr ⟨_, htarget, hrest⟩)
  · rintro (rfl | htarget | ⟨reached, htarget, hrest⟩)
    · exact .here hname hlink
    · exact .inside hname hlink htarget
    · exact .beyond hname hlink htarget hrest

theorem isCircular_iff {target : String} (hlink : tree.link? (base ++ [name]) = some target) :
    IsCircular tree (base ++ [name]) ↔
      Meets tree (origin base target) (Text.pieces '/' target) (base ++ [name]) := by
  rw [IsCircular, List.dropLast_concat]
  constructor
  · rintro ⟨target', hlink', hmeets⟩
    obtain rfl := Option.some.inj (hlink.symm.trans hlink')
    exact hmeets
  · exact fun hmeets => ⟨target, hlink, hmeets⟩

/-! ## Names after names -/

theorem Settles.append {middle : FilePath} {front : List String}
    (hfront : Settles tree base front middle) (hrest : Settles tree middle rest settled) :
    Settles tree base (front ++ rest) settled := by
  induction hfront with
  | arrived => exact hrest
  | skip hvoid _ ih => exact .skip hvoid (ih hrest)
  | up _ ih => exact .up (ih hrest)
  | step hname hplain _ ih => exact .step hname hplain (ih hrest)
  | follow hname hlink htarget _ _ ih => exact .follow hname hlink htarget (ih hrest)

theorem Meets.append_left {link : FilePath} {front : List String}
    (hmeets : Meets tree base front link) (rest : List String) :
    Meets tree base (front ++ rest) link := by
  induction hmeets with
  | skip hvoid _ ih => exact .skip hvoid ih
  | up _ ih => exact .up ih
  | step hname hplain _ ih => exact .step hname hplain ih
  | here hname hlink => exact .here hname hlink
  | inside hname hlink htarget _ => exact .inside hname hlink htarget
  | beyond hname hlink htarget _ ih => exact .beyond hname hlink htarget ih

theorem Meets.append_right {middle link : FilePath} {front : List String}
    (hfront : Settles tree base front middle) (hmeets : Meets tree middle rest link) :
    Meets tree base (front ++ rest) link := by
  induction hfront with
  | arrived => exact hmeets
  | skip hvoid _ ih => exact .skip hvoid (ih hmeets)
  | up _ ih => exact .up (ih hmeets)
  | step hname hplain _ ih => exact .step hname hplain (ih hmeets)
  | follow hname hlink htarget _ _ ih => exact .beyond hname hlink htarget (ih hmeets)

/-! ## Paths and loops -/

/-- Names lead to one path. -/
theorem Settles.unique {other : FilePath} (hsettles : Settles tree base names settled)
    (hother : Settles tree base names other) : other = settled := by
  induction hsettles generalizing other with
  | arrived base =>
      cases hother
      rfl
  | skip hvoid _ ih => exact ih ((settles_void_iff hvoid).mp hother)
  | up _ ih => exact ih (settles_up_iff.mp hother)
  | step hname hplain _ ih => exact ih ((settles_plain_iff hname hplain).mp hother)
  | follow hname hlink _ _ ihTarget ihRest =>
      obtain ⟨reached, htarget, hrest⟩ := (settles_link_iff hname hlink).mp hother
      obtain rfl := ihTarget htarget
      exact ihRest hrest

/-- Names that lead to a path meet no circular link: where such a link leads would have to be known
before it is known. -/
theorem Settles.not_circular (hsettles : Settles tree base names settled) {link : FilePath}
    (hmeets : Meets tree base names link) : ¬ IsCircular tree link := by
  induction hsettles generalizing link with
  | arrived => cases hmeets
  | skip hvoid _ ih => exact ih ((meets_void_iff hvoid).mp hmeets)
  | up _ ih => exact ih (meets_up_iff.mp hmeets)
  | step hname hplain _ ih => exact ih ((meets_plain_iff hname hplain).mp hmeets)
  | follow hname hlink htarget _ ihTarget ihRest =>
      rcases (meets_link_iff hname hlink).mp hmeets with rfl | htarget' | ⟨reached, hreached, hrest⟩
      · -- following its target would meet the link once more, and the target leads somewhere
        intro hcircular
        exact ihTarget ((isCircular_iff hlink).mp hcircular) hcircular
      · exact ihTarget htarget'
      · obtain rfl := htarget.unique hreached
        exact ihRest hrest

theorem Settles.not_loops (hsettles : Settles tree base names settled) :
    ¬ Loops tree base names := by
  rintro ⟨link, hmeets, hcircular⟩
  exact hsettles.not_circular hmeets hcircular

/-! ## What is left of links -/

/-- No name of the path is void or leads up, and no link is on the way along it. -/
structure IsSettled (tree : FileTree) (path : FilePath) : Prop where
  names : ∀ name ∈ path, IsName name
  no_link : ∀ front name, front ++ [name] <+: path → tree.link? (front ++ [name]) = none

theorem isSettled_nil : IsSettled tree [] := by
  refine ⟨by simp, ?_⟩
  intro front name hbegins
  simp at hbegins

theorem IsSettled.of_front {path front : FilePath} (hsettled : IsSettled tree path)
    (hbegins : front <+: path) : IsSettled tree front :=
  ⟨fun name hname => hsettled.names name (hbegins.subset hname),
    fun front' name hfront => hsettled.no_link front' name (hfront.trans hbegins)⟩

theorem IsSettled.concat (hbase : IsSettled tree base) (hname : IsName name)
    (hplain : tree.link? (base ++ [name]) = none) : IsSettled tree (base ++ [name]) := by
  constructor
  · intro other hother
    rcases List.mem_append.mp hother with hmem | hmem
    · exact hbase.names other hmem
    · rwa [List.mem_singleton.mp hmem]
  · intro front other hbegins
    rcases List.prefix_concat_iff.mp hbegins with heq | hfront
    · rwa [heq]
    · exact hbase.no_link front other hfront

/-- Names lead from a path without links to a path without links. -/
theorem Settles.isSettled (hsettles : Settles tree base names settled)
    (hbase : IsSettled tree base) : IsSettled tree settled := by
  induction hsettles with
  | arrived => exact hbase
  | skip _ _ ih => exact ih hbase
  | up _ ih => exact ih (hbase.of_front (List.dropLast_prefix _))
  | step hname hplain _ ih => exact ih (hbase.concat hname hplain)
  | follow _ _ _ _ ihTarget ihRest =>
      refine ihRest (ihTarget ?_)
      unfold origin
      split
      · exact isSettled_nil
      · exact hbase

/-- A path without links leads to itself. -/
theorem IsSettled.settles (hsettled : IsSettled tree (base ++ names)) :
    Settles tree base names (base ++ names) := by
  induction names generalizing base with
  | nil =>
      rw [List.append_nil]
      exact .arrived base
  | cons name rest ih =>
      rw [List.append_cons] at hsettled ⊢
      exact .step (hsettled.names name (by simp))
        (hsettled.no_link base name (List.prefix_append _ _)) (ih hsettled)

/-- A link to what stands beside it leads there. -/
theorem settles_beside {target : String} (hname : IsName name) (htarget : IsName target)
    (hlink : tree.link? (base ++ [name]) = some target)
    (hrelative : FilePath.isAbsolute target = false)
    (hpieces : Text.pieces '/' target = [target])
    (hplain : tree.link? (base ++ [target]) = none) :
    Settles tree base [name] (base ++ [target]) := by
  refine .follow hname hlink ?_ (.arrived _)
  rw [origin, hrelative, hpieces]
  exact .step htarget hplain (.arrived _)

end VersionedAssets.FileTree
