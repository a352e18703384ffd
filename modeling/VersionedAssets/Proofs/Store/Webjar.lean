import VersionedAssets.Proofs.Store.Package
import VersionedAssets.Proofs.Store.VersionKey

/-! # The newest version of a library

A path without a version leads to the newest installed version of its library that has the file.
Which one that is does not depend on the order in which versions are listed. The one thing that
keeps a path from an answer is a library that cannot be listed because a path in it is too long.
-/

namespace VersionedAssets.WebjarStore

open ResourcePath

/-- By the order of keys, the version comes after the other one. -/
def IsNewer (version other : String) : Prop :=
  ∃ key key', VersionKey.read version = .ok key ∧ VersionKey.read other = .ok key' ∧
    key.compare key' = .gt

variable {store : WebjarStore} {host : Host} {place : Bundle} {path library version : String}
  {rest names versions : List String}

/-! ## Sorting -/

theorem not_isNewer_self (version : String) : ¬ IsNewer version version := by
  rintro ⟨key, key', hkey, hkey', hnewer⟩
  obtain ⟨⟩ := hkey.symm.trans hkey'
  rw [VersionKey.compare_self] at hnewer
  cases hnewer

/-- Of two versions with different keys one is newer. -/
theorem read_eq_of_not_isNewer {other : String}
    (hversion : ∃ key, VersionKey.read version = .ok key)
    (hother : ∃ key, VersionKey.read other = .ok key) (hnot : ¬ IsNewer version other)
    (hnot' : ¬ IsNewer other version) : VersionKey.read version = VersionKey.read other := by
  obtain ⟨key, hkey⟩ := hversion
  obtain ⟨key', hkey'⟩ := hother
  have hswap : key'.compare key = (key.compare key').swap := Std.OrientedCmp.eq_swap
  have hequal : key.compare key' = .eq := by
    cases hcompare : key.compare key' with
    | eq => rfl
    | gt => exact absurd ⟨key, key', hkey, hkey', hcompare⟩ hnot
    | lt =>
        rw [hcompare] at hswap
        exact absurd ⟨key', key, hkey', hkey, hswap⟩ hnot'
  rw [hkey, hkey', Std.LawfulEqCmp.eq_of_compare hequal]

/-- The names with their keys, no name before one with a newer key. -/
def byKey (keyed : List (VersionKey × String)) : List (VersionKey × String) :=
  keyed.mergeSort fun a b => (b.1.compare a.1).isLE

theorem pairwise_byKey (keyed : List (VersionKey × String)) :
    (byKey keyed).Pairwise fun a b => (b.1.compare a.1).isLE = true := by
  refine List.pairwise_mergeSort ?_ ?_ _
  · intro a b c hab hbc
    exact Std.TransCmp.isLE_trans hbc hab
  · intro a b
    exact VersionKey.isLE_total b.1 a.1

/-- The keys of names that have keys are read one after the other. -/
theorem mapM_read_outcome (hread : ∀ name ∈ names, ∃ key, VersionKey.read name = .ok key) :
    ∃ keyed : List (VersionKey × String),
      names.mapM (fun name => return (← VersionKey.read name, name)) = .ok keyed ∧
        keyed.map (·.2) = names ∧ ∀ entry ∈ keyed, VersionKey.read entry.2 = .ok entry.1 := by
  obtain ⟨keyOf, hkey⟩ : ∃ keyOf : String → VersionKey, ∀ name ∈ names,
      VersionKey.read name = .ok (keyOf name) := by
    refine ⟨fun name => (VersionKey.read name).toOption.getD [], fun name hname => ?_⟩
    obtain ⟨key, hkey⟩ := hread name hname
    simp only [hkey, Except.toOption, Option.getD_some]
  have hrun : ∀ name ∈ names, (do return (← VersionKey.read name, name)) =
      (.ok (keyOf name, name) : Except Fault (VersionKey × String)) := by
    intro name hname
    rw [hkey name hname]
    rfl
  refine ⟨names.map fun name => (keyOf name, name), Attempt.mapM_eq_ok hrun, ?_, ?_⟩
  · simp [Function.comp_def]
  · intro entry hentry
    obtain ⟨name, hname, rfl⟩ := List.mem_map.mp hentry
    exact hkey name hname

/-- Names that have keys are sorted with no version before a newer one. -/
theorem newestFirst_outcome (hread : ∀ name ∈ names, ∃ key, VersionKey.read name = .ok key) :
    ∃ sorted, newestFirst names = .ok sorted ∧ sorted.Perm names ∧
      sorted.Pairwise fun version older => ¬ IsNewer older version := by
  obtain ⟨keyed, hkeyed, hnames, hkeys⟩ := mapM_read_outcome hread
  have hperm : (byKey keyed).Perm keyed := List.mergeSort_perm _ _
  refine ⟨(byKey keyed).map (·.2), ?_, ?_, ?_⟩
  · rw [newestFirst, hkeyed, byKey]
    rfl
  · rw [← hnames]
    exact hperm.map _
  · refine List.pairwise_map.mpr ((pairwise_byKey keyed).imp_of_mem ?_)
    rintro ⟨key, version⟩ ⟨key', older⟩ hversion holder hle ⟨_, _, hreadOlder, hreadVersion, hnewer⟩
    obtain ⟨⟩ := (hkeys _ (hperm.mem_iff.mp hversion)).symm.trans hreadVersion
    obtain ⟨⟩ := (hkeys _ (hperm.mem_iff.mp holder)).symm.trans hreadOlder
    rw [hnewer] at hle
    cases hle

/-! ## Searching -/

/-- The search ends at a version that no version with the file is newer than. -/
theorem firstWith_outcome {found : String → Option Location}
    (hfound : ∀ version ∈ versions, store.bundle.find host
      (Text.join "/" (library :: version :: rest)) = .ok (found version))
    (hsorted : versions.Pairwise fun version older => ¬ IsNewer older version) :
    (store.firstWith host library rest versions = .ok none ∧
        ∀ version ∈ versions, found version = none) ∨
      ∃ version ∈ versions, ∃ location,
        store.firstWith host library rest versions = .ok (some (version, location)) ∧
          found version = some location ∧
          ∀ other ∈ versions, found other ≠ none → ¬ IsNewer other version := by
  induction versions with
  | nil => exact .inl ⟨rfl, by simp⟩
  | cons version older ih =>
      obtain ⟨hfirst, hrest⟩ := List.forall_mem_cons.mp hfound
      obtain ⟨hnewest, hsorted⟩ := List.pairwise_cons.mp hsorted
      cases hversion : found version with
      | some location =>
          refine .inr ⟨version, List.mem_cons_self, location, ?_, hversion,
            fun other hother _ => ?_⟩
          · rw [firstWith, hfirst, hversion]
            rfl
          · rcases List.mem_cons.mp hother with rfl | hother
            · exact not_isNewer_self _
            · exact hnewest other hother
      | none =>
          have hrun : store.firstWith host library rest (version :: older) =
              store.firstWith host library rest older := by
            rw [firstWith, hfirst, hversion]
            rfl
          rw [hrun]
          rcases ih hrest hsorted with ⟨hnothing, hnone⟩ | ⟨chosen, hmem, location, hchosen⟩
          · exact .inl ⟨hnothing, List.forall_mem_cons.mpr ⟨hversion, hnone⟩⟩
          · refine .inr ⟨chosen, List.mem_cons_of_mem _ hmem, location, hchosen.1, hchosen.2.1,
              fun other hother hsome => ?_⟩
            rcases List.mem_cons.mp hother with rfl | hother
            · exact absurd hversion hsome
            · exact hchosen.2.2 other hother hsome

/-! ## Looking up -/

/-- The directory of a version of the library is installed. -/
def Installed (host : Host) (place : Bundle) (library version : String) : Prop :=
  (place.below [library]).HoldsDirectory host.files version

/-- Every installed version has a key, and a name that can stand in a path. -/
def VersionsHaveKeys (host : Host) (place : Bundle) : Prop :=
  ∀ library version, IsSafe library → Installed host place library version →
    IsSafe version ∧ ∃ key, VersionKey.read version = .ok key

/-- The fault of a library that cannot be listed. -/
def listingFault (store : WebjarStore) (library : String) : Fault :=
  .resource ⟨.listing library store.bundle.package store.bundle.base, some (.io .nameTooLong)⟩

/-- The version has the file at the location, and no newer version of the library has one. -/
structure IsNewestWith (store : WebjarStore) (host : Host) (place : Bundle) (library : String)
    (rest : List String) (version : String) (location : Location) : Prop where
  installed : Installed host place library version
  file : store.bundle.FileAt host place (library :: version :: rest) location
  newest : ∀ other location', Installed host place library other →
    store.bundle.FileAt host place (library :: other :: rest) location' → ¬ IsNewer other version

/-- What is promised of the outcome of a lookup. -/
structure FindsNewest (store : WebjarStore) (host : Host) (place : Bundle) (path : String)
    (outcome : Except Fault (Option Location)) : Prop where
  refused : segments? path = none ∨ segments? path = some [] → outcome = .ok none
  /-- A file that the path names with its version is found there. -/
  exact : ∀ segments location, segments? path = some segments → segments ≠ [] →
    store.bundle.FileAt host place segments location → outcome = .ok (some location)
  alone : ∀ name, segments? path = some [name] →
    (∀ location, ¬ store.bundle.FileAt host place [name] location) → outcome = .ok none
  /-- Any other path leads to the newest version that has the file, or to nothing if none does. -/
  newest : ∀ library rest, segments? path = some (library :: rest) → rest ≠ [] →
    (∀ location, ¬ store.bundle.FileAt host place (library :: rest) location) →
    ¬ (place.below [library]).IsOverlong host.files →
      (∃ version location, outcome = .ok (some location) ∧
        store.IsNewestWith host place library rest version location) ∨
      outcome = .ok none ∧ ∀ version location, Installed host place library version →
        ¬ store.bundle.FileAt host place (library :: version :: rest) location
  /-- A library that has too long a path in it cannot be listed, which is a fault. -/
  overlong : ∀ library rest, segments? path = some (library :: rest) → rest ≠ [] →
    (∀ location, ¬ store.bundle.FileAt host place (library :: rest) location) →
    (place.below [library]).IsOverlong host.files → outcome = .error (store.listingFault library)

section

variable (hroot : store.bundle.root host = .ok place) (hsound : place.IsSound host.files)
  (hversions : VersionsHaveKeys host place)

include hroot hsound hversions

theorem versions_outcome (hlibrary : IsSafe library) :
    (¬ (place.below [library]).IsOverlong host.files ∧ ∃ sorted,
        store.versions host library = .ok sorted ∧
          (∀ version, version ∈ sorted ↔ Installed host place library version) ∧
          sorted.Pairwise fun version older => ¬ IsNewer older version) ∨
      (place.below [library]).IsOverlong host.files ∧
        store.versions host library = .error (store.listingFault library) := by
  have hsafe : ∀ segment ∈ [library], IsSafe segment := by simpa using hlibrary
  have hnames : store.versionNames host library =
      ((place.below [library]).list host.files).mapError fun fault => .resource
        ⟨.listing library store.bundle.package store.bundle.base, some (.io fault)⟩ := by
    simp only [versionNames, hroot, bind, Except.bind, Bundle.appendAll_eq hsound hsafe]
    split
    next names hlisted =>
      have hlist : (place.below [library]).list host.files = .ok names := hlisted
      rw [hlist]
      rfl
    next fault hlisted =>
      have hlist : (place.below [library]).list host.files = .error fault := hlisted
      rw [hlist]
      rfl
  have hnamed (name : String) (hname : (place.below [library]).HoldsDirectory host.files name) :
      IsSafe name := (hversions library name hlibrary hname).1
  rcases Bundle.list_outcome hsound hsafe hnamed with
    ⟨hshort, names, hlist, hmem⟩ | ⟨hlong, hlist⟩
  · rw [hlist] at hnames
    obtain ⟨sorted, hsorted, hperm, hpairwise⟩ := newestFirst_outcome fun name hname =>
      (hversions library name hlibrary ((hmem name).mp hname)).2
    refine .inl ⟨hshort, sorted, ?_, fun version => hperm.mem_iff.trans (hmem version), hpairwise⟩
    rw [versions, hnames]
    exact hsorted
  · rw [hlist] at hnames
    refine .inr ⟨hlong, ?_⟩
    rw [versions, hnames]
    rfl

/-- A library that can be listed is searched for the newest version with the file. -/
theorem newestWith_outcome (hsegments : segments? path = some (library :: rest)) (hne : rest ≠ [])
    (hshort : ¬ (place.below [library]).IsOverlong host.files) :
    (∃ version location, store.newestWith host path = .ok (some (version, location)) ∧
        store.IsNewestWith host place library rest version location) ∨
      store.newestWith host path = .ok none ∧ ∀ version location,
        Installed host place library version →
          ¬ store.bundle.FileAt host place (library :: version :: rest) location := by
  obtain ⟨hlibrary, hrest⟩ := List.forall_mem_cons.mp (isSafe_of_segments? hsegments)
  obtain ⟨-, sorted, hsorted, hmem, hpairwise⟩ :=
    (versions_outcome hroot hsound hversions hlibrary).resolve_right fun hlong => hshort hlong.1
  have hrun : store.newestWith host path = store.firstWith host library rest sorted := by
    obtain ⟨name, rest, rfl⟩ := List.exists_cons_of_ne_nil hne
    rw [newestWith, hsegments]
    dsimp only
    rw [hsorted]
    rfl
  have hsafe (version : String) (hversion : version ∈ sorted) :
      ∀ segment ∈ library :: version :: rest, IsSafe segment :=
    List.forall_mem_cons.mpr ⟨hlibrary, List.forall_mem_cons.mpr
      ⟨(hversions library version hlibrary ((hmem version).mp hversion)).1, hrest⟩⟩
  -- joined to a path and split again, the segments are looked up as they are
  let found (version : String) : Option Location :=
    (store.bundle.locate host (library :: version :: rest)).toOption.join
  have hfound : ∀ version ∈ sorted, store.bundle.find host
      (Text.join "/" (library :: version :: rest)) = .ok (found version) ∧
        ∀ location, found version = some location ↔
          store.bundle.FileAt host place (library :: version :: rest) location := by
    intro version hversion
    rw [PackageStore.find_of_segments? (segments?_join (hsafe version hversion))
      (List.cons_ne_nil _ _)]
    rcases PackageStore.locate_outcome hroot hsound (hsafe version hversion) with
      ⟨location, hfile, hlocate⟩ | ⟨hnone, hlocate⟩
    · simp only [found, hlocate]
      refine ⟨rfl, fun other => ⟨?_, fun hother => congrArg some (hother.unique hfile)⟩⟩
      rintro ⟨⟩
      exact hfile
    · simp only [found, hlocate]
      exact ⟨rfl, fun other => iff_of_false nofun (hnone other)⟩
  rw [hrun]
  rcases firstWith_outcome (fun version hversion => (hfound version hversion).1) hpairwise with
    ⟨hnothing, hnone⟩ | ⟨version, hversion, location, hchosen, hlocation, hnewest⟩
  · refine .inr ⟨hnothing, fun version location hinstalled hfile => ?_⟩
    have hversion := (hmem version).mpr hinstalled
    rw [← (hfound version hversion).2, hnone version hversion] at hfile
    cases hfile
  · refine .inl ⟨version, location, hchosen, (hmem version).mp hversion,
      ((hfound version hversion).2 location).mp hlocation, fun other location' hother hfile => ?_⟩
    have hmemOther := (hmem other).mpr hother
    rw [← (hfound other hmemOther).2] at hfile
    exact hnewest other hmemOther (by simp [hfile])

theorem newestWith_of_overlong (hsegments : segments? path = some (library :: rest))
    (hne : rest ≠ []) (hlong : (place.below [library]).IsOverlong host.files) :
    store.newestWith host path = .error (store.listingFault library) := by
  have hlibrary := (List.forall_mem_cons.mp (isSafe_of_segments? hsegments)).1
  obtain ⟨-, hversions⟩ := (versions_outcome hroot hsound hversions hlibrary).resolve_left
    fun hshort => hshort.1 hlong
  obtain ⟨name, rest, rfl⟩ := List.exists_cons_of_ne_nil hne
  rw [newestWith, hsegments]
  dsimp only
  rw [hversions]
  rfl

omit hversions in
theorem outcome_of_not_fileAt {segments : List String} (hsegments : segments? path = some segments)
    (hne : segments ≠ [])
    (hnone : ∀ location, ¬ store.bundle.FileAt host place segments location) :
    (store.lookup host path).outcome =
      (store.newestWith host path).map fun choice => choice.map (·.2) := by
  have hfind : store.bundle.find host path = .ok none := by
    rw [PackageStore.find_of_segments? hsegments hne]
    rcases PackageStore.locate_outcome hroot hsound (isSafe_of_segments? hsegments) with
      ⟨location, hfile, -⟩ | ⟨-, hlocate⟩
    · exact absurd hfile (hnone location)
    · exact hlocate
  rw [lookup, hfind]
  rcases store.newestWith host path with fault | _ | ⟨version, location⟩ <;> rfl

theorem findsNewest_lookup :
    store.FindsNewest host place path (store.lookup host path).outcome := by
  constructor
  case refused =>
    intro hsegments
    rw [lookup, PackageStore.find_of_no_segments hsegments]
    rcases hsegments with hnone | hempty
    · simp [newestWith, hnone, Lookup.silent]
    · simp [newestWith, hempty, Lookup.silent]
  case exact =>
    intro segments location hsegments hne hfile
    have hfind : store.bundle.find host path = .ok (some location) := by
      rw [PackageStore.find_of_segments? hsegments hne]
      rcases PackageStore.locate_outcome hroot hsound (isSafe_of_segments? hsegments) with
        ⟨other, hother, hlocate⟩ | ⟨hnone, -⟩
      · rw [hlocate, hfile.unique hother]
      · exact absurd hfile (hnone location)
    rw [lookup, hfind]
    rfl
  case alone =>
    intro name hsegments hnone
    rw [outcome_of_not_fileAt hroot hsound hsegments (List.cons_ne_nil _ _) hnone, newestWith,
      hsegments]
    rfl
  case newest =>
    intro library rest hsegments hne hnone hshort
    rw [outcome_of_not_fileAt hroot hsound hsegments (List.cons_ne_nil _ _) hnone]
    rcases newestWith_outcome hroot hsound hversions hsegments hne hshort with
      ⟨version, location, hchosen, hnewest⟩ | ⟨hnothing, hnoFile⟩
    · exact .inl ⟨version, location, by rw [hchosen]; rfl, hnewest⟩
    · exact .inr ⟨by rw [hnothing]; rfl, hnoFile⟩
  case overlong =>
    intro library rest hsegments hne hnone hlong
    rw [outcome_of_not_fileAt hroot hsound hsegments (List.cons_ne_nil _ _) hnone,
      newestWith_of_overlong hroot hsound hversions hsegments hne hlong]
    rfl

end

/-! ## The order of listing -/

/-- No two installed versions of a library have the same key. -/
def DistinctKeys (host : Host) (place : Bundle) : Prop :=
  ∀ library version other, IsSafe library → Installed host place library version →
    Installed host place library other → VersionKey.read version = VersionKey.read other →
      version = other

/-- What is promised of an outcome leaves one outcome only, in whatever order versions are listed,
as long as their keys tell them apart. -/
theorem FindsNewest.outcome_eq {other : Host} {twin : Bundle}
    {outcome outcome' : Except Fault (Option Location)}
    (hfinds : store.FindsNewest host place path outcome)
    (hother : store.FindsNewest other twin path outcome')
    (hreordered : Bundle.Reordered host.files other.files place twin)
    (hversions : VersionsHaveKeys host place)
    (hdistinct : DistinctKeys host place) : outcome' = outcome := by
  have hfile {segments : List String} {location : Location} :
      store.bundle.FileAt other twin segments location ↔
        store.bundle.FileAt host place segments location :=
    PackageStore.fileAt_of_reordered hreordered
  have hinstalled {library version : String} :
      Installed other twin library version ↔ Installed host place library version :=
    ⟨(hreordered.below [library]).symm.holdsDirectory, (hreordered.below [library]).holdsDirectory⟩
  have hoverlong {library : String} : (twin.below [library]).IsOverlong other.files ↔
      (place.below [library]).IsOverlong host.files :=
    ⟨(hreordered.below [library]).symm.isOverlong, (hreordered.below [library]).isOverlong⟩
  rcases hsegments : segments? path with _ | _ | ⟨library, rest⟩
  · rw [hfinds.refused (.inl hsegments), hother.refused (.inl hsegments)]
  · rw [hfinds.refused (.inr hsegments), hother.refused (.inr hsegments)]
  by_cases hexact : ∃ location, store.bundle.FileAt host place (library :: rest) location
  · obtain ⟨location, hlocation⟩ := hexact
    rw [hfinds.exact _ _ hsegments (List.cons_ne_nil _ _) hlocation,
      hother.exact _ _ hsegments (List.cons_ne_nil _ _) (hfile.mpr hlocation)]
  have hnone : ∀ location, ¬ store.bundle.FileAt host place (library :: rest) location :=
    fun location hlocation => hexact ⟨location, hlocation⟩
  have hnone' : ∀ location, ¬ store.bundle.FileAt other twin (library :: rest) location :=
    fun location hlocation => hnone location (hfile.mp hlocation)
  by_cases hne : rest = []
  · subst hne
    rw [hfinds.alone _ hsegments hnone, hother.alone _ hsegments hnone']
  by_cases hlong : (place.below [library]).IsOverlong host.files
  · rw [hfinds.overlong _ _ hsegments hne hnone hlong,
      hother.overlong _ _ hsegments hne hnone' (hoverlong.mpr hlong)]
  rcases hfinds.newest _ _ hsegments hne hnone hlong with
      ⟨version, location, houtcome, hnewest⟩ | ⟨houtcome, hnothing⟩ <;>
    rcases hother.newest _ _ hsegments hne hnone' (mt hoverlong.mp hlong) with
      ⟨version', location', houtcome', hnewest'⟩ | ⟨houtcome', hnothing'⟩
  · have hthere := hinstalled.mp hnewest'.installed
    have hlibrary := (List.forall_mem_cons.mp (isSafe_of_segments? hsegments)).1
    have hsame : version = version' := by
      refine hdistinct library _ _ hlibrary hnewest.installed hthere (read_eq_of_not_isNewer
        (hversions _ _ hlibrary hnewest.installed).2 (hversions _ _ hlibrary hthere).2 ?_ ?_)
      · exact hnewest'.newest _ location (hinstalled.mpr hnewest.installed)
          (hfile.mpr hnewest.file)
      · exact hnewest.newest _ location' hthere (hfile.mp hnewest'.file)
    subst hsame
    rw [houtcome, houtcome', (hfile.mp hnewest'.file).unique hnewest.file]
  · exact absurd (hfile.mpr hnewest.file) (hnothing' _ _ (hinstalled.mpr hnewest.installed))
  · exact absurd (hfile.mp hnewest'.file) (hnothing _ _ (hinstalled.mp hnewest'.installed))
  · rw [houtcome, houtcome']

/-- A lookup in a package tree without faults finds the newest version that has the file, by an
order of versions that compares their numbers, and it finds the same one in whatever order versions
are listed if their keys tell them apart. It fails only where a library has too long a path in it.
-/
theorem lookup_newest (hroot : store.bundle.root host = .ok place)
    (hsound : place.IsSound host.files) (hversions : VersionsHaveKeys host place) (path : String) :
    store.FindsNewest host place path (store.lookup host path).outcome ∧
      VersionKey.OrdersVersions ∧
      (DistinctKeys host place → ∀ other twin, store.bundle.root other = .ok twin →
        Bundle.Reordered host.files other.files place twin →
          (store.lookup other path).outcome = (store.lookup host path).outcome) := by
  have hfinds : store.FindsNewest host place path (store.lookup host path).outcome :=
    findsNewest_lookup hroot hsound hversions
  refine ⟨hfinds, VersionKey.ordersVersions, fun hdistinct other twin hother hreordered => ?_⟩
  have hversions' : VersionsHaveKeys other twin := fun library version hlibrary hinstalled =>
    hversions library version hlibrary
      ((hreordered.below [library]).symm.holdsDirectory hinstalled)
  exact hfinds.outcome_eq (findsNewest_lookup hother (hreordered.isSound hsound) hversions')
    hreordered hversions hdistinct

/-! ## A package with one library -/

/-- The place of libraries in the package `demo` of a tree. -/
def demoPath : FilePath := ["site", "demo", "webjars"]

theorem isSafe_demoPath : ∀ name ∈ demoPath, IsSafe name := by decide +kernel

/-- A host with a package whose one library has the given versions. -/
def demoHost (versions : List (String × Node)) : Host where
  files.root := .directory [("site", .directory [("demo", .directory
    [("__init__.py", .file [] 0), ("webjars", .directory [("lib", .directory versions)])])])]
  sources := [.unpacked ["site"]]

section

variable {entries : List (String × Node)}

theorem root_demo : (ofPackage "demo" "webjars").bundle.root (demoHost entries) =
    .ok (.unpacked demoPath) := rfl

theorem isSound_demo (hlinks : (demoHost entries).files.root.linkCount = 0) :
    (Bundle.unpacked demoPath).IsSound (demoHost entries).files :=
  Bundle.isSound_of_no_links hlinks isSafe_demoPath

theorem mem_of_installed_demo (hlinks : (demoHost entries).files.root.linkCount = 0)
    (hlibrary : IsSafe library)
    (hinstalled : Installed (demoHost entries) (.unpacked demoPath) library version) :
    version ∈ entries.map (·.1) := by
  obtain ⟨inside, hfind, hversion, -⟩ := hinstalled
  have hsafe : ∀ name ∈ demoPath ++ [library], IsSafe name :=
    List.forall_mem_append.mpr ⟨isSafe_demoPath, by simpa using hlibrary⟩
  have hnode := ((FileTree.find_eq_ok_iff (Bundle.isSettled_of_no_links hlinks hsafe) _).mp
    hfind).node?_eq
  have hlibraries : (demoHost entries).files.node? demoPath =
      some (.directory [("lib", .directory entries)]) := rfl
  rw [FileTree.node?_append, hlibraries, Option.bind_some, Node.at?, Node.child?] at hnode
  rw [List.lookup_cons] at hnode
  split at hnode
  next =>
    obtain ⟨⟩ := hnode
    exact hversion
  next => cases hnode

theorem reordered_demo {others : List (String × Node)} (hperm : others.Perm entries)
    (hnodup : (others.map (·.1)).Nodup) :
    Bundle.Reordered (demoHost entries).files (demoHost others).files
      (.unpacked demoPath) (.unpacked demoPath) := by
  have hlibraries := Node.Alike.below (.of_perm hperm hnodup) [] [] "lib"
  have hpackage := Node.Alike.below hlibraries [("__init__.py", .file [] 0)] [] "webjars"
  exact .unpacked (.below (.below hpackage [] [] "demo") [] [] "site")

end

/-- Two versions, the older one first. -/
def twoVersions : List (String × Node) :=
  [("1.9", .directory [("x.js", .file [49] 0)]), ("1.10", .directory [("x.js", .file [50] 0)])]

theorem versionsHaveKeys_twoVersions :
    VersionsHaveKeys (demoHost twoVersions) (.unpacked demoPath) := by
  intro library version hlibrary hinstalled
  have hversion : version ∈ ["1.9", "1.10"] := mem_of_installed_demo rfl hlibrary hinstalled
  rcases List.mem_pair.mp hversion with rfl | rfl
  · exact ⟨by decide +kernel, [.number 1, .number 9], by decide +kernel⟩
  · exact ⟨by decide +kernel, [.number 1, .number 10], by decide +kernel⟩

theorem distinctKeys_twoVersions : DistinctKeys (demoHost twoVersions) (.unpacked demoPath) := by
  intro library version other hlibrary hversion hother
  have hdistinct : ∀ name ∈ twoVersions.map (·.1), ∀ other ∈ twoVersions.map (·.1),
      VersionKey.read name = VersionKey.read other → name = other := by decide +kernel
  exact hdistinct _ (mem_of_installed_demo rfl hlibrary hversion) _
    (mem_of_installed_demo rfl hlibrary hother)

theorem lookup_newest_twoVersions :
    (ofPackage "demo" "webjars").FindsNewest (demoHost twoVersions) (.unpacked demoPath) "lib/x.js"
        ((ofPackage "demo" "webjars").lookup (demoHost twoVersions) "lib/x.js").outcome ∧
      ((ofPackage "demo" "webjars").lookup (demoHost twoVersions.reverse) "lib/x.js").outcome =
        ((ofPackage "demo" "webjars").lookup (demoHost twoVersions) "lib/x.js").outcome := by
  obtain ⟨hfinds, -, horder⟩ := lookup_newest root_demo (isSound_demo rfl)
    versionsHaveKeys_twoVersions "lib/x.js"
  exact ⟨hfinds, horder distinctKeys_twoVersions _ _ root_demo
    (reordered_demo (List.reverse_perm _) (by decide +kernel))⟩

/-- A name that is too long for the file system. -/
def longName : String := String.ofList (List.replicate 256 'a')

theorem maxName_lt_longName : FileTree.maxName < longName.utf8ByteSize := by decide +kernel

theorem isSafe_longName : IsSafe longName := isSafe_ofList_iff.mpr (by decide +kernel)

theorem find_longName :
    (demoHost twoVersions).files.find (demoPath ++ [longName]) = .error .nameTooLong := by
  have hwalk : (demoHost twoVersions).files.walk [] (demoPath ++ [longName]) =
      .failed .nameTooLong := by
    simp [demoPath, demoHost, FileTree.walk, FileTree.node?, Node.at?, Node.child?,
      FilePath.isVoid, List.lookup_cons, isSafe_longName.ne_empty, isSafe_longName.ne_dot,
      isSafe_longName.ne_up, maxName_lt_longName]
  rw [FileTree.find, FileTree.reach, hwalk]
  split <;> rfl

/-- A library with too long a name makes a lookup fail, although there are no versions of it. -/
theorem not_lookup_complete : ¬ ∀ (store : WebjarStore) (host : Host) (place : Bundle)
    (path : String), store.bundle.root host = .ok place → place.IsSound host.files →
      VersionsHaveKeys host place → ∃ found, (store.lookup host path).outcome = .ok found := by
  intro hcomplete
  have hsafe : ∀ segment ∈ [longName, "x.js"], IsSafe segment :=
    List.forall_mem_cons.mpr ⟨isSafe_longName, by decide +kernel⟩
  have hsound : (Bundle.unpacked demoPath).IsSound (demoHost twoVersions).files :=
    isSound_demo rfl
  have hnoFile : ∀ location, ¬ (ofPackage "demo" "webjars").bundle.FileAt (demoHost twoVersions)
      (.unpacked demoPath) [longName, "x.js"] location := by
    rintro location ⟨⟨data, modified, hfind⟩, -⟩
    have hsettled : FileTree.IsSettled (demoHost twoVersions).files
        (demoPath ++ [longName, "x.js"]) :=
      Bundle.isSettled_of_no_links rfl (List.forall_mem_append.mpr ⟨isSafe_demoPath, hsafe⟩)
    have hshort := ((FileTree.find_eq_ok_iff hsettled _).mp hfind).names_short longName (by simp)
    exact absurd hshort (Nat.not_le_of_lt maxName_lt_longName)
  have hfails := (findsNewest_lookup root_demo hsound versionsHaveKeys_twoVersions).overlong
    longName ["x.js"] (segments?_join hsafe) (List.cons_ne_nil _ _) hnoFile (.inl find_longName)
  obtain ⟨found, hfound⟩ := hcomplete _ _ _ _ root_demo hsound versionsHaveKeys_twoVersions
  cases hfound.symm.trans hfails

end VersionedAssets.WebjarStore
