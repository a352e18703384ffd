import VersionedAssets.Proofs.Bundle
import VersionedAssets.Proofs.Store.Directory
import VersionedAssets.Proofs.Store.Package

/-! # Two stores of one directory

The files below a directory of an unpacked package are served by a package store and by a store of
that directory. Without links in the file tree both find the same, unless the package has no mark
and is entered by several names at once: then the package store fails.
-/

namespace VersionedAssets

open FilePath FileTree ResourcePath

variable {files : FileTree} {root settled : FilePath} {base segments : List String} {path : String}

/-! ## What lookups find -/

namespace Lookup

/-- Both lookups found nothing, or both found a file: of the same URI and name, with the same
last-modified time and the same content. -/
inductive Agree (files : FileTree) :
    Except Fault (Option Location) → Except Fault (Option Location) → Prop
  | nothing : Agree files (.ok none) (.ok none)
  | found {first second : Location} {time : Int} {stream : Stream} (huri : first.uri = second.uri)
      (hfilename : first.filename = second.filename)
      (htime : first.lastModified files = .ok time ∧ second.lastModified files = .ok time)
      (hstream : first.open? files = .ok stream ∧ second.open? files = .ok stream) :
      Agree files (.ok (some first)) (.ok (some second))

/-- The outcome is the location of the file at the path, or nothing if no file is there. -/
inductive FindsAt (files : FileTree) (settled : FilePath) : Except Fault (Option Location) → Prop
  | file {data : Bytes} {modified : Int} (hstands : Stands files settled (.file data modified)) :
      FindsAt files settled (.ok (some (Location.ofPath settled)))
  | nothing (hnone : ∀ data modified, ¬ Stands files settled (.file data modified)) :
      FindsAt files settled (.ok none)

variable {first second : Except Fault (Option Location)}

theorem not_agree_error {fault : Fault} : ¬ Agree files first (.error fault) := nofun

theorem FindsAt.exists_ok (hfinds : FindsAt files settled first) :
    ∃ found, first = .ok found := by
  cases hfinds with
  | file _ => exact ⟨_, rfl⟩
  | nothing _ => exact ⟨_, rfl⟩

theorem FindsAt.agree (hsettled : IsSettled files settled) (hne : settled ≠ [])
    (hfirst : FindsAt files settled first) (hsecond : FindsAt files settled second) :
    Agree files first second := by
  cases hfirst with
  | file hstands =>
      cases hsecond with
      | file _ =>
          obtain ⟨-, -, data, modified, -, htime, hstream⟩ :=
            DirectoryStore.isFileAt_ofPath hsettled hne hstands
          exact .found rfl rfl ⟨htime, htime⟩ ⟨hstream, hstream⟩
      | nothing hnone => exact absurd hstands (hnone _ _)
  | nothing hnone =>
      cases hsecond with
      | file hstands => exact absurd hstands (hnone _ _)
      | nothing _ => exact .nothing

end Lookup

open Lookup

/-! ## The directory -/

namespace DirectoryStore

theorem ofPath_render {entries : List (String × Node)} (hlinks : files.root.linkCount = 0)
    (hroot : ∀ name ∈ root, IsEntryName name)
    (hdirectory : files.find root = .ok (.directory entries)) :
    ofPath files (render root) = .ok ⟨root⟩ := by
  have hsettled : IsSettled files ([] ++ root) := isSettled_of_isEntryName hlinks hroot
  have hthere : Bundle.isTreeDirectory files root = .ok true :=
    Bundle.isTreeDirectory_eq_true_iff.mpr ⟨any_nul_of_isEntryName hroot, entries, hdirectory⟩
  simp [ofPath, holds_nul_render hroot, names_render hroot, settle_of_settles hsettled.settles,
    hthere]

/-- Settling does not change a path without links, so the store looks at the path itself. -/
theorem findsAt_lookup (hlinks : files.root.linkCount = 0)
    (hpath : ∀ name ∈ root ++ segments, IsEntryName name)
    (hsegments : nonEmptySegments? path = some segments) :
    FindsAt files (root ++ segments) ((⟨root⟩ : DirectoryStore).lookup files path).outcome := by
  obtain ⟨hfound, hne⟩ := nonEmptySegments?_eq_some_iff.mp hsegments
  have hsettled : IsSettled files ([] ++ (root ++ segments)) :=
    isSettled_of_isEntryName hlinks hpath
  have hbelow : root <+: root ++ segments := List.prefix_append _ _
  have hleads : (⟨root⟩ : DirectoryStore).Leads files path (root ++ segments) :=
    ⟨segments, hfound, hne, hsettled.settles⟩
  rcases lookup_of_leads (hsettled.of_front hbelow) hleads with
    ⟨-, ⟨data, modified, hstands⟩, houtcome⟩ | ⟨hnothing, houtcome⟩
  · rw [houtcome]
    exact .file hstands
  · rw [houtcome]
    exact .nothing fun data modified hstands => hnothing ⟨hbelow, data, modified, hstands⟩

end DirectoryStore

/-! ## The package -/

namespace Bundle

variable {bundle : Bundle} {directory : FilePath}

/-- The files of the package are in the directory. -/
inductive InDirectory : Bundle → FilePath → Prop
  | marked (directory : FilePath) : InDirectory (unpacked directory) directory
  | unmarked (directory : FilePath) : InDirectory (unmarked directory) directory

/-- The names that a package is entered by at once: those of the base directory, or those of the
resource if there is no base directory. -/
def entered (base segments : List String) : List String := if base = [] then segments else base

/-- A package without a mark is entered by several names at once. -/
def Stumbles (bundle : Bundle) (base : List String) (path : String) : Prop :=
  (∃ directory, bundle = unmarked directory) ∧
    ∃ segments, nonEmptySegments? path = some segments ∧ (entered base segments).length ≠ 1

theorem appendAll_unmarked {texts : List String} (htexts : texts.length ≠ 1) :
    (unmarked directory).appendAll texts = .error (.mistyped (.steps texts.length)) := by
  match texts, htexts with
  | [], _ => rfl
  | [_], hone => exact absurd rfl hone
  | _ :: _ :: _, _ => rfl

/-- A package that does not stumble leads to the path of the segments below its base directory. -/
theorem exists_appendAll_of_entered (hbundle : bundle.InDirectory directory)
    (hnames : ∀ name ∈ base ++ segments, IsEntryName name)
    (hentered : (∃ directory, bundle = unmarked directory) → (entered base segments).length = 1) :
    ∃ place, (if base = [] then .ok bundle else bundle.appendAll base) = .ok place ∧
      place.appendAll segments = .ok (unpacked (directory ++ base ++ segments)) := by
  obtain ⟨hbase, hsegments⟩ := List.forall_mem_append.mp hnames
  cases hbundle with
  | marked =>
      refine ⟨unpacked (directory ++ base), ?_, ?_⟩
      · split
        next hempty => rw [hempty, List.append_nil]
        next => rw [appendAll, foldl_append_of_isEntryName hbase]
      · rw [appendAll, foldl_append_of_isEntryName hsegments]
  | unmarked =>
      -- a single name leads from the package to an ordinary path, which is gone on from as usual
      have hone := hentered ⟨_, rfl⟩
      unfold entered at hone
      split at hone
      next hempty =>
        obtain ⟨segment, rfl⟩ := List.length_eq_one_iff.mp hone
        refine ⟨unmarked directory, by rw [if_pos hempty], ?_⟩
        rw [appendAll, append_of_isEntryName (hsegments segment List.mem_cons_self), hempty,
          List.append_nil]
      next hfilled =>
        obtain ⟨name, rfl⟩ := List.length_eq_one_iff.mp hone
        refine ⟨unpacked (directory ++ [name]), ?_, ?_⟩
        · rw [if_neg hfilled, appendAll, append_of_isEntryName (hbase name List.mem_cons_self)]
        · rw [appendAll, foldl_append_of_isEntryName hsegments]

end Bundle

namespace PackageStore

variable {host : Host} {store : PackageStore} {bundle place : Bundle} {package : String}
  {directory : FilePath}

/-- The store of a package below the base directory with the given names on the way to it. -/
def ofNames (package : String) (base : List String) : PackageStore :=
  ofPackage package (Text.join "/" base)

/-- What looking segments up comes to when they lead to a path of the file tree. -/
theorem findsAt_locate (hlinks : host.files.root.linkCount = 0)
    (hsettled : ∀ name ∈ settled, IsEntryName name) (hroot : store.root host = .ok place)
    (happend : place.appendAll segments = .ok (.unpacked settled)) :
    FindsAt host.files settled (store.locate host segments) := by
  have hplain := any_nul_of_isEntryName hsettled
  rcases isRegularFile_of_isSettled (isSettled_of_isEntryName hlinks hsettled) with
    ⟨⟨data, modified, hstands⟩, hregular⟩ | ⟨hnone, hregular⟩
  · have hlocate : store.locate host segments = .ok (some (Location.ofPath settled)) := by
      simp [locate, hroot, happend, Bundle.isFile, hplain, hregular, bind, Except.bind, pure,
        Except.pure, Except.mapError, Bundle.location]
    rw [hlocate]
    exact .file hstands
  · have hlocate : store.locate host segments = .ok none := by
      simp [locate, hroot, happend, Bundle.isFile, hplain, hregular, bind, Except.bind, pure,
        Except.pure, Except.mapError]
    rw [hlocate]
    exact .nothing hnone

theorem root_ofNames (hpackage : host.package package = .ok bundle)
    (hbase : ∀ name ∈ base, IsEntryName name) :
    (ofNames package base).root host = if base = [] then .ok bundle else bundle.appendAll base := by
  have hbundle : (ofNames package base).bundle host = .ok bundle := hpackage
  have htrimmed : (ofNames package base).base = Text.join "/" base := trimSlashes_join hbase
  rw [root, hbundle, htrimmed]
  by_cases hne : base = []
  · rw [if_pos hne, hne]
    rfl
  · have hpieces := pieces_join hne hbase
    have hfilled : (Text.join "/" base).isEmpty = false := by
      rw [← Bool.not_eq_true, String.isEmpty_iff]
      intro hempty
      rw [hempty] at hpieces
      have hmem : "" ∈ base := hpieces ▸ (by decide : "" ∈ Text.pieces '/' "")
      exact (hbase "" hmem).ne_empty rfl
    rw [if_neg hne, hpieces, hfilled]
    rfl

/-- A package that stumbles is not entered. -/
theorem locate_of_stumbles (hpackage : host.package package = .ok (.unmarked directory))
    (hbase : ∀ name ∈ base, IsEntryName name)
    (hentered : (Bundle.entered base segments).length ≠ 1) :
    (ofNames package base).locate host segments =
      .error (.mistyped (.steps (Bundle.entered base segments).length)) := by
  have hroot := root_ofNames hpackage hbase
  unfold Bundle.entered at hentered ⊢
  split at hentered
  next hempty =>
    rw [if_pos hempty] at hroot
    simp only [locate, hroot, bind, Except.bind, Bundle.appendAll_unmarked hentered, if_pos hempty]
  next hfilled =>
    rw [if_neg hfilled, Bundle.appendAll_unmarked hentered] at hroot
    simp only [locate, hroot, bind, Except.bind, if_neg hfilled]

/-- A lookup agrees with what is at the path of the segments unless the package stumbles. -/
theorem agree_find_iff {first : Except Fault (Option Location)}
    (hpackage : host.package package = .ok bundle) (hbundle : bundle.InDirectory directory)
    (hlinks : host.files.root.linkCount = 0) (hbase : ∀ name ∈ base, IsEntryName name)
    (hpath : ∀ name ∈ directory ++ base ++ segments, IsEntryName name)
    (hsegments : nonEmptySegments? path = some segments)
    (hfirst : FindsAt host.files (directory ++ base ++ segments) first) :
    Agree host.files first ((ofNames package base).find host path) ↔
      ¬ bundle.Stumbles base path := by
  obtain ⟨-, hne⟩ := nonEmptySegments?_eq_some_iff.mp hsegments
  have hfind : (ofNames package base).find host path =
      (ofNames package base).locate host segments := by
    rw [find, hsegments]
  rw [hfind]
  by_cases hentered : (∃ directory, bundle = .unmarked directory) →
      (Bundle.entered base segments).length = 1
  · have hsteady : ¬ bundle.Stumbles base path := by
      rintro ⟨hunmarked, segments', hsegments', hmany⟩
      obtain rfl := Option.some.inj (hsegments.symm.trans hsegments')
      exact hmany (hentered hunmarked)
    obtain ⟨place, hroot, happend⟩ := Bundle.exists_appendAll_of_entered hbundle
      (List.forall_mem_append.mpr ⟨hbase, (List.forall_mem_append.mp hpath).2⟩) hentered
    rw [← root_ofNames hpackage hbase] at hroot
    have hsecond := findsAt_locate hlinks hpath hroot happend
    refine iff_of_true (hfirst.agree (isSettled_of_isEntryName hlinks hpath) ?_ hsecond) hsteady
    exact List.append_ne_nil_of_right_ne_nil _ hne
  · obtain ⟨⟨directory, rfl⟩, hmany⟩ := Classical.not_imp.mp hentered
    rw [locate_of_stumbles hpackage hbase hmany]
    have hstumbles : (Bundle.unmarked directory).Stumbles base path :=
      ⟨⟨directory, rfl⟩, segments, hsegments, hmany⟩
    exact iff_of_false not_agree_error (not_not_intro hstumbles)

end PackageStore

/-! ## Both stores -/

/-- The two stores of a directory agree on every path that the package does not stumble over. The
store of the directory never fails. -/
theorem lookups_agree_iff {host : Host} {package : String} {bundle : Bundle} {directory : FilePath}
    {entries : List (String × Node)} (hpackage : host.package package = .ok bundle)
    (hbundle : bundle.InDirectory directory) (hlinks : host.files.root.linkCount = 0)
    (hnames : ∀ name ∈ directory ++ base, IsEntryName name)
    (hdirectory : host.files.find (directory ++ base) = .ok (.directory entries)) :
    ∃ store, DirectoryStore.ofPath host.files (render (directory ++ base)) = .ok store ∧ ∀ path,
      (∃ found, (store.toStore.lookup host path).outcome = .ok found) ∧
        (Agree host.files (store.toStore.lookup host path).outcome
            ((PackageStore.ofNames package base).toStore.lookup host path).outcome ↔
          ¬ bundle.Stumbles base path) := by
  refine ⟨⟨directory ++ base⟩, DirectoryStore.ofPath_render hlinks hnames hdirectory,
    fun path => ?_⟩
  obtain ⟨-, hbase⟩ := List.forall_mem_append.mp hnames
  have hfirst : ((⟨directory ++ base⟩ : DirectoryStore).toStore.lookup host path).outcome =
    ((⟨directory ++ base⟩ : DirectoryStore).lookup host.files path).outcome := rfl
  have hsecond : ((PackageStore.ofNames package base).toStore.lookup host path).outcome =
    (PackageStore.ofNames package base).find host path := rfl
  rw [hfirst, hsecond]
  cases hsegments : nonEmptySegments? path with
  | none =>
      have hsteady : ¬ bundle.Stumbles base path := by
        rintro ⟨-, segments, hsome, -⟩
        cases hsegments.symm.trans hsome
      have hnothing : (⟨directory ++ base⟩ : DirectoryStore).lookup host.files path =
          .silent (.ok none) := by
        rw [DirectoryStore.lookup, hsegments]
      rw [hnothing, PackageStore.find, hsegments]
      exact ⟨⟨none, rfl⟩, iff_of_true .nothing hsteady⟩
  | some segments =>
      obtain ⟨hsafe, -⟩ := nonEmptySegments?_eq_some_iff.mp hsegments
      have hentries : ∀ name ∈ segments, IsEntryName name := fun name hname =>
        isEntryName_of_isSafe (isSafe_of_segments? hsafe name hname)
      have hpath := List.forall_mem_append.mpr ⟨hnames, hentries⟩
      have hfinds := DirectoryStore.findsAt_lookup hlinks hpath hsegments
      exact ⟨hfinds.exists_ok,
        PackageStore.agree_find_iff hpackage hbundle hlinks hbase hpath hsegments hfinds⟩

/-! ## A package with a mark and one without -/

/-- What is in the directory `public` of the package `demo`. -/
def demoEntries : List (String × Node) := [("app.js", .file [49] 0)]

/-- What is in the directory `public/js` of the package `plain`. -/
def plainEntries : List (String × Node) := [("lib.js", .file [50] 0)]

/-- A host with the packages `demo`, which is marked, and `plain`, which is not. -/
def twoPackages : Host where
  files.root := .directory [("site", .directory [
    ("demo", .directory [("__init__.py", .file [] 0), ("public", .directory demoEntries)]),
    ("plain", .directory [("public", .directory [("js", .directory plainEntries)])])])]
  sources := [.unpacked ["site"]]

theorem lookups_agree_iff_demo :
    twoPackages.package "demo" = .ok (.unpacked ["site", "demo"]) ∧
      (Bundle.unpacked ["site", "demo"]).InDirectory ["site", "demo"] ∧
      twoPackages.files.root.linkCount = 0 ∧
      (∀ name ∈ ["site", "demo"] ++ ["public"], IsEntryName name) ∧
      twoPackages.files.find (["site", "demo"] ++ ["public"]) = .ok (.directory demoEntries) ∧
      ∃ store, DirectoryStore.ofPath twoPackages.files (render (["site", "demo"] ++ ["public"])) =
        .ok store ∧ ∀ path,
          (∃ found, (store.toStore.lookup twoPackages path).outcome = .ok found) ∧
            (Agree twoPackages.files (store.toStore.lookup twoPackages path).outcome
                ((PackageStore.ofNames "demo" ["public"]).toStore.lookup twoPackages path).outcome ↔
              ¬ (Bundle.unpacked ["site", "demo"]).Stumbles ["public"] path) := by
  have hpackage : twoPackages.package "demo" = .ok (.unpacked ["site", "demo"]) := rfl
  have hnames : ∀ name ∈ ["site", "demo"] ++ ["public"], IsEntryName name := by decide +kernel
  have hdirectory : twoPackages.files.find (["site", "demo"] ++ ["public"]) =
      .ok (.directory demoEntries) := rfl
  exact ⟨hpackage, .marked _, rfl, hnames, hdirectory,
    lookups_agree_iff hpackage (.marked _) rfl hnames hdirectory⟩

/-- The base directory `public/js` keeps a package without a mark from being entered. -/
theorem not_lookups_agree : ¬ ∀ (host : Host) (package : String) (bundle : Bundle)
    (directory : FilePath) (base : List String) (entries : List (String × Node))
    (store : DirectoryStore) (path : String),
    host.package package = .ok bundle → bundle.InDirectory directory →
      host.files.root.linkCount = 0 → (∀ name ∈ directory ++ base, IsEntryName name) →
      host.files.find (directory ++ base) = .ok (.directory entries) →
      DirectoryStore.ofPath host.files (render (directory ++ base)) = .ok store →
        Agree host.files (store.toStore.lookup host path).outcome
          ((PackageStore.ofNames package base).toStore.lookup host path).outcome := by
  intro hagree
  have hpackage : twoPackages.package "plain" = .ok (.unmarked ["site", "plain"]) := rfl
  have hnames : ∀ name ∈ ["site", "plain"] ++ ["public", "js"], IsEntryName name := by
    decide +kernel
  have hdirectory : twoPackages.files.find (["site", "plain"] ++ ["public", "js"]) =
      .ok (.directory plainEntries) := rfl
  have hstore := DirectoryStore.ofPath_render rfl hnames hdirectory
  have hboth := hagree twoPackages "plain" _ _ ["public", "js"] _ _ "lib.js" hpackage (.unmarked _)
    rfl hnames hdirectory hstore
  have hfails : ((PackageStore.ofNames "plain" ["public", "js"]).toStore.lookup twoPackages
      "lib.js").outcome = .error (.mistyped (.steps 2)) := rfl
  rw [hfails] at hboth
  exact not_agree_error hboth

end VersionedAssets
