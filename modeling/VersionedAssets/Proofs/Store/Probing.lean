import VersionedAssets.Proofs.Store.Webjar

/-! # How a lookup of a webjar can fail

A lookup asks a file system whether files and directories are at places and what is in them, and any
answer may be a fault. These faults come out as resource faults. What comes out otherwise has other
reasons: a package without a mark that is entered by several names at once or cannot be listed when
it is entered, a NUL in the path of a package, and a version with a part that consists of digits and
is not read as a number.
-/

namespace VersionedAssets

open ResourcePath

/-- The answers that a file system gives about places. Where the files of a package are is none of
them: to find that out, for which an archive is opened, is to import the package. -/
structure Probe where
  /-- A package without a mark is listed whenever it is entered. -/
  enter : FilePath → Except IoFault Unit
  isFile : Bundle → Except IoFault Bool
  isDirectory : Bundle → Except IoFault Bool
  directories : Bundle → Except IoFault (List String)

namespace Probe

/-- The answers of a file tree. -/
def ofFiles (files : FileTree) : Probe where
  enter _ := .ok ()
  isFile
    | .unpacked path => files.isRegularFile path
    | .unmarked _ => .ok false
    | .packed archive place => .ok (archive.isFile place)
    | .faulty isFile => isFile
  isDirectory := Bundle.isDirectory files
  directories := Bundle.directories files

/-- The place that several path texts lead to, one after the other. -/
def follow (probe : Probe) : Bundle → List String → Except Fault Bundle
  | .unmarked path, [text] =>
    ((probe.enter path).mapError Fault.io).map fun _ => .unpacked (path.append text)
  | place, texts => place.appendAll texts

theorem follow_ofFiles (files : FileTree) (place : Bundle) (texts : List String) :
    (ofFiles files).follow place texts = place.appendAll texts := by
  unfold follow
  split
  next => rfl
  next => rfl

/-- Is a file at the place? A path with a NUL in it cannot be asked about. -/
def test (probe : Probe) : Bundle → Except Fault Bool
  | .unpacked path =>
    if path.any (Text.holds (Char.ofNat 0)) then .error (.value .nulInPath)
    else (probe.isFile (.unpacked path)).mapError Fault.io
  | place => (probe.isFile place).mapError Fault.io

theorem test_ofFiles (files : FileTree) (place : Bundle) :
    (ofFiles files).test place = place.isFile files := by
  cases place <;> rfl

end Probe

/-! ## Lookups by the answers of a file system -/

namespace PackageStore

/-- The base directory, by the answers of a file system. -/
def rootBy (store : PackageStore) (probe : Probe) (host : Host) : Except Fault Bundle := do
  let bundle ← store.bundle host
  if store.base.isEmpty then return bundle else probe.follow bundle (Text.pieces '/' store.base)

/-- The location of the file at the end of the segments, by the answers of a file system. -/
def locateBy (store : PackageStore) (probe : Probe) (host : Host) (segments : List String) :
    Except Fault (Option Location) := do
  let place ← probe.follow (← store.rootBy probe host) segments
  match probe.test place with
  | .ok true => return some (place.location (store.uri segments))
  | .ok false => return none
  | .error fault => throw (Location.asResourceFault (.lookup (store.uri segments)) fault)

/-- Looks a path up by the answers of a file system. -/
def findBy (store : PackageStore) (probe : Probe) (host : Host) (path : String) :
    Except Fault (Option Location) :=
  match nonEmptySegments? path with
  | none => .ok none
  | some segments => store.locateBy probe host segments

theorem rootBy_ofFiles (store : PackageStore) (host : Host) :
    store.rootBy (.ofFiles host.files) host = store.root host := by
  simp only [rootBy, root, Probe.follow_ofFiles]

theorem locateBy_ofFiles (store : PackageStore) (host : Host) (segments : List String) :
    store.locateBy (.ofFiles host.files) host segments = store.locate host segments := by
  simp only [locateBy, rootBy_ofFiles, Probe.follow_ofFiles, Probe.test_ofFiles]
  rfl

theorem findBy_ofFiles (store : PackageStore) (host : Host) (path : String) :
    store.findBy (.ofFiles host.files) host path = store.find host path := by
  rw [findBy, find]
  cases nonEmptySegments? path with
  | none => rfl
  | some segments => exact store.locateBy_ofFiles host segments

end PackageStore

namespace WebjarStore

/-- The names of the version directories of a library, by the answers of a file system. -/
def versionNamesBy (store : WebjarStore) (probe : Probe) (host : Host) (library : String) :
    Except Fault (List String) := do
  let place ← probe.follow (← store.bundle.rootBy probe host) [library]
  let listed := do
    if ← probe.isDirectory place then probe.directories place else return []
  match listed with
  | .ok names => return names
  | .error fault =>
    throw (.resource ⟨.listing library store.bundle.package store.bundle.base, some (.io fault)⟩)

/-- The file in the first of the versions that has it, by the answers of a file system. -/
def firstBy (store : WebjarStore) (probe : Probe) (host : Host) (library : String)
    (rest : List String) : List String → Except Fault (Option Location)
  | [] => .ok none
  | version :: older => do
    match ← store.bundle.findBy probe host (Text.join "/" (library :: version :: rest)) with
    | some location => return some location
    | none => store.firstBy probe host library rest older

/-- The file of the newest version that has it, by the answers of a file system. -/
def newestBy (store : WebjarStore) (probe : Probe) (host : Host) (path : String) :
    Except Fault (Option Location) :=
  match segments? path with
  | some (library :: name :: rest) => do
    store.firstBy probe host library (name :: rest)
      (← newestFirst (← store.versionNamesBy probe host library))
  | _ => .ok none

/-- Looks a path up by the answers of a file system. -/
def lookupBy (store : WebjarStore) (probe : Probe) (host : Host) (path : String) :
    Except Fault (Option Location) := do
  match ← store.bundle.findBy probe host path with
  | some location => return some location
  | none => store.newestBy probe host path

theorem versionNamesBy_ofFiles (store : WebjarStore) (host : Host) (library : String) :
    store.versionNamesBy (.ofFiles host.files) host library = store.versionNames host library := by
  simp only [versionNamesBy, PackageStore.rootBy_ofFiles, Probe.follow_ofFiles]
  rfl

theorem firstBy_ofFiles (store : WebjarStore) (host : Host) (library : String)
    (rest versions : List String) :
    store.firstBy (.ofFiles host.files) host library rest versions =
      (store.firstWith host library rest versions).map (·.map (·.2)) := by
  induction versions with
  | nil => rfl
  | cons version older ih =>
      rw [firstBy, firstWith, PackageStore.findBy_ofFiles]
      cases store.bundle.find host (Text.join "/" (library :: version :: rest)) with
      | error fault => rfl
      | ok found =>
          cases found with
          | none => exact ih
          | some location => rfl

theorem newestBy_ofFiles (store : WebjarStore) (host : Host) (path : String) :
    store.newestBy (.ofFiles host.files) host path =
      (store.newestWith host path).map (·.map (·.2)) := by
  unfold newestBy newestWith
  rcases segments? path with _ | _ | ⟨library, _ | ⟨name, rest⟩⟩
  · rfl
  · rfl
  · rfl
  · simp only [versionNamesBy_ofFiles, versions, bind_assoc, firstBy_ofFiles]
    cases store.versionNames host library with
    | error fault => rfl
    | ok names =>
        change (newestFirst names >>= _) = Except.map _ (newestFirst names >>= _)
        cases newestFirst names with
        | error fault => rfl
        | ok sorted => rfl

/-- A lookup goes by the answers of the files of the host. -/
theorem lookupBy_ofFiles (store : WebjarStore) (host : Host) (path : String) :
    store.lookupBy (.ofFiles host.files) host path = (store.lookup host path).outcome := by
  rw [lookupBy, lookup, PackageStore.findBy_ofFiles, newestBy_ofFiles]
  cases store.bundle.find host path with
  | error fault => rfl
  | ok found =>
      cases found with
      | some location => rfl
      | none =>
          change (store.newestWith host path).map _ = _
          rcases store.newestWith host path with fault | _ | ⟨version, location⟩ <;> rfl

end WebjarStore

/-! ## Faults that are declared -/

/-- The outcome is no other fault than a resource fault. -/
def Declared {α : Type} (outcome : Except Fault α) : Prop :=
  ∀ fault, outcome = .error fault → ∃ failure, fault = .resource failure

theorem declared_ok {α : Type} (a : α) : Declared (.ok a : Except Fault α) := nofun

theorem declared_resource {α : Type} (failure : ResourceFault) :
    Declared (.error (.resource failure) : Except Fault α) := by
  rintro _ ⟨⟩
  exact ⟨failure, rfl⟩

theorem not_declared {α : Type} {outcome : Except Fault α} {fault : Fault}
    (houtcome : outcome = .error fault) (hother : ∀ failure, fault ≠ .resource failure) :
    ¬ Declared outcome := by
  intro hdeclared
  obtain ⟨failure, hfailure⟩ := hdeclared fault houtcome
  exact hother failure hfailure

theorem Declared.bind {α β : Type} {first : Except Fault α} {next : α → Except Fault β}
    (hfirst : Declared first) (hnext : ∀ a, first = .ok a → Declared (next a)) :
    Declared (first >>= next) := by
  intro fault hfault
  rcases Attempt.bind_eq_error_iff.mp hfault with hfails | ⟨a, hok, hfails⟩
  · exact hfirst fault hfails
  · exact hnext a hok fault hfails

theorem Declared.of_bind {α β : Type} {first : Except Fault α} {next : α → Except Fault β}
    (hrun : Declared (first >>= next)) : Declared first :=
  fun fault hfails => hrun fault (Attempt.bind_of_error hfails)

/-! ## Entering a package -/

/-- The texts lead on from the place. From a package without a mark only a single text does, if the
package can be listed. -/
def Probe.Admits (probe : Probe) (bundle : Bundle) (texts : List String) : Prop :=
  ∀ path, bundle = .unmarked path → texts.length = 1 ∧ probe.enter path = .ok ()

namespace Bundle

variable {probe : Probe} {bundle place : Bundle} {texts segments : List String}

/-- A NUL is in the path of the place. -/
def HasNul : Bundle → Prop
  | unpacked path | unmarked path => path.any (Text.holds (Char.ofNat 0)) = true
  | packed .. | faulty _ => False

theorem not_declared_follow (hsteps : ¬ probe.Admits bundle texts) :
    ¬ Declared (probe.follow bundle texts) := by
  obtain ⟨path, hpath⟩ := Classical.not_forall.mp hsteps
  obtain ⟨rfl, hnot⟩ := Classical.not_imp.mp hpath
  rcases texts with _ | ⟨text, _ | ⟨next, rest⟩⟩
  · have hfails : probe.follow (.unmarked path) [] = .error (.mistyped (.steps 0)) := rfl
    exact not_declared hfails fun _ => nofun
  · cases henter : probe.enter path with
    | ok _ => exact absurd ⟨rfl, henter⟩ hnot
    | error fault =>
        have hfails : probe.follow (.unmarked path) [text] = .error (.io fault) := by
          rw [Probe.follow, henter]
          rfl
        exact not_declared hfails fun _ => nofun
  · have hfails : probe.follow (.unmarked path) (text :: next :: rest) =
        .error (.mistyped (.steps (rest.length + 2))) := rfl
    exact not_declared hfails fun _ => nofun

/-- Texts that lead on lead to a place from which one can go on in any number of steps. -/
theorem follow_of_admits (hadmits : probe.Admits bundle texts) :
    ∃ place, probe.follow bundle texts = .ok place ∧ bundle.appendAll texts = .ok place ∧
      ∀ path, place ≠ .unmarked path := by
  cases bundle with
  | unmarked path =>
      obtain ⟨hlength, henter⟩ := hadmits path rfl
      obtain ⟨text, rfl⟩ := List.length_eq_one_iff.mp hlength
      exact ⟨_, by rw [Probe.follow, henter]; rfl, rfl, fun _ => nofun⟩
  | unpacked path => exact ⟨_, rfl, rfl, fun _ => nofun⟩
  | packed archive place => exact ⟨_, rfl, rfl, fun _ => nofun⟩
  | faulty isFile => exact ⟨_, rfl, rfl, fun _ => nofun⟩

theorem admits_of_marked (hmarked : ∀ path, bundle ≠ .unmarked path) : probe.Admits bundle texts :=
  fun path hpath => absurd hpath (hmarked path)

theorem any_nul_append {path : FilePath} (hsafe : ∀ segment ∈ segments, IsSafe segment) :
    (path ++ segments).any (Text.holds (Char.ofNat 0)) =
      path.any (Text.holds (Char.ofNat 0)) := by
  have hnone : segments.any (Text.holds (Char.ofNat 0)) = false :=
    List.any_eq_false.mpr fun segment hmem => by simp [holds_nul_of_isSafe (hsafe segment hmem)]
  rw [List.any_append, hnone, Bool.or_false]

/-- Safe segments add no NUL to the path of the place. -/
theorem hasNul_appendAll (hsafe : ∀ segment ∈ segments, IsSafe segment)
    (hplace : bundle.appendAll segments = .ok place) : place.HasNul ↔ bundle.HasNul := by
  cases bundle with
  | unpacked path =>
      obtain rfl := Except.ok.inj hplace
      rw [foldl_append_of_isSafe hsafe, HasNul, any_nul_append hsafe]
      rfl
  | unmarked path =>
      rcases segments with _ | ⟨segment, _ | ⟨next, rest⟩⟩
      · cases hplace
      · obtain rfl := Except.ok.inj hplace
        rw [append_of_isSafe (hsafe segment List.mem_cons_self), HasNul, any_nul_append hsafe]
        rfl
      · cases hplace
  | packed archive place =>
      obtain rfl := Except.ok.inj hplace
      exact Iff.rfl
  | faulty isFile =>
      obtain rfl := Except.ok.inj hplace
      exact Iff.rfl

end Bundle

section

variable {probe : Probe} {host : Host} {bundle place : Bundle} {segments : List String}
  {path : String}

theorem Probe.test_of_hasNul (hmarked : ∀ path, place ≠ .unmarked path) (hnul : place.HasNul) :
    probe.test place = .error (.value .nulInPath) := by
  cases place with
  | unpacked path => exact if_pos hnul
  | unmarked path => exact absurd rfl (hmarked path)
  | packed archive place => exact hnul.elim
  | faulty isFile => exact hnul.elim

theorem Probe.test_of_not_hasNul (hnul : ¬ place.HasNul) :
    probe.test place = (probe.isFile place).mapError Fault.io := by
  cases place with
  | unpacked path => exact if_neg hnul
  | unmarked path => rfl
  | packed archive place => rfl
  | faulty isFile => rfl

/-! ## Packages -/

namespace PackageStore

variable {store : PackageStore}

theorem rootBy_eq (himport : store.bundle host = .ok bundle) :
    store.rootBy probe host =
      if store.base = "" then .ok bundle else probe.follow bundle (Text.pieces '/' store.base) := by
  rw [rootBy, himport]
  by_cases hbase : store.base = ""
  · rw [if_pos hbase, hbase]
    rfl
  · have hempty : store.base.isEmpty = false := by simp [hbase]
    rw [if_neg hbase, hempty]
    rfl

theorem locateBy_eq {target : Bundle} (hroot : store.rootBy probe host = .ok place)
    (htarget : probe.follow place segments = .ok target) :
    store.locateBy probe host segments = match probe.test target with
      | .ok true => .ok (some (target.location (store.uri segments)))
      | .ok false => .ok none
      | .error fault => .error (Location.asResourceFault (.lookup (store.uri segments)) fault) := by
  rw [locateBy, Attempt.bind_of_ok hroot, Attempt.bind_of_ok htarget]
  rfl

theorem not_declared_locateBy (hroot : store.rootBy probe host = .ok place)
    (hnot : ¬ probe.Admits place segments) : ¬ Declared (store.locateBy probe host segments) := by
  intro hdeclared
  rw [locateBy, Attempt.bind_of_ok hroot] at hdeclared
  exact Bundle.not_declared_follow hnot hdeclared.of_bind

theorem not_declared_locateBy_of_hasNul (hroot : store.rootBy probe host = .ok place)
    (hsafe : ∀ segment ∈ segments, IsSafe segment) (hnul : place.HasNul) :
    ¬ Declared (store.locateBy probe host segments) := by
  by_cases hadmits : probe.Admits place segments
  · obtain ⟨target, htarget, happend, hmarked⟩ := Bundle.follow_of_admits hadmits
    rw [← Bundle.hasNul_appendAll hsafe happend] at hnul
    have hlocate : store.locateBy probe host segments = .error (.value .nulInPath) := by
      rw [locateBy_eq hroot htarget, Probe.test_of_hasNul hmarked hnul]
      rfl
    exact not_declared hlocate fun _ => nofun
  · exact not_declared_locateBy hroot hadmits

/-- A place that can be entered and has no NUL in its path is only asked about. -/
theorem declared_locateBy (hroot : store.rootBy probe host = .ok place)
    (hadmits : probe.Admits place segments) (hsafe : ∀ segment ∈ segments, IsSafe segment)
    (hnul : ¬ place.HasNul) : Declared (store.locateBy probe host segments) := by
  obtain ⟨target, htarget, happend, -⟩ := Bundle.follow_of_admits hadmits
  rw [← Bundle.hasNul_appendAll hsafe happend] at hnul
  rw [locateBy_eq hroot htarget, Probe.test_of_not_hasNul hnul]
  rcases probe.isFile target with fault | _ | _
  · exact declared_resource _
  · exact declared_ok _
  · exact declared_ok _

theorem declared_findBy (hroot : store.rootBy probe host = .ok place)
    (hmarked : ∀ path, place ≠ .unmarked path) (hnul : ¬ place.HasNul) (path : String) :
    Declared (store.findBy probe host path) := by
  unfold findBy
  split
  next => exact declared_ok _
  next segments hsegments =>
    refine declared_locateBy hroot (Bundle.admits_of_marked hmarked) ?_ hnul
    exact isSafe_of_segments? (nonEmptySegments?_eq_some_iff.mp hsegments).1

end PackageStore

/-! ## Webjars -/

namespace WebjarStore

variable {store : WebjarStore} {library : String} {rest : List String}

/-- What a lookup can fail with that is no fault of the file system. -/
inductive Slips (store : WebjarStore) (probe : Probe) (host : Host) (bundle : Bundle)
    (segments : List String) : Prop
  /-- The names of the base directory do not lead into the package. -/
  | base (hbase : store.bundle.base ≠ "")
      (hsteps : ¬ probe.Admits bundle (Text.pieces '/' store.bundle.base))
  /-- The segments do not lead into the package. -/
  | segments (hbase : store.bundle.base = "") (hsteps : ¬ probe.Admits bundle segments)
  /-- The path of the base directory cannot be asked about. -/
  | nul {place : Bundle} (hroot : store.bundle.rootBy probe host = .ok place) (hnul : place.HasNul)
  /-- There is no file at the segments, and one of the versions of the library has no key. -/
  | keyless {library version : String} {rest names : List String}
      (hsegments : segments = library :: rest) (hrest : rest ≠ [])
      (hnone : store.bundle.locateBy probe host segments = .ok none)
      (hnames : store.versionNamesBy probe host library = .ok names) (hmem : version ∈ names)
      (hkeyless : VersionKey.IsKeyless version)

theorem declared_versionNamesBy (hroot : store.bundle.rootBy probe host = .ok place)
    (hmarked : ∀ path, place ≠ .unmarked path) (library : String) :
    Declared (store.versionNamesBy probe host library) := by
  have hadmits : probe.Admits place [library] := Bundle.admits_of_marked hmarked
  obtain ⟨target, htarget, -⟩ := Bundle.follow_of_admits hadmits
  rw [versionNamesBy, Attempt.bind_of_ok hroot, Attempt.bind_of_ok htarget]
  dsimp only
  split
  next => exact declared_ok _
  next => exact declared_resource _

theorem exists_newestFirst_error_iff {names : List String} :
    (∃ fault, newestFirst names = .error fault) ↔
      ∃ version ∈ names, VersionKey.IsKeyless version := by
  have hread (version : String) :
      (∃ fault, (do return (← VersionKey.read version, version)) =
          (.error fault : Except Fault (VersionKey × String))) ↔ VersionKey.IsKeyless version := by
    rw [← VersionKey.exists_read_error_iff]
    cases VersionKey.read version with
    | error fault => exact iff_of_true ⟨fault, rfl⟩ ⟨fault, rfl⟩
    | ok key => exact iff_of_false nofun nofun
  simp only [← hread]
  rw [← Attempt.exists_mapM_eq_error_iff]
  constructor
  · rintro ⟨fault, hfault⟩
    rcases Attempt.bind_eq_error_iff.mp hfault with hkeys | ⟨keyed, -, hnever⟩
    · exact ⟨fault, hkeys⟩
    · cases hnever
  · rintro ⟨fault, hkeys⟩
    exact ⟨fault, Attempt.bind_eq_error_iff.mpr (.inl hkeys)⟩

theorem newestFirst_eq_error {names : List String} {fault : Fault}
    (hfault : newestFirst names = .error fault) : ∃ numeral, fault = .value (.numeral numeral) := by
  rcases Attempt.bind_eq_error_iff.mp hfault with hkeys | ⟨keyed, -, hnever⟩
  · obtain ⟨version, -, hversion⟩ := Attempt.exists_of_mapM_eq_error hkeys
    rcases Attempt.bind_eq_error_iff.mp hversion with hread | ⟨key, -, hnever⟩
    · exact VersionKey.read_eq_error hread
    · cases hnever
  · cases hnever

theorem declared_newestFirst_iff {names : List String} :
    Declared (newestFirst names) ↔ ∀ version ∈ names, ¬ VersionKey.IsKeyless version := by
  constructor
  · intro hdeclared version hmem hkeyless
    obtain ⟨fault, hfault⟩ := exists_newestFirst_error_iff.mpr ⟨version, hmem, hkeyless⟩
    obtain ⟨numeral, rfl⟩ := newestFirst_eq_error hfault
    exact not_declared hfault (fun _ => nofun) hdeclared
  · intro hkeys fault hfault
    obtain ⟨version, hmem, hkeyless⟩ := exists_newestFirst_error_iff.mp ⟨fault, hfault⟩
    exact absurd hkeyless (hkeys version hmem)

theorem declared_firstBy (hroot : store.bundle.rootBy probe host = .ok place)
    (hmarked : ∀ path, place ≠ .unmarked path) (hnul : ¬ place.HasNul) (versions : List String) :
    Declared (store.firstBy probe host library rest versions) := by
  induction versions with
  | nil => exact declared_ok _
  | cons version older ih =>
      refine (store.bundle.declared_findBy hroot hmarked hnul _).bind fun found _ => ?_
      cases found with
      | some location => exact declared_ok _
      | none => exact ih

/-- A lookup goes on to the versions only if there is no file at the segments. -/
theorem lookupBy_of_segments (hsegments : nonEmptySegments? path = some segments) :
    store.lookupBy probe host path =
      store.bundle.locateBy probe host segments >>= fun found => match found with
        | some location => .ok (some location)
        | none => store.newestBy probe host path := by
  rw [lookupBy, PackageStore.findBy, hsegments]
  rfl

theorem newestBy_eq (hsegments : segments? path = some (library :: rest)) (hrest : rest ≠ []) :
    store.newestBy probe host path =
      store.versionNamesBy probe host library >>= fun names =>
        newestFirst names >>= store.firstBy probe host library rest := by
  obtain ⟨name, rest, rfl⟩ := List.exists_cons_of_ne_nil hrest
  rw [newestBy, hsegments]

theorem not_declared_of_slips (himport : store.bundle.bundle host = .ok bundle)
    (hsegments : nonEmptySegments? path = some segments)
    (hslips : store.Slips probe host bundle segments) :
    ¬ Declared (store.lookupBy probe host path) := by
  intro hdeclared
  rw [lookupBy_of_segments hsegments] at hdeclared
  have hlocate := hdeclared.of_bind
  have hroot : store.bundle.rootBy probe host = _ := PackageStore.rootBy_eq himport
  obtain ⟨hfull, -⟩ := nonEmptySegments?_eq_some_iff.mp hsegments
  cases hslips with
  | base hbase hnot =>
      rw [if_neg hbase] at hroot
      rw [PackageStore.locateBy, hroot] at hlocate
      exact Bundle.not_declared_follow hnot hlocate.of_bind
  | segments hbase hnot =>
      rw [if_pos hbase] at hroot
      exact PackageStore.not_declared_locateBy hroot hnot hlocate
  | nul hplace hnul =>
      have hsafe := isSafe_of_segments? hfull
      exact PackageStore.not_declared_locateBy_of_hasNul hplace hsafe hnul hlocate
  | keyless hsplit hrest hnone hnames hmem hkeyless =>
      subst hsplit
      rw [Attempt.bind_of_ok hnone, newestBy_eq hfull hrest, Attempt.bind_of_ok hnames] at hdeclared
      exact declared_newestFirst_iff.mp hdeclared.of_bind _ hmem hkeyless

theorem enters_of_not_slips (himport : store.bundle.bundle host = .ok bundle)
    (hnot : ¬ store.Slips probe host bundle segments) :
    ∃ place, store.bundle.rootBy probe host = .ok place ∧ probe.Admits place segments := by
  have hroot : store.bundle.rootBy probe host = _ := PackageStore.rootBy_eq himport
  by_cases hbase : store.bundle.base = ""
  · rw [if_pos hbase] at hroot
    refine ⟨bundle, hroot, ?_⟩
    by_contra hsteps
    exact hnot (.segments hbase hsteps)
  · have hadmits : probe.Admits bundle (Text.pieces '/' store.bundle.base) := by
      by_contra hsteps
      exact hnot (.base hbase hsteps)
    obtain ⟨place, hplace, -, hmarked⟩ := Bundle.follow_of_admits hadmits
    rw [if_neg hbase, hplace] at hroot
    exact ⟨place, hroot, Bundle.admits_of_marked hmarked⟩

theorem newestBy_of_no_segments (hnone : nonEmptySegments? path = none) :
    store.newestBy probe host path = .ok none := by
  unfold newestBy
  split
  next library name rest hsegments =>
    have hsome := nonEmptySegments?_eq_some_iff.mpr ⟨hsegments, List.cons_ne_nil _ _⟩
    cases hnone.symm.trans hsome
  next => rfl

/-- A library is searched for the newest version without any other fault than a resource fault, if
all versions that are listed have keys. -/
theorem declared_newestBy (hroot : store.bundle.rootBy probe host = .ok place)
    (hadmits : probe.Admits place segments) (hnul : ¬ place.HasNul)
    (hsegments : segments? path = some segments)
    (hkeys : ∀ library rest names, segments = library :: rest → rest ≠ [] →
      store.versionNamesBy probe host library = .ok names →
      ∀ version ∈ names, ¬ VersionKey.IsKeyless version) :
    Declared (store.newestBy probe host path) := by
  rcases segments with _ | ⟨library, _ | ⟨name, rest⟩⟩
  · rw [newestBy, hsegments]
    exact declared_ok none
  · rw [newestBy, hsegments]
    exact declared_ok none
  · -- more than one step can be made from a package with a mark only
    have hmarked (path : FilePath) : place ≠ .unmarked path := fun hunmarked =>
      absurd (hadmits path hunmarked).1 (by simp)
    have hrest := List.cons_ne_nil name rest
    rw [newestBy_eq hsegments hrest]
    refine (declared_versionNamesBy hroot hmarked library).bind fun names hnames => ?_
    refine Declared.bind ?_ fun sorted _ => declared_firstBy hroot hmarked hnul sorted
    exact declared_newestFirst_iff.mpr (hkeys library _ names rfl hrest hnames)

theorem declared_lookupBy (himport : store.bundle.bundle host = .ok bundle)
    (hslips : ∀ segments, nonEmptySegments? path = some segments →
      ¬ store.Slips probe host bundle segments) :
    Declared (store.lookupBy probe host path) := by
  cases hsegments : nonEmptySegments? path with
  | none =>
      rw [lookupBy, PackageStore.findBy, hsegments, newestBy_of_no_segments hsegments]
      exact declared_ok none
  | some segments =>
      obtain ⟨hfull, -⟩ := nonEmptySegments?_eq_some_iff.mp hsegments
      have hsafe := isSafe_of_segments? hfull
      have hnot := hslips segments hsegments
      obtain ⟨place, hroot, hadmits⟩ := enters_of_not_slips himport hnot
      have hnul : ¬ place.HasNul := fun hnul => hnot (.nul hroot hnul)
      rw [lookupBy_of_segments hsegments]
      refine (PackageStore.declared_locateBy hroot hadmits hsafe hnul).bind fun found hfound => ?_
      cases found with
      | some location => exact declared_ok (some location)
      | none =>
          refine declared_newestBy hroot hadmits hnul hfull ?_
          intro library rest names hsplit hrest hnames version hmem hkeyless
          exact hnot (.keyless hsplit hrest hfound hnames hmem hkeyless)

/-- Whatever the file system answers, a lookup in a package that is there is answered with a
location, with nothing or with a resource fault, in all cases but those in which it slips. That the
package is there is the hypothesis: each lookup finds its files again, in an archive that is opened
again if need be, and a fault of that is one of importing the package and no answer of the probe. -/
theorem declared_lookup_iff (himport : store.bundle.bundle host = .ok bundle) :
    (∀ probe path, Declared (store.lookupBy probe host path) ↔
      ∀ segments, nonEmptySegments? path = some segments →
        ¬ store.Slips probe host bundle segments) ∧
    ∀ path, (store.lookup host path).outcome = store.lookupBy (.ofFiles host.files) host path := by
  refine ⟨fun probe path => ⟨fun hdeclared segments hsegments hslips => ?_, ?_⟩, fun path => ?_⟩
  · exact not_declared_of_slips himport hsegments hslips hdeclared
  · exact declared_lookupBy himport
  · exact (store.lookupBy_ofFiles host path).symm

end WebjarStore

end

namespace WebjarStore

/-- Two versions, the second one with a name of a digit that no numeral is written with. -/
def oddVersions : List (String × Node) :=
  [("1", .directory [("x.js", .file [49] 0)]), ("²", .directory [("x.js", .file [50] 0)])]

/-- A library that nobody may list. -/
theorem declared_lookup_iff_unlistable :
    let probe : Probe :=
      { enter := fun _ => .error .denied, isFile := fun _ => .ok false
        isDirectory := fun _ => .ok true, directories := fun _ => .error .denied }
    Declared ((ofPackage "demo" "webjars").lookupBy probe (demoHost oddVersions) "lib/x.js") := by
  intro probe
  have himport : (ofPackage "demo" "webjars").bundle.bundle (demoHost oddVersions) =
      .ok (.unpacked ["site", "demo"]) := rfl
  refine ((declared_lookup_iff himport).1 probe "lib/x.js").mpr fun segments _ hslips => ?_
  cases hslips with
  | base _ hsteps => exact hsteps (Bundle.admits_of_marked fun _ => nofun)
  | segments hbase => exact absurd hbase (by decide +kernel)
  | nul hplace hnul =>
      have hroot : (ofPackage "demo" "webjars").bundle.rootBy probe (demoHost oddVersions) =
          .ok (.unpacked demoPath) := rfl
      have hnone : demoPath.any (Text.holds (Char.ofNat 0)) = false := by decide +kernel
      cases hroot.symm.trans hplace
      cases hnone.symm.trans hnul
  | keyless _ _ _ hnames => cases hnames

/-- Beside a healthy version, one with an odd name keeps every path without a version from an answer,
and from a resource fault as well. -/
theorem not_declared_lookup :
    ¬ Declared ((ofPackage "demo" "webjars").lookup (demoHost oddVersions) "lib/x.js").outcome := by
  have himport : (ofPackage "demo" "webjars").bundle.bundle (demoHost oddVersions) =
      .ok (.unpacked ["site", "demo"]) := rfl
  rw [← lookupBy_ofFiles]
  have hsegments : nonEmptySegments? "lib/x.js" = some ["lib", "x.js"] := by decide +kernel
  have hnone : (ofPackage "demo" "webjars").bundle.locateBy (.ofFiles (demoHost oddVersions).files)
      (demoHost oddVersions) ["lib", "x.js"] = .ok none := rfl
  have hnames : (ofPackage "demo" "webjars").versionNamesBy (.ofFiles (demoHost oddVersions).files)
      (demoHost oddVersions) "lib" = .ok ["1", "²"] := rfl
  have hkeyless : VersionKey.IsKeyless "²" :=
    ⟨"²", by decide +kernel, by decide +kernel, .inl ⟨'²', by decide +kernel, by decide +kernel⟩⟩
  exact not_declared_of_slips himport hsegments
    (.keyless rfl (List.cons_ne_nil _ _) hnone hnames (by simp) hkeyless)

end WebjarStore

end VersionedAssets
