import VersionedAssets.Proofs.FileTree.Opening
import VersionedAssets.Proofs.FileTree.Settling
import VersionedAssets.Proofs.ResourcePath
import VersionedAssets.Proofs.ResourcePath.Segments
import VersionedAssets.Store.Directory

/-! # Staying inside of a directory

A directory store gives out the files below its directory and nothing else, whatever links there
are: what counts is where a path leads when every link is followed, of the directory as well as of
the resource.
-/

namespace VersionedAssets.DirectoryStore

open FileTree ResourcePath

variable {files : FileTree} {store : DirectoryStore} {path text : String} {settled : FilePath}

/-- When a loop is on the way along the path, settling the path says so. -/
def ReportsLoops (files : FileTree) (path : FilePath) : Prop :=
  Loops files [] path → ∃ met, files.settle path = .cyclic met

theorem reportsLoops_of_settles {way : FilePath} (hsettles : Settles files [] way settled) :
    ReportsLoops files way := fun hloops => absurd hloops hsettles.not_loops

/-- The path has segments, and from the directory of the store they lead to the settled path. -/
def Leads (store : DirectoryStore) (files : FileTree) (path : String) (settled : FilePath) : Prop :=
  ∃ segments, segments? path = some segments ∧ segments ≠ [] ∧
    Settles files [] (store.root ++ segments) settled

/-- The path has segments, and from the directory of the store they lead into a loop. -/
def LeadsIntoLoop (store : DirectoryStore) (files : FileTree) (path : String) : Prop :=
  ∃ segments, segments? path = some segments ∧ segments ≠ [] ∧
    Loops files [] (store.root ++ segments)

/-- The location is that of the file at the path: it has its URI, its name, its time in whole
milliseconds and its content. -/
structure IsFileAt (location : Location) (files : FileTree) (path : FilePath) : Prop where
  uri_eq : location.uri = Location.fileUri path
  filename_eq : path.getLast? = some location.filename
  stands : ∃ data modified, Stands files path (.file data modified) ∧
    location.lastModified files = .ok (modified / 1000000) ∧
    location.open? files = .ok { rest := data, source := .file }

theorem isDoubled_of_isSettled {path : FilePath} (hsettled : IsSettled files path) :
    FilePath.isDoubled path = false := by
  cases path with
  | nil => rfl
  | cons name rest =>
      have hname := (hsettled.names name List.mem_cons_self).not_void
      have hne : name ≠ "" := by
        rintro rfl
        simp [FilePath.isVoid] at hname
      simp [FilePath.isDoubled, hne]

theorem isBelow_iff (hroot : IsSettled files store.root) (hsettled : IsSettled files settled) :
    store.root.isBelow settled = true ↔ store.root <+: settled := by
  simp [FilePath.isBelow, isDoubled_of_isSettled hroot, isDoubled_of_isSettled hsettled]

theorem settle_of_ofPath (hstore : ofPath files text = .ok store) :
    files.settle (FilePath.names text) = .at store.root ∧
      Bundle.isTreeDirectory files store.root = .ok true := by
  unfold ofPath at hstore
  split at hstore
  next => cases hstore
  next =>
    split at hstore
    next => cases hstore
    next root hsettle =>
      split at hstore
      next hdirectory =>
        obtain ⟨⟩ := hstore
        exact ⟨hsettle, hdirectory⟩
      next => cases hstore
      next => cases hstore

theorem directory_of_isTreeDirectory (hsettled : IsSettled files settled)
    (hdirectory : Bundle.isTreeDirectory files settled = .ok true) :
    ∃ entries, Stands files settled (.directory entries) := by
  unfold Bundle.isTreeDirectory at hdirectory
  split at hdirectory
  next => cases hdirectory
  next =>
    split at hdirectory
    next node hfind =>
      cases node with
      | directory entries => exact ⟨entries, (find_eq_ok_iff hsettled _).mp hfind⟩
      | file => cases hdirectory
      | link => cases hdirectory
    next => cases hdirectory
    next => cases hdirectory

/-- The directory of a store is settled, and a directory is there. -/
theorem root_of_ofPath (hstore : ofPath files text = .ok store)
    (hreports : ReportsLoops files (FilePath.names text)) :
    Settles files [] (FilePath.names text) store.root ∧
      ∃ entries, Stands files store.root (.directory entries) := by
  obtain ⟨hsettle, hdirectory⟩ := settle_of_ofPath hstore
  have hnone : ¬ Loops files [] (FilePath.names text) := by
    intro hloops
    obtain ⟨met, hmet⟩ := hreports hloops
    rw [hsettle] at hmet
    cases hmet
  obtain ⟨settled, hsettles⟩ := not_loops_iff.mp hnone
  obtain ⟨⟩ := (settle_of_settles hsettles).symm.trans hsettle
  exact ⟨hsettles, directory_of_isTreeDirectory (hsettles.isSettled isSettled_nil) hdirectory⟩

/-! ## Ends of a lookup -/

theorem lookup_of_refused (hrefused : segments? path = none) :
    (store.lookup files path).outcome = .ok none := by
  simp [lookup, nonEmptySegments?, hrefused, Lookup.silent]

theorem lookup_of_empty (hempty : segments? path = some []) :
    (store.lookup files path).outcome = .ok none := by
  simp [lookup, nonEmptySegments?, hempty, Lookup.silent]

/-- What a lookup comes to when the path leads somewhere. -/
theorem lookup_of_leads (hroot : IsSettled files store.root)
    (hleads : store.Leads files path settled) :
    (store.root <+: settled ∧ (∃ data modified, Stands files settled (.file data modified)) ∧
        (store.lookup files path).outcome = .ok (some (Location.ofPath settled))) ∨
      ¬ (store.root <+: settled ∧ ∃ data modified, Stands files settled (.file data modified)) ∧
        (store.lookup files path).outcome = .ok none := by
  obtain ⟨segments, hsegments, hne, hsettles⟩ := hleads
  have hnonEmpty := nonEmptySegments?_eq_some_iff.mpr ⟨hsegments, hne⟩
  have hsettled := hsettles.isSettled isSettled_nil
  by_cases hbelow : store.root <+: settled
  · have hinside := (isBelow_iff hroot hsettled).mpr hbelow
    rcases isRegularFile_of_isSettled hsettled with ⟨hfile, hregular⟩ | ⟨hnone, hregular⟩
    · refine .inl ⟨hbelow, hfile, ?_⟩
      simp [lookup, hnonEmpty, settle_of_settles hsettles, hinside, locate, hregular,
        Lookup.silent]
    · refine .inr ⟨?_, ?_⟩
      · rintro ⟨-, data, modified, hfile⟩
        exact hnone data modified hfile
      · simp [lookup, hnonEmpty, settle_of_settles hsettles, hinside, locate, hregular,
          Lookup.silent]
  · refine .inr ⟨fun hboth => hbelow hboth.1, ?_⟩
    have houtside : store.root.isBelow settled = false := by
      rw [← Bool.not_eq_true, isBelow_iff hroot hsettled]
      exact hbelow
    simp [lookup, hnonEmpty, settle_of_settles hsettles, houtside]

theorem lookup_of_cyclic {segments : List String} (hsegments : segments? path = some segments)
    (hne : segments ≠ []) {met : FilePath}
    (hsettle : files.settle (store.root ++ segments) = .cyclic met) :
    (store.lookup files path).outcome =
      .error (store.lookupFault path (.linkLoop (FilePath.render met))) := by
  have hnonEmpty := nonEmptySegments?_eq_some_iff.mpr ⟨hsegments, hne⟩
  simp [lookup, hnonEmpty, hsettle, Lookup.silent]

/-- The location of a file at a settled path is that of the file. -/
theorem isFileAt_ofPath (hsettled : IsSettled files settled) (hne : settled ≠ []) {data : Bytes}
    {modified : Int} (hstands : Stands files settled (.file data modified)) :
    IsFileAt (Location.ofPath settled) files settled := by
  have hfind := (find_eq_ok_iff hsettled _).mpr hstands
  refine ⟨rfl, ?_, data, modified, hstands, ?_, ?_⟩
  · obtain ⟨last, hlast⟩ := Option.ne_none_iff_exists'.mp (mt List.getLast?_eq_none_iff.mp hne)
    simp [Location.ofPath, List.getLastD_eq_getLast?, hlast]
  · simp [Location.lastModified, Location.ofPath, Location.fileTime, hfind, Reading.millis]
  · simp [Location.open?, Location.ofPath, Location.fileContent, hfind]

/-! ## Staying inside -/

/-- What is promised of the outcome of a lookup. -/
structure Confines (store : DirectoryStore) (files : FileTree) (path : String)
    (outcome : Except Fault (Option Location)) : Prop where
  /-- What is found is a file below the directory, at the path that it has without links. -/
  inside : ∀ location, outcome = .ok (some location) →
    ∃ settled, store.Leads files path settled ∧ IsSettled files settled ∧
      store.root <+: settled ∧ settled ≠ store.root ∧ IsFileAt location files settled
  /-- Every file below the directory that the path leads to is found. -/
  found : ∀ settled data modified, store.Leads files path settled → store.root <+: settled →
    Stands files settled (.file data modified) →
    ∃ location, outcome = .ok (some location) ∧ IsFileAt location files settled
  /-- A path that goes up, or that has a backslash or a NUL in it, leads to nothing. -/
  refused : ".." ∈ Text.pieces '/' path ∨ '\\' ∈ path.toList ∨ Char.ofNat 0 ∈ path.toList →
    outcome = .ok none
  /-- A loop on the way is a fault of the resource. -/
  looped : store.LeadsIntoLoop files path → ∃ fault, outcome = .error (.resource fault)
  /-- There is no other fault. -/
  sound : ∀ fault, outcome = .error fault → store.LeadsIntoLoop files path

theorem Leads.unique {other : FilePath} (hleads : store.Leads files path settled)
    (hother : store.Leads files path other) : other = settled := by
  obtain ⟨segments, hsegments, -, hsettles⟩ := hleads
  obtain ⟨segments', hsegments', -, hsettles'⟩ := hother
  obtain rfl := Option.some.inj (hsegments.symm.trans hsegments')
  exact hsettles.unique hsettles'

theorem Leads.not_intoLoop (hleads : store.Leads files path settled) :
    ¬ store.LeadsIntoLoop files path := by
  rintro ⟨segments, hsegments, -, hloops⟩
  obtain ⟨segments', hsegments', -, hsettles⟩ := hleads
  obtain rfl := Option.some.inj (hsegments.symm.trans hsegments')
  exact hsettles.not_loops hloops

/-- A path with segments leads somewhere or into a loop. -/
theorem leads_or_intoLoop {segments : List String} (hsegments : segments? path = some segments)
    (hne : segments ≠ []) :
    (∃ settled, store.Leads files path settled) ∨ store.LeadsIntoLoop files path := by
  by_cases hloops : Loops files [] (store.root ++ segments)
  · exact .inr ⟨segments, hsegments, hne, hloops⟩
  · obtain ⟨settled, hsettles⟩ := not_loops_iff.mp hloops
    exact .inl ⟨settled, segments, hsegments, hne, hsettles⟩

/-- A path without segments leads nowhere, and nothing is found there. -/
theorem confines_of_no_segments
    (hnone : ∀ segments, segments? path = some segments → segments = []) :
    store.Confines files path (store.lookup files path).outcome := by
  have houtcome : (store.lookup files path).outcome = .ok none := by
    cases hsegments : segments? path with
    | none => exact lookup_of_refused hsegments
    | some segments =>
        obtain rfl := hnone segments hsegments
        exact lookup_of_empty hsegments
  rw [houtcome]
  constructor
  · rintro location ⟨⟩
  · rintro settled data modified ⟨segments, hsegments, hne, -⟩
    exact absurd (hnone segments hsegments) hne
  · exact fun _ => rfl
  · rintro ⟨segments, hsegments, hne, -⟩
    exact absurd (hnone segments hsegments) hne
  · rintro fault ⟨⟩

theorem confines_of_leads (hroot : IsSettled files store.root) {entries : List (String × Node)}
    (hdirectory : Stands files store.root (.directory entries))
    (hleads : store.Leads files path settled) :
    store.Confines files path (store.lookup files path).outcome := by
  have hsettled : IsSettled files settled := by
    obtain ⟨segments, -, -, hsettles⟩ := hleads
    exact hsettles.isSettled isSettled_nil
  have hsafe : ¬ segments? path = none := by
    obtain ⟨segments, hsegments, -, -⟩ := hleads
    simp [hsegments]
  rw [segments?_eq_none_iff] at hsafe
  rcases lookup_of_leads hroot hleads with ⟨hbelow, hfile, houtcome⟩ | ⟨hnothing, houtcome⟩
  · obtain ⟨data, modified, hstands⟩ := hfile
    -- the root is a directory, so the file is not the root
    have hne : settled ≠ store.root := by
      rintro rfl
      cases hdirectory.unique hstands
    have hnonempty : settled ≠ [] := by
      rintro rfl
      exact hne (List.prefix_nil.mp hbelow).symm
    have hlocation := isFileAt_ofPath hsettled hnonempty hstands
    rw [houtcome]
    constructor
    · rintro location ⟨⟩
      exact ⟨settled, hleads, hsettled, hbelow, hne, hlocation⟩
    · intro other data' modified' hother _ _
      obtain rfl := hleads.unique hother
      exact ⟨_, rfl, hlocation⟩
    · exact fun hrefused => absurd hrefused hsafe
    · exact fun hloop => absurd hloop hleads.not_intoLoop
    · rintro fault ⟨⟩
  · rw [houtcome]
    constructor
    · rintro location ⟨⟩
    · intro other data modified hother hbelow hstands
      obtain rfl := hleads.unique hother
      exact absurd ⟨hbelow, data, modified, hstands⟩ hnothing
    · exact fun _ => rfl
    · exact fun hloop => absurd hloop hleads.not_intoLoop
    · rintro fault ⟨⟩

theorem confines_of_intoLoop
    (hway : ∀ segments, segments? path = some segments →
      ReportsLoops files (store.root ++ segments))
    (hloop : store.LeadsIntoLoop files path) :
    store.Confines files path (store.lookup files path).outcome := by
  obtain ⟨segments, hsegments, hne, hloops⟩ := hloop
  obtain ⟨met, hmet⟩ := hway segments hsegments hloops
  have hsafe : ¬ segments? path = none := by simp [hsegments]
  rw [segments?_eq_none_iff] at hsafe
  rw [lookup_of_cyclic hsegments hne hmet]
  constructor
  · rintro location ⟨⟩
  · intro settled data modified hleads
    exact absurd ⟨segments, hsegments, hne, hloops⟩ hleads.not_intoLoop
  · exact fun hrefused => absurd hrefused hsafe
  · exact fun _ => ⟨_, rfl⟩
  · exact fun _ _ => ⟨segments, hsegments, hne, hloops⟩

/-- A lookup stays inside of the directory of its store, and finds all that is there, as long as
settling the path of the directory and the one below it tells of loops. -/
theorem lookup_confines (hstore : ofPath files text = .ok store)
    (hroot : ReportsLoops files (FilePath.names text))
    (hway : ∀ segments, segments? path = some segments →
      ReportsLoops files (store.root ++ segments)) :
    Settles files [] (FilePath.names text) store.root ∧
      store.Confines files path (store.lookup files path).outcome := by
  obtain ⟨hsettlesRoot, entries, hdirectory⟩ := root_of_ofPath hstore hroot
  have hsettledRoot := hsettlesRoot.isSettled isSettled_nil
  refine ⟨hsettlesRoot, ?_⟩
  by_cases hnone : ∀ segments, segments? path = some segments → segments = []
  · exact confines_of_no_segments hnone
  · simp only [not_forall] at hnone
    obtain ⟨segments, hsegments, hne⟩ := hnone
    rcases leads_or_intoLoop hsegments hne with ⟨settled, hleads⟩ | hloop
    · exact confines_of_leads hsettledRoot hdirectory hleads
    · exact confines_of_intoLoop hway hloop

/-- A site behind a link, with a link to a script and a link to itself. -/
theorem site_confines :
    let files : FileTree :=
      { root := .directory [
          ("srv", .directory [
            ("app.js", .file [120] 5000000), ("current", .link "app.js"), ("loop", .link "loop")]),
          ("www", .link "srv")] }
    let store : DirectoryStore := { root := ["srv"] }
    ofPath files "/www" = .ok store ∧
      store.Confines files "current" (store.lookup files "current").outcome ∧
      store.Confines files "loop/x" (store.lookup files "loop/x").outcome := by
  intro files store
  have hstore : ofPath files "/www" = .ok store := by decide +kernel
  have hnames : FilePath.names "/www" = ["www"] := by decide +kernel
  have hwww : Settles files [] (FilePath.names "/www") ["srv"] := by
    rw [hnames]
    exact settles_beside ⟨by decide, by decide⟩ ⟨by decide, by decide⟩ rfl (by decide +kernel)
      (by decide +kernel) rfl
  have hcurrent : Settles files [] (["srv"] ++ ["current"]) (["srv"] ++ ["app.js"]) :=
    .step ⟨by decide, by decide⟩ rfl <| settles_beside ⟨by decide, by decide⟩
      ⟨by decide, by decide⟩ rfl (by decide +kernel) (by decide +kernel) rfl
  have hloop : files.settle (["srv"] ++ ["loop", "x"]) = .cyclic ["srv", "loop", "x"] := by
    decide +kernel
  refine ⟨hstore, ?_, ?_⟩
  · refine (lookup_confines hstore (reportsLoops_of_settles hwww) ?_).2
    intro segments hsegments
    have hone : segments? "current" = some ["current"] := by decide +kernel
    obtain ⟨⟩ := hone.symm.trans hsegments
    exact reportsLoops_of_settles hcurrent
  · refine (lookup_confines hstore (reportsLoops_of_settles hwww) ?_).2
    intro segments hsegments
    have htwo : segments? "loop/x" = some ["loop", "x"] := by decide +kernel
    obtain ⟨⟩ := htwo.symm.trans hsegments
    exact fun _ => ⟨_, hloop⟩

/-- Loops have to be told of: a link that goes up from behind a loop settles to a path with another
link on it, which here leads out of the directory. -/
example :
    let files : FileTree :=
      { root := .directory [
          ("etc", .directory [("key", .file [1] 0)]),
          ("srv", .directory [
            ("loop", .link "loop"), ("out", .link "/etc"), ("x", .link "loop/../out/key")])] }
    files.settle ["srv", "x"] = .at ["srv", "out", "key"] ∧
      files.settle ["srv", "out", "key"] = .at ["etc", "key"] := by
  decide +kernel

end VersionedAssets.DirectoryStore
