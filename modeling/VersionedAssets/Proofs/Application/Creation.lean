import Mathlib.Data.List.Forall2
import VersionedAssets.Proofs.Application.Routing
import VersionedAssets.Proofs.Bundle
import VersionedAssets.Proofs.FileTree.Reaching
import VersionedAssets.Proofs.Store.Directory

/-! # Building applications

Settings without a fault are built into an application that serves every source they set, at the URL
path of the source and from nowhere else. Two things can still be in the way that checking the
settings does not look for: a URL path that two sources share, and a directory whose settled path is
too long to be asked for.
-/

namespace VersionedAssets

/-- The path can be asked for: it is not too long, and no name has a NUL in it. -/
structure FilePath.IsUsable (path : FilePath) : Prop where
  fits : (FilePath.render path).utf8ByteSize ≤ FileTree.maxPath
  no_nul : ∀ name ∈ path, Text.holds (Char.ofNat 0) name = false

namespace DirectoryStore

open FileTree

variable {files : FileTree} {text : String}

theorem isTreeDirectory_of_isUsable {root : FilePath} {entries : List (String × Node)}
    (husable : root.IsUsable) (hsettled : IsSettled files root)
    (hnode : files.node? root = some (.directory entries)) (hshort : OnlyShort root) :
    Bundle.isTreeDirectory files root = .ok true := by
  have hfind : files.find root = .ok (.directory entries) :=
    (find_eq_ok_iff hsettled _).mpr ⟨hnode, hshort, husable.fits⟩
  have hnul : root.any (Text.holds (Char.ofNat 0)) = false :=
    List.any_eq_false.mpr fun name hname => by simp [husable.no_nul name hname]
  exact Bundle.isTreeDirectory_eq_true_iff.mpr ⟨hnul, entries, hfind⟩

theorem isTreeDirectory_of_not_isUsable {root : FilePath} (husable : ¬ root.IsUsable) :
    Bundle.isTreeDirectory files root ≠ .ok true := by
  intro hdirectory
  obtain ⟨hnul, entries, hfind⟩ := Bundle.isTreeDirectory_eq_true_iff.mp hdirectory
  refine husable ⟨?_, by simpa using hnul⟩
  by_contra hlong
  simp [find, Nat.lt_of_not_le hlong] at hfind

/-- The store of a directory that is there serves the settled path of the directory, if that can be
asked for. -/
theorem ofPath_of_hasDirectory (hdirectory : files.hasDirectory text = true) :
    ∃ root, Settles files [] (FilePath.names text) root ∧
      (root.IsUsable ∧ ofPath files text = .ok ⟨root⟩ ∨
        ¬ root.IsUsable ∧ ∃ fault, ofPath files text = .error fault ∧
          (fault = .value (.missingRoot text) ∨ ∃ cause, fault = .io cause)) := by
  simp only [hasDirectory, Bool.and_eq_true, Bool.not_eq_true', decide_eq_true_eq] at hdirectory
  obtain ⟨⟨⟨-, hnul⟩, -⟩, hleads⟩ := hdirectory
  unfold leadsToDirectory at hleads
  split at hleads
  next node hfind =>
    obtain ⟨root, hsettles, hnode, hshort⟩ := settles_of_find hfind
    refine ⟨root, hsettles, ?_⟩
    rw [ofPath, hnul, settle_of_settles hsettles]
    dsimp only
    by_cases husable : root.IsUsable
    · cases node with
      | directory entries =>
          have hthere := isTreeDirectory_of_isUsable husable
            (hsettles.isSettled isSettled_nil) hnode hshort
          exact .inl ⟨husable, by simp [hthere]⟩
      | file => cases hleads
      | link => cases hleads
    · refine .inr ⟨husable, ?_⟩
      rw [if_neg Bool.false_ne_true]
      split
      next hthere => exact absurd hthere (isTreeDirectory_of_not_isUsable husable)
      next => exact ⟨_, rfl, .inl rfl⟩
      next cause _ => exact ⟨_, rfl, .inr ⟨cause, rfl⟩⟩
  next => cases hleads

end DirectoryStore

/-! ## Sources -/

/-- What the settings can name as a source of resources. -/
inductive Source where
  | directory (path : String)
  | package (name : String)
  | webjars (name : String)

/-- The store serves the source: the settled directory, or what the package has in the directory for
its kind of resources. -/
def Source.IsServedBy (files : FileTree) : Source → Store → Prop
  | directory path, store => ∃ root, FileTree.Settles files [] (FilePath.names path) root ∧
      store = (DirectoryStore.mk root).toStore
  | package name, store => store = (PackageStore.ofPackage name "public").toStore
  | webjars name, store => store = (WebjarStore.ofPackage name "webjars").toStore

namespace Config

/-- The sources that are set, each with the URL path that is set for it. -/
def sources (config : Config) : List (Source × String) :=
  (Application.source? config.publicDirectory).toList.map
      (fun path => (.directory path, config.publicUrlPath)) ++
    (Application.source? config.resourcePackage).toList.map
      (fun name => (.package name, config.resourceUrlPath)) ++
    (Application.source? config.webjarsPackage).toList.map
      fun name => (.webjars name, config.webjarsUrlPath)

/-- The directory of the settings settles to a path that can be asked for. -/
def HasUsableRoot (config : Config) (files : FileTree) : Prop :=
  ∀ path root, Application.source? config.publicDirectory = some path →
    FileTree.Settles files [] (FilePath.names path) root → root.IsUsable

end Config

/-- The URL paths of sources as handlers keep them. -/
def urlPaths (sources : List (Source × String)) : List String :=
  sources.map fun entry => Handler.normalizeUrl entry.2

namespace Application

/-- The handler serves the source at its URL path. -/
structure ServedBy (files : FileTree) (entry : Source × String) (handler : Handler) : Prop where
  urlPath_eq : handler.urlPath = Handler.normalizeUrl entry.2
  store_eq : entry.1.IsServedBy files handler.store

/-- The application is that of the settings as far as it has one handler for each of the sources and
no other handler. -/
structure IsBuilt (config : Config) (files : FileTree) (sources : List (Source × String))
    (app : Application) : Prop where
  config_eq : app.config = config
  policy_eq : CachePolicy.ofMaxAge config.cacheMaxAge config.production = .ok app.policy
  layers_eq : ∃ layer, accessLayer config = .ok layer ∧ app.layers = [layer]
  mounted : ∃ handlers, app.handlers.Perm handlers ∧
    List.Forall₂ (ServedBy files) sources handlers
  shared : ∀ handler ∈ app.handlers,
    handler.policy = app.policy ∧ handler.mediaTypes = app.mediaTypes
  isSetUp : app.IsSetUp

variable {config : Config} {files : FileTree} {sources more : List (Source × String)}
  {app : Application}

theorem map_urlPath_eq {handlers : List Handler}
    (hserved : List.Forall₂ (ServedBy files) sources handlers) :
    handlers.map (·.urlPath) = urlPaths sources := by
  induction hserved with
  | nil => rfl
  | cons hfirst _ ih => rw [List.map_cons, ih, hfirst.urlPath_eq, urlPaths, urlPaths, List.map_cons]

theorem IsBuilt.urlPaths_perm (hbuilt : IsBuilt config files sources app) :
    (app.handlers.map (·.urlPath)).Perm (urlPaths sources) := by
  obtain ⟨handlers, hperm, hserved⟩ := hbuilt.mounted
  rw [← map_urlPath_eq hserved]
  exact hperm.map _

theorem IsBuilt.nodup (hbuilt : IsBuilt config files sources app) : (urlPaths sources).Nodup :=
  hbuilt.urlPaths_perm.nodup_iff.mp (List.pairwise_map.mpr hbuilt.isSetUp.inOrder.distinct)

/-! ## Mounting sources -/

/-- More sources were mounted, or one of their URL paths was taken. -/
def Adds (config : Config) (files : FileTree) (sources more : List (Source × String))
    (outcome : Except Fault Application) : Prop :=
  (urlPaths (sources ++ more)).Nodup ∧
      (∃ app, outcome = .ok app ∧ IsBuilt config files (sources ++ more) app) ∨
    ¬ (urlPaths (sources ++ more)).Nodup ∧
      ∃ urlPath, outcome = .error (.value (.mountTaken urlPath))

theorem adds_nothing (hbuilt : IsBuilt config files sources app) :
    Adds config files sources [] (.ok app) := by
  rw [Adds, List.append_nil]
  exact .inl ⟨hbuilt.nodup, app, rfl, hbuilt⟩

theorem Adds.bind {first : Serving Application} {next : Application → Serving Application}
    {rest : List (Source × String)} {world : World}
    (hfirst : Adds config files sources more (first world).1)
    (hnext : ∀ app world, IsBuilt config files (sources ++ more) app →
      Adds config files (sources ++ more) rest (next app world).1) :
    Adds config files sources (more ++ rest) ((first >>= next) world).1 := by
  rw [Adds, ← List.append_assoc]
  rcases hrun : first world with ⟨outcome, after⟩
  rw [hrun] at hfirst
  rcases hfirst with ⟨-, app, rfl, hbuilt⟩ | ⟨htaken, urlPath, rfl⟩
  · rw [Actions.bind_of_ok hrun]
    exact hnext app after hbuilt
  · rw [Actions.bind_of_error hrun]
    refine .inr ⟨fun hnodup => htaken ?_, urlPath, rfl⟩
    rw [urlPaths, List.map_append] at hnodup
    exact (List.nodup_append.mp hnodup).1

theorem IsBuilt.nodup_concat_iff (hbuilt : IsBuilt config files sources app)
    (entry : Source × String) :
    (urlPaths (sources ++ [entry])).Nodup ↔
      ∀ other ∈ app.handlers, other.urlPath ≠ Handler.normalizeUrl entry.2 := by
  have hmem : Handler.normalizeUrl entry.2 ∈ urlPaths sources ↔
      ∃ other ∈ app.handlers, other.urlPath = Handler.normalizeUrl entry.2 := by
    rw [← hbuilt.urlPaths_perm.mem_iff, List.mem_map]
  rw [urlPaths, List.map_append, ← urlPaths, List.map_singleton,
    List.perm_append_comm.nodup_iff, List.singleton_append, List.nodup_cons, hmem]
  simpa using fun _ => hbuilt.nodup

/-- A handler of a source joins the others unless its URL path is taken. -/
theorem adds_mountShared (hbuilt : IsBuilt config files sources app) {entry : Source × String}
    {handler : Handler} (hserved : ServedBy files entry handler) (world : World) :
    Adds config files sources [entry] (app.mountShared handler world).1 := by
  let shared : Handler := { handler with policy := app.policy, mediaTypes := app.mediaTypes }
  have hiff : (urlPaths (sources ++ [entry])).Nodup ↔
      ∀ other ∈ app.handlers, other.urlPath ≠ shared.urlPath := by
    rw [hbuilt.nodup_concat_iff, ← hserved.urlPath_eq]
  by_cases hfree : ∀ other ∈ app.handlers, other.urlPath ≠ shared.urlPath
  · obtain ⟨handlers, after, hperm, hadd, hmount⟩ := mount_of_free hfree world
    refine .inl ⟨hiff.mpr hfree, _, congrArg Prod.fst hmount, ?_⟩
    obtain ⟨mounted, hmounted, hall⟩ := hbuilt.mounted
    constructor
    case config_eq => exact hbuilt.config_eq
    case policy_eq => exact hbuilt.policy_eq
    case layers_eq => exact hbuilt.layers_eq
    case mounted =>
      refine ⟨mounted ++ [shared], ?_, List.rel_append hall (.cons ⟨hserved.1, hserved.2⟩ .nil)⟩
      exact hperm.trans ((hmounted.cons _).trans (List.perm_append_singleton _ _).symm)
    case shared =>
      intro other hother
      rcases List.mem_cons.mp (hperm.mem_iff.mp hother) with rfl | hold
      · exact ⟨rfl, rfl⟩
      · exact hbuilt.shared other hold
    case isSetUp => exact .mounted hbuilt.isSetUp hadd
  · refine .inr ⟨mt hiff.mp hfree, ?_⟩
    simp only [not_forall, not_not] at hfree
    obtain ⟨other, hother, htaken⟩ := hfree
    exact ⟨_, congrArg Prod.fst (mount_of_taken ⟨other, hother, htaken⟩ world).2⟩

theorem servedBy_ofStore {source : Source} {urlPath : String} {store : Store}
    (hstore : source.IsServedBy files store) :
    ServedBy files (source, urlPath) (Handler.ofStore urlPath store) := by
  constructor
  · simp only [Handler.ofStore]
  · simpa only [Handler.ofStore] using hstore

theorem adds_mountPackage (hbuilt : IsBuilt config files sources app) (world : World) :
    Adds config files sources
      ((source? config.resourcePackage).toList.map fun name =>
        (.package name, config.resourceUrlPath)) (app.mountPackage world).1 := by
  rw [mountPackage, hbuilt.config_eq]
  cases source? config.resourcePackage with
  | none => exact adds_nothing hbuilt
  | some name =>
      have hstore : Source.IsServedBy files (.package name)
          (PackageStore.ofPackage name "public").toStore := rfl
      exact adds_mountShared hbuilt (servedBy_ofStore hstore) world

theorem adds_mountWebjars (hbuilt : IsBuilt config files sources app) (world : World) :
    Adds config files sources
      ((source? config.webjarsPackage).toList.map fun name =>
        (.webjars name, config.webjarsUrlPath)) (app.mountWebjars world).1 := by
  rw [mountWebjars, hbuilt.config_eq]
  cases source? config.webjarsPackage with
  | none => exact adds_nothing hbuilt
  | some name =>
      have hstore : Source.IsServedBy files (.webjars name)
          (WebjarStore.ofPackage name "webjars").toStore := rfl
      exact adds_mountShared hbuilt (servedBy_ofStore hstore) world

theorem mountDirectory_of_some {path : String}
    (hpath : source? app.config.publicDirectory = some path) (world : World) :
    (app.mountDirectory world).1 =
      match Handler.ofDirectory world.host.files path app.config.publicUrlPath with
      | .error fault => .error fault
      | .ok handler => (app.mountShared handler world).1 := by
  rw [mountDirectory, hpath]
  dsimp only
  rw [Actions.bind_of_ok (Actions.get_apply world)]
  cases Handler.ofDirectory world.host.files path app.config.publicUrlPath <;> rfl

/-- The directory is mounted, unless its URL path is taken or its settled path cannot be asked
for. -/
theorem mountDirectory_outcome (hbuilt : IsBuilt config files sources app) (world : World)
    (hfiles : world.host.files = files) (hexists : config.directoryExists files = true) :
    config.HasUsableRoot files ∧
        Adds config files sources
          ((source? config.publicDirectory).toList.map fun path =>
            (.directory path, config.publicUrlPath)) (app.mountDirectory world).1 ∨
      ¬ config.HasUsableRoot files ∧ ∃ fault, (app.mountDirectory world).1 = .error fault ∧
        ∀ cause, fault ≠ .config cause := by
  cases hpath : source? config.publicDirectory with
  | none =>
      refine .inl ⟨fun path root hsome => by simp [hpath] at hsome, ?_⟩
      rw [mountDirectory, hbuilt.config_eq, hpath]
      exact adds_nothing hbuilt
  | some path =>
      have hset : config.publicDirectory = some path :=
        (Option.filter_eq_some_iff.mp hpath).1
      have hdirectory : files.hasDirectory path = true := by
        simpa [Config.directoryExists, hset] using hexists
      have hsource : source? app.config.publicDirectory = some path := by
        rw [hbuilt.config_eq, hpath]
      rw [mountDirectory_of_some hsource, hfiles, hbuilt.config_eq, Handler.ofDirectory]
      obtain ⟨root, hsettles, hroot⟩ := DirectoryStore.ofPath_of_hasDirectory hdirectory
      have husableIff : config.HasUsableRoot files ↔ root.IsUsable := by
        constructor
        · exact fun husable => husable path root hpath hsettles
        · intro husable other found hother hfound
          obtain rfl := Option.some.inj (hpath.symm.trans hother)
          rwa [hsettles.unique hfound]
      rcases hroot with ⟨husable, hstore⟩ | ⟨husable, fault, hstore, hkind⟩
      · refine .inl ⟨husableIff.mpr husable, ?_⟩
        have hserved : Source.IsServedBy files (.directory path) (DirectoryStore.mk root).toStore :=
          ⟨root, hsettles, rfl⟩
        rw [hstore]
        exact adds_mountShared hbuilt (servedBy_ofStore hserved) world
      · refine .inr ⟨mt husableIff.mp husable, fault, by rw [hstore]; rfl, ?_⟩
        rcases hkind with rfl | ⟨cause, rfl⟩ <;> exact fun _ => Fault.noConfusion

/-! ## Creation -/

/-- What is done once the settings are checked and the layer is added. -/
def mountSources (app : Application) : Serving Application := do
  let app ← app.mountDirectory
  let app ← app.mountPackage
  let app ← app.mountWebjars
  if app.handlers.isEmpty then
    Serving.note Channel.application Level.warning
      "No resource locations configured; every request will 404"
  return app

theorem adds_mountSources (hbuilt : IsBuilt config files [] app) (world : World)
    (hfiles : world.host.files = files) (hexists : config.directoryExists files = true) :
    config.HasUsableRoot files ∧
        Adds config files [] config.sources (app.mountSources world).1 ∨
      ¬ config.HasUsableRoot files ∧ ∃ fault, (app.mountSources world).1 = .error fault ∧
        ∀ cause, fault ≠ .config cause := by
  rcases mountDirectory_outcome hbuilt world hfiles hexists with
    ⟨husable, hadds⟩ | ⟨husable, fault, hrun, hkind⟩
  · refine .inl ⟨husable, ?_⟩
    rw [Config.sources, List.append_assoc]
    refine hadds.bind fun app world hbuilt => ?_
    refine (adds_mountPackage hbuilt world).bind fun app world hbuilt => ?_
    rw [← List.append_nil ((source? config.webjarsPackage).toList.map _)]
    refine (adds_mountWebjars hbuilt world).bind fun app world hbuilt => ?_
    split
    · exact adds_nothing hbuilt
    · exact adds_nothing hbuilt
  · refine .inr ⟨husable, fault, ?_, hkind⟩
    rw [mountSources, Actions.bind_of_error (Prod.ext hrun rfl)]

theorem create_of_fault {fault : ConfigFault} {world : World}
    (hfault : config.fault? world.host.files = some fault) :
    (create config world).1 = .error (.config fault) := by
  have hvalidate : config.validate world.host.files = .error (.config fault) := by
    rw [Config.validate, hfault]
  rw [create, Actions.bind_of_ok (Actions.get_apply world), hvalidate]
  rfl

/-- Settings without a fault have an age and a format that can be used. -/
theorem ofConfig_of_valid (hvalid : config.fault? files = none) :
    config.directoryExists files = true ∧
      (∃ policy, CachePolicy.ofMaxAge config.cacheMaxAge config.production = .ok policy) ∧
      ∃ layer, accessLayer config = .ok layer := by
  simp only [Config.fault?, Config.checks, List.findSome?_eq_none_iff,
    List.forall_mem_cons] at hvalid
  obtain ⟨-, hage, hdirectory, -, hformat, -⟩ := hvalid
  refine ⟨?_, ?_, ?_⟩
  · by_contra hnone
    simp [hnone] at hdirectory
  · have hage : ¬ config.cacheMaxAge < 0 := by
      intro hlt
      simp [hlt] at hage
    exact ⟨_, if_neg hage⟩
  · have hname : config.logFormat = "text" ∨ config.logFormat = "json" := by
      by_contra hnone
      simp [LogFormat.names, not_or.mp hnone] at hformat
    rcases hname with hname | hname <;> rw [accessLayer, hname] <;> exact ⟨_, rfl⟩

theorem create_of_valid {world : World} (hvalid : config.fault? world.host.files = none) :
    ∃ app after, IsBuilt config world.host.files [] app ∧ after.host = world.host ∧
      create config world = app.mountSources after := by
  obtain ⟨-, ⟨policy, hpolicy⟩, ⟨layer, hlayer⟩⟩ := ofConfig_of_valid hvalid
  have hvalidate : config.validate world.host.files = .ok () := by
    rw [Config.validate, hvalid]
  have happ : ofConfig config = .ok { config, policy } := by
    rw [ofConfig, hpolicy]
    rfl
  refine ⟨Application.addLayer { config, policy } layer, (layer.noteAdded world).2, ?_, ?_, ?_⟩
  · exact ⟨rfl, hpolicy, ⟨layer, hlayer, rfl⟩, ⟨[], .nil, .nil⟩, by simp [addLayer], .fresh rfl⟩
  · change (world.note _).host = world.host
    unfold World.note
    split <;> rfl
  · rw [create, Actions.bind_of_ok (Actions.get_apply world), hvalidate, happ, hlayer]
    rfl

theorem validate_eq_ok_iff : config.validate files = .ok () ↔ config.fault? files = none := by
  rw [Config.validate]
  cases config.fault? files <;> simp

theorem validate_eq_error_iff {fault : ConfigFault} :
    config.validate files = .error (.config fault) ↔ config.fault? files = some fault := by
  rw [Config.validate]
  cases config.fault? files <;> simp

/-- Building the application of the settings fails with a fault of the settings exactly if checking
them does. Settings that pass are built exactly if no two sources share a URL path and the directory
can be asked for by its settled path, and what is built has one handler for each source at its URL
path and no other. -/
theorem create_outcome (config : Config) (world : World) :
    (∀ fault, (create config world).1 = .error (.config fault) ↔
      config.validate world.host.files = .error (.config fault)) ∧
    (config.validate world.host.files = .ok () →
      ((∃ app, (create config world).1 = .ok app) ↔
        (urlPaths config.sources).Nodup ∧ config.HasUsableRoot world.host.files)) ∧
    ∀ app, (create config world).1 = .ok app →
      IsBuilt config world.host.files config.sources app := by
  simp only [validate_eq_ok_iff, validate_eq_error_iff]
  cases hfault : config.fault? world.host.files with
  | some found =>
      rw [create_of_fault hfault]
      simp
  | none =>
      obtain ⟨app, after, hbuilt, hhost, hrun⟩ := create_of_valid hfault
      rw [hrun]
      rcases adds_mountSources hbuilt after (by rw [hhost]) (ofConfig_of_valid hfault).1 with
        ⟨husable, ⟨hnodup, app, hmounted, hbuilt⟩ | ⟨htaken, urlPath, hrefused⟩⟩ |
        ⟨husable, fault, hfailed, hkind⟩
      · rw [List.nil_append] at hnodup hbuilt
        rw [hmounted]
        simpa [hnodup, husable] using hbuilt
      · rw [List.nil_append] at htaken
        rw [hrefused]
        simp [htaken]
      · rw [hfailed]
        simpa [husable] using hkind

/-- Settings that pass their checks and put two packages at one URL path cannot be built. -/
theorem not_create_complete : ¬ ∀ (config : Config) (world : World),
    config.validate world.host.files = .ok () →
      ∃ app, (create config world).1 = .ok app ∧
        IsBuilt config world.host.files config.sources app := by
  intro hcomplete
  have hvalid : ({ resourcePackage := some "demo", webjarsPackage := some "demo"
                   webjarsUrlPath := "/assets" } : Config).fault? {} = none := by
    decide +kernel
  obtain ⟨app, happ, hbuilt⟩ := hcomplete _ {} (validate_eq_ok_iff.mpr hvalid)
  have hnodup := hbuilt.nodup
  revert hnodup
  decide +kernel

end Application

end VersionedAssets
