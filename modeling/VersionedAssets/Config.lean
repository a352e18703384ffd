import VersionedAssets.AccessLog

/-! # Configuration

The settings of an application. They come from variables of the environment, which may be overruled,
and are checked once before the application is built.
-/

namespace VersionedAssets

/-- The settings of an application. -/
structure Config where
  host : String := "127.0.0.1"
  port : Int := 8080
  /-- A directory to serve. -/
  publicDirectory : Option String := none
  publicUrlPath : String := "/public"
  /-- A package with a directory to serve. -/
  resourcePackage : Option String := none
  resourceUrlPath : String := "/assets"
  /-- A package with web libraries to serve. -/
  webjarsPackage : Option String := none
  webjarsUrlPath : String := "/webjars"
  cacheMaxAge : Int := 3600
  production : Bool := true
  logLevel : String := "INFO"
  logFormat : String := "text"
  deriving DecidableEq, Repr, Inhabited

/-- Variables of the environment. -/
abbrev Variables := List (String × String)

namespace Config

/-- The names of the levels that may be set. -/
def levelNames : List String := ["DEBUG", "INFO", "WARNING", "ERROR", "CRITICAL"]

/-- The names of the variables that settings are read from. -/
def variableNames : List String := [
  "ASSETS_HOST", "ASSETS_PORT", "ASSETS_PUBLIC_DIR", "ASSETS_PUBLIC_URL_PATH", "ASSETS_PACKAGE",
  "ASSETS_WEBJARS_PACKAGE", "ASSETS_CACHE_MAX_AGE", "ASSETS_PRODUCTION", "ASSETS_LOG_LEVEL",
  "ASSETS_LOG_FORMAT"]

/-- Does the text say yes? -/
def isYes (text : String) : Bool :=
  ["1", "true", "yes", "on"].contains (Text.lower (Text.trim text))

/-- The integer of a variable, or else the given one. -/
def readInt (env : Variables) (name : String) (fallback : Int) : Except Fault Int :=
  match env.lookup name with
  | none => .ok fallback
  | some text =>
    match Text.Numeral.read text with
    | .ok n => .ok n
    | .error fault => .error (.config (.environment fault))

/-- The settings that the environment makes. -/
def ofVariables (env : Variables) : Except Fault Config := do
  let fallback : Config := {}
  let port ← readInt env "ASSETS_PORT" fallback.port
  let cacheMaxAge ← readInt env "ASSETS_CACHE_MAX_AGE" fallback.cacheMaxAge
  return {
    host := (env.lookup "ASSETS_HOST").getD fallback.host
    port
    publicDirectory := env.lookup "ASSETS_PUBLIC_DIR"
    publicUrlPath := (env.lookup "ASSETS_PUBLIC_URL_PATH").getD fallback.publicUrlPath
    resourcePackage := env.lookup "ASSETS_PACKAGE"
    webjarsPackage := env.lookup "ASSETS_WEBJARS_PACKAGE"
    cacheMaxAge
    production := ((env.lookup "ASSETS_PRODUCTION").map isYes).getD fallback.production
    logLevel := Text.upper ((env.lookup "ASSETS_LOG_LEVEL").getD fallback.logLevel)
    logFormat := Text.lower ((env.lookup "ASSETS_LOG_FORMAT").getD fallback.logFormat) }

/-- What the level of the settings stands for. -/
def level (config : Config) : LevelWord := LevelWord.ofName config.logLevel

/-- Is the directory to serve there, if one is set? -/
def directoryExists (config : Config) (files : FileTree) : Bool :=
  match config.publicDirectory with
  | none => true
  | some path => files.hasDirectory path

/-- The fault of a URL path that does not begin at the root. -/
def urlPathFault? (path : String) : Option ConfigFault :=
  if Text.startsWith path "/" then none else some (.urlPath path)

/-- The checks on the settings in their order, each with the name of its setting and the fault that
it finds. -/
def checks (config : Config) (files : FileTree) : List (String × Option ConfigFault) := [
  ("port", if 0 ≤ config.port ∧ config.port < 65536 then none else some (.port config.port)),
  ("cache_max_age", if config.cacheMaxAge < 0 then some .maxAge else none),
  ("public_dir", if config.directoryExists files then none
    else some (.publicDirectory (config.publicDirectory.getD ""))),
  ("log_level", if levelNames.contains (Text.upper config.logLevel) then none
    else some (.logLevel config.logLevel)),
  ("log_format", if LogFormat.names.contains config.logFormat then none
    else some (.logFormat config.logFormat)),
  ("public_url_path", urlPathFault? config.publicUrlPath),
  ("resource_url_path", urlPathFault? config.resourceUrlPath),
  ("webjars_url_path", urlPathFault? config.webjarsUrlPath)]

/-- The first setting that does not hold what it must. -/
def fault? (config : Config) (files : FileTree) : Option ConfigFault :=
  (config.checks files).findSome? (·.2)

/-- Refuses settings with a fault. -/
def validate (config : Config) (files : FileTree) : Except Fault Unit :=
  match config.fault? files with
  | some fault => .error (.config fault)
  | none => .ok ()

end Config

end VersionedAssets
