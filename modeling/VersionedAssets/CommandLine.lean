import VersionedAssets.Application
import VersionedAssets.CommandLine.Options

/-! # Command line

The program serves resources, or prints the versioned URL of one of them. Options overrule the
variables of the environment. A configuration that cannot be used ends the program with status 2, a
resource that has no URL with status 1.
-/

namespace VersionedAssets.CommandLine

/-- What `--version` prints. -/
def versionText : String := "assetserver 1.0.0\n"

/-- Does the text write an integer? -/
def isInteger (text : String) : Bool :=
  match Text.Numeral.read text with
  | .ok _ => true
  | .error _ => false

/-- An option that takes a value, which stands for the setting of the same name in upper case. -/
def valueOption (key : String) (names : List String) (summary : String)
    (accepts : String → Bool := fun _ => true) : OptionSpec :=
  ⟨key, names, .value (Text.upper key) accepts, summary⟩

/-- An option that takes one of several texts. -/
def choiceOption (key : String) (names choices : List String) (summary : String) : OptionSpec :=
  ⟨key, names, .value (choiceText choices) choices.contains, summary⟩

/-- The option that asks for help. -/
def helpOption : OptionSpec :=
  ⟨"help", ["-h", "--help"], .help, "show this help message and exit"⟩

/-- Ways to call the program. -/
def examplesText : String := Text.join "\n" [
  "Examples:",
  "  python -m assetserver --public ./public                   # Serve a directory",
  "  python -m assetserver --package myapp serve --port 3000   # Serve package data",
  "  python -m assetserver --public ./public version app.js    # Versioned URL",
  "        "]

/-- The arguments of the program. -/
def grammar : Grammar where
  program := "assetserver"
  about := "Serve versioned static resources over WSGI"
  options := [
    helpOption,
    valueOption "public_dir" ["--public", "-s"]
      "Directory to serve under --public-url (e.g., ./public)",
    valueOption "public_url_path" ["--public-url"]
      "URL prefix for the public directory (default: /public)",
    valueOption "resource_package" ["--package"]
      "Package whose bundled 'public' directory is served under /assets",
    valueOption "webjars_package" ["--webjars"]
      "Package holding a 'webjars/<library>/<version>/' tree",
    valueOption "cache_max_age" ["--max-age"]
      "Cache-Control max-age in seconds (default: 3600)" isInteger,
    ⟨"dev", ["--dev"], .flag, "Development mode: Cache-Control: no-cache"⟩,
    choiceOption "log_level" ["--log-level", "-l"] Config.levelNames
      "Logging level (default: INFO)",
    choiceOption "log_format" ["--log-format"] LogFormat.names
      "Access log format (default: text)",
    ⟨"version", ["--version", "-v"], .exit versionText, "show program's version number and exit"⟩]
  operand := .command [
    ("serve", "Run the development server (default)"),
    ("version", "Print the versioned URL of a resource")]
  closing := examplesText

/-- The arguments of the command that serves. -/
def serveGrammar : Grammar where
  program := "assetserver serve"
  options := [
    helpOption,
    valueOption "host" ["--host", "-H"]
      "Host to bind to (default: 127.0.0.1, use 0.0.0.0 for containers)",
    valueOption "port" ["--port", "-p"] "Port to listen on (default: 8080)" isInteger]
  operand := .none

/-- The arguments of the command that prints a URL. -/
def versionGrammar : Grammar where
  program := "assetserver version"
  options := [helpOption]
  operand := .one "path" "Resource path, e.g. css/site.css"

/-- What the program is asked to do. -/
inductive Command where
  /-- Serve, because nothing else was asked for. -/
  | implied
  | serve
  | version (path : String)
  deriving DecidableEq, Repr

/-- The name of a command, if one was given. -/
def Command.name? : Command → Option String
  | implied => none
  | serve => some "serve"
  | version _ => some "version"

/-- A command and the settings that arguments made. -/
structure Invocation where
  command : Command
  settings : List Setting
  deriving DecidableEq, Repr

namespace Invocation

/-- The last setting with a key, which is the one that counts. -/
def find? (invocation : Invocation) (key : String) : Option Setting :=
  invocation.settings.reverse.find? fun setting => setting.key == key

/-- The value of a setting. -/
def get? (invocation : Invocation) (key : String) : Option String :=
  (invocation.find? key).bind (·.value)

/-- Was a setting made blank? -/
def isBlank (invocation : Invocation) (key : String) : Bool :=
  (invocation.find? key).any (·.value.isNone)

/-- The integer of a setting. -/
def int? (invocation : Invocation) (key : String) : Option Int :=
  (invocation.get? key).bind fun text => (Text.Numeral.read text).toOption

/-- How a blank setting is written in records. -/
def blankText : String := "[]"

/-- What stands for the number of a blank setting, which is refused before it is used. -/
def blankNumber : Int := 0

/-- The integer of a setting, or else the given one. -/
def number (invocation : Invocation) (key : String) (other : Int) : Int :=
  if invocation.isBlank key then blankNumber else (invocation.int? key).getD other

/-- The text of a setting, or else the given one. -/
def text (invocation : Invocation) (key other : String) : String :=
  if invocation.isBlank key then blankText else (invocation.get? key).getD other

/-- The source of a setting, or else the given one. A blank setting names no source. -/
def source? (invocation : Invocation) (key : String) (other : Option String) : Option String :=
  if invocation.isBlank key then none else (invocation.get? key).or other

/-- The settings of the program with those that arguments made put over them. -/
def overrule (invocation : Invocation) (config : Config) : Config where
  host := invocation.text "host" config.host
  port := invocation.number "port" config.port
  publicDirectory := invocation.source? "public_dir" config.publicDirectory
  publicUrlPath := invocation.text "public_url_path" config.publicUrlPath
  resourcePackage := invocation.source? "resource_package" config.resourcePackage
  resourceUrlPath := config.resourceUrlPath
  webjarsPackage := invocation.source? "webjars_package" config.webjarsPackage
  webjarsUrlPath := config.webjarsUrlPath
  cacheMaxAge := invocation.number "cache_max_age" config.cacheMaxAge
  production := if (invocation.find? "dev").isSome then false else config.production
  logLevel := invocation.text "log_level" config.logLevel
  logFormat := invocation.text "log_format" config.logFormat

/-- The settings of the program: those of the environment, overruled by arguments. -/
def config (invocation : Invocation) (env : Variables) : Except Fault Config :=
  (Config.ofVariables env).map invocation.overrule

/-- The faults of checking a setting that is blank. Where only a few texts will do, being blank is a
fault like that of any other text. -/
def blankFaults : List (String × Fault) := [
  ("port", .mistyped (.blankSetting "port")),
  ("cache_max_age", .mistyped (.blankSetting "cache_max_age")),
  ("public_dir", .mistyped (.blankSetting "public_dir")),
  ("public_url_path", .lacking "public_url_path")]

/-- The fault of a check, which is another one if its setting is blank. -/
def checkFault? (invocation : Invocation) (check : String × Option ConfigFault) : Option Fault :=
  ((if invocation.isBlank check.1 then blankFaults.lookup check.1 else none).or
    (check.2.map Fault.config))

/-- The level that records are filtered by. -/
def level (invocation : Invocation) (config : Config) : Except Fault Level :=
  if invocation.isBlank "log_level" then .error (.lacking "log_level") else config.level.level?

/-- Refuses settings with a fault. -/
def validate (invocation : Invocation) (config : Config) (files : FileTree) : Except Fault Unit :=
  match (config.checks files).findSome? invocation.checkFault? with
  | some fault => .error fault
  | none => .ok ()

end Invocation

/-- The command of the arguments after the options, with what its own parser found. -/
def readCommand : List String → Except Ending (Command × Parsed)
  | [] => .ok (.implied, {})
  | name :: arguments =>
    if name = "serve" then (serveGrammar.parse arguments).map fun parsed => (.serve, parsed)
    else if name = "version" then
      (versionGrammar.parse arguments).map fun parsed =>
        (.version (parsed.operands.headD ""), parsed)
    else .error .usage

/-- Reads the arguments. Arguments that nothing takes are refused at the end. -/
def parse (arguments : List String) : Except Ending Invocation := do
  let parsed ← grammar.parse arguments
  let (command, inner) ← readCommand parsed.operands
  if parsed.extras.isEmpty && inner.extras.isEmpty then
    return { command, settings := parsed.settings ++ inner.settings }
  else throw .usage

/-- What the program leaves when it ends. -/
structure Outcome where
  status : Nat
  output : String := ""
  errors : String := ""
  /-- The address of the server, if one was run. -/
  served : Option (String × Int) := none
  deriving DecidableEq, Repr

/-- The outcome of a fault that the user is told about. -/
def told (status : Nat) (fault : Fault) : Outcome :=
  { status, errors := "Error: " ++ fault.message ++ "\n" }

/-- Is the fault one of the configuration? -/
def isConfigFault : Fault → Bool
  | .config _ => true
  | _ => false

/-- Is the fault one of a resource? -/
def isResourceFault : Fault → Bool
  | .resource _ => true
  | _ => false

/-- Builds the application of the settings with the journal set to their level. -/
def start (invocation : Invocation) (env : Variables) : Serving Application := do
  let config ← Application.ofExcept (invocation.config env)
  let threshold ← Application.ofExcept (invocation.level config)
  modify fun world => { world with threshold }
  Application.ofExcept (invocation.validate config (← get).host.files)
  Application.create config

/-- Carries the command out. -/
def perform (app : Application) (command : Command) (course : Application.ServerRun) :
    Serving Outcome := do
  match command with
  | .version path =>
    try
      return { status := 0, output := (← app.urlFor path none true) ++ "\n" }
    catch fault =>
      if isResourceFault fault then return told 1 fault else throw fault
  | _ => return { status := 0, served := some (← app.run none none course) }

/-- Runs the program after its arguments have been read. -/
def run (invocation : Invocation) (env : Variables) (course : Application.ServerRun) :
    Serving Outcome := do
  let started : Except Fault Application ← fun world =>
    let (outcome, after) := start invocation env world
    (.ok outcome, after)
  match started with
  | .ok app => perform app invocation.command course
  | .error fault => if isConfigFault fault then return told 2 fault else throw fault

end VersionedAssets.CommandLine
