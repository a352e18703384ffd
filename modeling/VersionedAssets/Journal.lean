import VersionedAssets.Fault
import VersionedAssets.Text.Letter

/-! # Journal records

A record has a channel, a level and a text. A record about a fault that was dealt with also holds
the fault. Levels are numbers; five of them have names of their own and zero means "not set".
-/

namespace VersionedAssets

/-- How important a record is. -/
abbrev Level := Int

namespace Level

def debug : Level := 10
def info : Level := 20
def warning : Level := 30
def error : Level := 40
def critical : Level := 50

/-- The name of a level. -/
def name (level : Level) : String :=
  if level = 0 then "NOTSET"
  else if level = debug then "DEBUG"
  else if level = info then "INFO"
  else if level = warning then "WARNING"
  else if level = error then "ERROR"
  else if level = critical then "CRITICAL"
  else s!"Level {level}"

end Level

/-- What the name of a level stands for. The names of levels share their table with the names of two
other things. -/
inductive LevelWord where
  | level (level : Level)
  /-- A format of records. -/
  | format (text : String)
  /-- The styles that formats are written in. -/
  | styles
  deriving DecidableEq, Repr

namespace LevelWord

/-- The table of names. -/
def table : List (String × LevelWord) := [
  ("DEBUG", level Level.debug), ("INFO", level Level.info), ("WARNING", level Level.warning),
  ("WARN", level Level.warning), ("ERROR", level Level.error), ("CRITICAL", level Level.critical),
  ("FATAL", level Level.critical), ("NOTSET", level 0),
  ("BASIC_FORMAT", format "%(levelname)s:%(name)s:%(message)s"), ("_STYLES", styles)]

/-- The meaning of a name in any case; the level `info` for a name that is not in the table. -/
def ofName (name : String) : LevelWord := (table.lookup (Text.upper name)).getD (level Level.info)

/-- The level that a name has to stand for where records are filtered. -/
def level? : LevelWord → Except Fault Level
  | level value => .ok value
  | format text => .error (.value (.levelName text))
  | styles => .error (.mistyped .level)

end LevelWord

/-- One entry of the journal. -/
structure Record where
  channel : String
  level : Level
  text : String
  fault : Option Fault := none
  deriving DecidableEq, Repr

/-- A record as one line, without its time. -/
def Record.line (record : Record) : String :=
  "[" ++ record.level.name ++ "] " ++ record.channel ++ ": " ++ record.text

/-- How the journal is set up when the program starts: the level from which on records are kept,
and the formats of lines and dates. -/
structure JournalSetup where
  threshold : Level
  lineFormat : String := "%(asctime)s [%(levelname)s] %(name)s: %(message)s"
  dateFormat : String := "%Y-%m-%d %H:%M:%S"
  deriving DecidableEq, Repr

/-- The setup for the level with a name in any case. -/
def JournalSetup.ofLevelName (name : String) : Except Fault JournalSetup :=
  (LevelWord.ofName name).level?.map fun threshold => { threshold }

/-! ## The channels that records are written to -/

namespace Channel

def application : String := "assetserver.app"
def access : String := "assetserver.access"
def cache : String := "assetserver.http.cache"
def resource : String := "assetserver.handlers.resource"
def location : String := "assetserver.resources.location"
def middleware : String := "assetserver.middleware.base"

end Channel

end VersionedAssets
