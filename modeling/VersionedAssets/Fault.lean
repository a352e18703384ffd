import VersionedAssets.Text.Numeral

/-! # Faults

Everything that can go wrong, by cause. A fault has a kind, which is the name that access records
give it, and a message. Faults of a store are turned into resource faults where a resource is looked
up, described or opened; the application answers those with a 500 and lets all others through.
-/

namespace VersionedAssets

/-- A fault of input or output, as a file system or a stream reports it. -/
inductive IoFault where
  | device
  | denied
  | absent
  | present
  | notDirectory
  | isDirectory
  | nameTooLong
  | linkLoop
  | yearTooLarge
  /-- A directory of an archive where one of the file tree is asked for. -/
  | archiveDirectory
  deriving DecidableEq, Repr

namespace IoFault

/-- The kind of an input or output fault. -/
def kind : IoFault → String
  | denied => "PermissionError"
  | absent => "FileNotFoundError"
  | present => "FileExistsError"
  | notDirectory | archiveDirectory => "NotADirectoryError"
  | isDirectory => "IsADirectoryError"
  | device | nameTooLong | linkLoop | yearTooLarge => "OSError"

/-- The text of an input or output fault. -/
def message : IoFault → String
  | device => "[Errno 5] I/O error"
  | denied => "[Errno 13] Permission denied"
  | absent => "[Errno 2] No such file"
  | present => "[Errno 17] File exists"
  | notDirectory => "[Errno 20] Not a directory"
  | isDirectory => "[Errno 21] Is a directory"
  | nameTooLong => "[Errno 36] File name too long"
  | linkLoop => "[Errno 40] Too many levels of symbolic links"
  | yearTooLarge => "[Errno 75] Value too large for defined data type"
  | archiveDirectory => "MultiplexedPath only supports directories"

/-- Does the fault say that nothing is there, rather than that the store fails? -/
def isMissing : IoFault → Bool
  | absent | notDirectory | nameTooLong => true
  | _ => false

end IoFault

/-- A value that cannot be used. -/
inductive ValueFault where
  | numeral (fault : Text.Numeral.Fault)
  | status (code : Int)
  | closedStream
  | year (year : Int)
  | month
  | day
  | hour
  | minute
  | second
  | microsecond
  | maxAge (seconds : Int)
  | logFormat (name : String)
  | missingRoot (path : String)
  | mountTaken (urlPath : String)
  | notANumber
  | nulInPath
  | emptyPackageName
  | levelName (name : String)
  /-- A clock that is a day or more from UTC, given in minutes. -/
  | clockOffset (minutes : Int)
  | readLength
  | described (text : String)
  deriving DecidableEq, Repr

/-- A span of minutes as whole days and the seconds after them, leaving out what is zero. -/
def spanText (minutes : Int) : String :=
  let days := minutes / 1440
  let seconds := minutes % 1440 * 60
  "datetime.timedelta(" ++ (if days = 0 then "" else s!"days={days}") ++
    (if days = 0 ∨ seconds = 0 then "" else ", ") ++
    (if seconds = 0 then (if days = 0 then "0" else "") else s!"seconds={seconds}") ++ ")"

/-- The text of a value fault. -/
def ValueFault.message : ValueFault → String
  | numeral fault => fault.message
  | status code => s!"{code} is not a valid HTTPStatus"
  | closedStream => "I/O operation on closed file."
  | year y => s!"year {y} is out of range"
  | month => "month must be in 1..12"
  | day => "day is out of range for month"
  | hour => "hour must be in 0..23"
  | minute => "minute must be in 0..59"
  | second => "second must be in 0..59"
  | microsecond => "microsecond must be in 0..999999"
  | maxAge seconds => s!"max_age must be >= 0, got {seconds}"
  | logFormat name => "Unknown log format: " ++ Text.quoted name
  | missingRoot path => s!"Resource directory does not exist: {path}"
  | mountTaken urlPath =>
    "A handler is already mounted at '" ++ (if urlPath.isEmpty then "/" else urlPath) ++ "'"
  | notANumber => "cannot convert float NaN to integer"
  | nulInPath => "embedded null byte"
  | emptyPackageName => "Empty module name"
  | levelName name => "Unknown level: " ++ Text.quoted name
  | clockOffset minutes =>
    "offset must be a timedelta strictly between -timedelta(hours=24) and " ++
      "timedelta(hours=24), not " ++ spanText minutes ++ "."
  | readLength => "read length must be non-negative or -1"
  | described text => text

/-- A number outside of the range that it is stored in. -/
inductive OverflowFault where
  | seconds
  | quotient
  | wordTooLarge
  | aboveMaximum
  | belowMinimum
  | days (count : Int)
  | dayCount
  | dateRange
  | infinite
  | integerTooLarge
  | chunkSize
  | chunkTooLarge
  deriving DecidableEq, Repr

/-- The text of an overflow. -/
def OverflowFault.message : OverflowFault → String
  | seconds => "timestamp out of range for platform time_t"
  | quotient => "integer division result too large for a float"
  | wordTooLarge => "Python int too large to convert to C long"
  | aboveMaximum => "signed integer is greater than maximum"
  | belowMinimum => "signed integer is less than minimum"
  | days count => s!"days={count}; must have magnitude <= 999999999"
  | dayCount => "Python int too large to convert to C int"
  | dateRange => "date value out of range"
  | infinite => "cannot convert float infinity to integer"
  | integerTooLarge => "int too large to convert to float"
  | chunkSize => "cannot fit 'int' into an index-sized integer"
  | chunkTooLarge => "byte string is too large"

/-- A value of another kind than its use asks for. -/
inductive TypeFault where
  /-- A package name that begins with a dot. -/
  | packageRelative (name : String)
  /-- A name of a file of code where a package is asked for. -/
  | notPackage (name : String)
  /-- A number of steps that is not one, in a package without a mark of its own. -/
  | steps (count : Nat)
  /-- A name that stands for something else than a level. -/
  | level
  /-- A date with too few parts or too many, or with a part that is not an integer. -/
  | dateParts
  /-- A setting that there is not. -/
  | setting (key : String)
  /-- A setting without a value where a number or a path is asked for. -/
  | blankSetting (key : String)
  deriving DecidableEq, Repr

/-- The text of a type fault. -/
def TypeFault.message : TypeFault → String
  | packageRelative name =>
    "the 'package' argument is required to perform a relative import for " ++ Text.quoted name
  | notPackage name => Text.quoted name ++ " is not a package"
  | steps count =>
    s!"MultiplexedPath.joinpath() takes 2 positional arguments but {count + 1} were given"
  | level => "Level not an integer or a valid string"
  | dateParts => "Not the parts of a date"
  | setting key => s!"No setting {key}"
  | blankSetting key => s!"No value for {key}"

/-- A setting that does not hold what it must. -/
inductive ConfigFault where
  | port (port : Int)
  | maxAge
  | publicDirectory (path : String)
  | logLevel (name : String)
  | logFormat (name : String)
  | urlPath (path : String)
  | environment (fault : Text.Numeral.Fault)
  deriving DecidableEq, Repr

/-- The text of a configuration fault. -/
def ConfigFault.message : ConfigFault → String
  | port number => s!"Invalid port: {number}. Must be 0-65535."
  | maxAge => "cache_max_age must be >= 0"
  | publicDirectory path => s!"Public directory does not exist: {path}"
  | logLevel name => s!"Unknown log level: {name}"
  | logFormat name => s!"Unknown log format: {name}"
  | urlPath path => s!"URL path must start with '/': {path}"
  | environment fault => "Invalid environment configuration: " ++ fault.message

/-- A state in which an operation makes no sense. -/
inductive StateFault where
  | linkLoop (path : String)
  | described (text : String)
  deriving DecidableEq, Repr

/-- The text of a state fault. -/
def StateFault.message : StateFault → String
  | linkLoop path => "Symlink loop from " ++ Text.quoted path
  | described text => text

/-- What a resource fault results from. -/
inductive Cause where
  | io (fault : IoFault)
  | linkLoop (path : String)
  deriving DecidableEq, Repr

/-- The kind of the cause of a resource fault. -/
def Cause.kind : Cause → String
  | io fault => fault.kind
  | linkLoop _ => "RuntimeError"

/-- What could not be done with a resource. -/
inductive ResourceFailure where
  | lookup (target : String)
  | lookupBelow (path root : String)
  | listing (library package base : String)
  | metadata (uri : String)
  | opening (uri : String)
  | streaming (uri : String)
  | injection (path store : String)
  | unmounted (path : String)
  deriving DecidableEq, Repr

namespace ResourceFailure

/-- The text of a resource failure. -/
def message : ResourceFailure → String
  | lookup target => s!"Failed to resolve resource {target}"
  | lookupBelow path root => s!"Failed to resolve resource {path} in {root}"
  | listing library package base =>
    s!"Failed to list versions of {library} in package://{package}/{base}"
  | metadata uri => s!"Failed to read last modified property for {uri}"
  | opening uri => s!"Failed to open resource {uri}"
  | streaming uri => s!"Failed to stream resource {uri}"
  | injection path store => s!"Cannot inject version, resource '{path}' not found by {store}"
  | unmounted path => s!"No mounted handler can resolve '{path}'"

/-- The location that had been found when the failure arose. -/
def location? : ResourceFailure → Option String
  | metadata uri | opening uri | streaming uri => some uri
  | _ => none

end ResourceFailure

/-- A resource that could not be looked up or read. -/
structure ResourceFault where
  failure : ResourceFailure
  cause : Option Cause := none
  deriving DecidableEq, Repr

/-- The status that the application answers a resource fault with. -/
def ResourceFault.statusCode : Nat := 500

/-- Anything that can go wrong. -/
inductive Fault where
  | resource (fault : ResourceFault)
  | io (fault : IoFault)
  | value (fault : ValueFault)
  | overflow (fault : OverflowFault)
  | config (fault : ConfigFault)
  | state (fault : StateFault)
  /-- A response was changed or committed after it had been committed. -/
  | committed
  /-- A package that is not installed; `parent` is the one around it if that is a file of code. -/
  | packageMissing (name : String) (parent : Option String)
  | mistyped (fault : TypeFault)
  /-- Something without a value where a part of it is asked for. -/
  | lacking (name : String)
  /-- A number in a list that is not there. -/
  | index
  /-- Not enough memory for what is to be read. -/
  | memory
  deriving DecidableEq, Repr

namespace Fault

/-- The kind of a fault. -/
def kind : Fault → String
  | resource _ => "ResourceError"
  | io fault => fault.kind
  | value _ => "ValueError"
  | overflow _ => "OverflowError"
  | config _ => "ConfigError"
  | state _ => "RuntimeError"
  | committed => "ResponseCommitted"
  | packageMissing .. => "ModuleNotFoundError"
  | mistyped _ => "TypeError"
  | lacking _ => "AttributeError"
  | index => "IndexError"
  | memory => "MemoryError"

/-- The text of a fault. -/
def message : Fault → String
  | resource fault => fault.failure.message
  | io fault => fault.message
  | value fault => fault.message
  | overflow fault => fault.message
  | config fault => fault.message
  | state fault => fault.message
  | committed => "Response has already been committed"
  | packageMissing name none => "No module named " ++ Text.quoted name
  | packageMissing name (some parent) =>
    "No module named " ++ Text.quoted name ++ "; " ++ Text.quoted parent ++ " is not a package"
  | mistyped fault => fault.message
  | lacking name => s!"No value for {name}"
  | index => "list index out of range"
  | memory => ""

end Fault

end VersionedAssets
