/-! # Grammars of command lines

What a program takes on its command line: flags, options with a value, and options that end the
program, each by long names of two dashes and short ones of one; and perhaps an operand or a
command, which hands everything after it to a grammar of its own. Each comes with the words that
explain it.
-/

namespace VersionedAssets.CommandLine

/-- What an option does. -/
inductive OptionKind where
  /-- Takes one value, which has to pass a test. -/
  | value (placeholder : String) (accepts : String → Bool)
  | flag
  /-- Ends the program with a text. -/
  | exit (text : String)
  /-- Ends the program with the help text. -/
  | help

/-- An option with its names. -/
structure OptionSpec where
  /-- The name of the setting that the option makes. -/
  key : String
  names : List String
  kind : OptionKind
  /-- What the option is for. -/
  summary : String

/-- What a parser takes besides options. -/
inductive OperandSpec where
  | none
  /-- Exactly one operand. -/
  | one (name summary : String)
  /-- Perhaps a command, which takes all arguments after it; each is given with its summary. -/
  | command (choices : List (String × String))

/-- What a parser understands. -/
structure Grammar where
  /-- How the program is called. -/
  program : String
  /-- What the program is for. -/
  about : String := ""
  options : List OptionSpec
  operand : OperandSpec
  /-- What is said at the end of the help text. -/
  closing : String := ""

end VersionedAssets.CommandLine
