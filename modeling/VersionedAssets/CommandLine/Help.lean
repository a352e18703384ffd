import VersionedAssets.CommandLine.Grammar
import VersionedAssets.Text.Pieces

/-! # Help texts

The help text of a grammar: how the program is called, what it is for, and what its operands and
options mean. Descriptions stand in a column beside what they describe, or below it where it is too
long. Texts are broken at blanks, so that lines are no longer than a fixed width.
-/

namespace VersionedAssets.CommandLine

/-- A line of a table in a help text. -/
structure HelpEntry where
  indent : Nat := 2
  /-- What is described. -/
  subject : String
  summary : String := ""

namespace HelpEntry

/-- The most characters in a line. -/
def width : Nat := 78

/-- The last column that descriptions may begin in. -/
def lastColumn : Nat := 24

/-- Blanks in a row. -/
def blanks (count : Nat) : String := String.ofList (List.replicate count ' ')

/-- Puts words after a line that was begun, and on further lines where it has no room for them. -/
def fillLines (indent : Nat) : String → List String → List String
  | line, [] => [line]
  | line, word :: words =>
    if line.length + 1 + word.length ≤ width then fillLines indent (line ++ " " ++ word) words
    else line :: fillLines indent (blanks indent ++ word) words

/-- Words on lines that all begin in one column. -/
def column (indent : Nat) : List String → List String
  | [] => []
  | word :: words => fillLines indent (blanks indent ++ word) words

/-- The line that begins with what is described. -/
def opening (entry : HelpEntry) : String := blanks entry.indent ++ entry.subject

/-- The lines of an entry whose description begins in a column. -/
def lines (entry : HelpEntry) (start : Nat) : List String :=
  match entry.summary.isEmpty, Text.pieces ' ' entry.summary with
  | false, word :: words =>
    if entry.opening.length + 2 ≤ start then
      fillLines start (entry.opening ++ blanks (start - entry.opening.length) ++ word) words
    else entry.opening :: column start (word :: words)
  | _, _ => [entry.opening]

end HelpEntry

namespace OptionSpec

/-- The names of an option, each with what stands for its value. -/
def forms (spec : OptionSpec) : List String :=
  match spec.kind with
  | .value placeholder _ => spec.names.map fun name => name ++ " " ++ placeholder
  | _ => spec.names

/-- How an option is shown in a call. -/
def call (spec : OptionSpec) : String := "[" ++ spec.forms.headD "" ++ "]"

/-- How an option is explained. -/
def entry (spec : OptionSpec) : HelpEntry :=
  { subject := Text.join ", " spec.forms, summary := spec.summary }

end OptionSpec

/-- Several texts of which one has to be chosen. -/
def choiceText (choices : List String) : String := "\x7b" ++ Text.join "," choices ++ "\x7d"

namespace OperandSpec

/-- How an operand is shown in a call. -/
def calls : OperandSpec → List String
  | none => []
  | one name _ => [name]
  | command choices => [choiceText (choices.map (·.1)), "..."]

/-- How an operand is explained. -/
def entries : OperandSpec → List HelpEntry
  | none => []
  | one name summary => [{ subject := name, summary }]
  | command choices =>
    { subject := choiceText (choices.map (·.1)) } ::
      choices.map fun (name, summary) => { indent := 4, subject := name, summary }

end OperandSpec

namespace Grammar

/-- How the program is called. What does not fit into one line is broken before the operands and
wherever a line is full. -/
def usage (grammar : Grammar) : String :=
  let opening := "usage: " ++ grammar.program
  let options := grammar.options.map OptionSpec.call
  let operands := grammar.operand.calls
  let whole := Text.join " " (opening :: options ++ operands)
  if whole.length ≤ HelpEntry.width then whole
  else
    let indent := opening.length + 1
    Text.join "\n" (HelpEntry.fillLines indent opening options ++ HelpEntry.column indent operands)

/-- All entries of the help text. -/
def helpEntries (grammar : Grammar) : List HelpEntry :=
  grammar.operand.entries ++ grammar.options.map OptionSpec.entry

/-- The column that descriptions begin in. -/
def helpColumn (grammar : Grammar) : Nat :=
  let openings := grammar.helpEntries.map HelpEntry.opening
  min (openings.foldl (fun column opening => max column (opening.length + 2)) 0)
    HelpEntry.lastColumn

/-- A table under a heading; nothing if it has no entries. -/
def helpTable (grammar : Grammar) (heading : String) (entries : List HelpEntry) : String :=
  if entries.isEmpty then ""
  else Text.join "\n" (heading :: entries.flatMap fun entry => entry.lines grammar.helpColumn)

/-- The help text. -/
def help (grammar : Grammar) : String :=
  let parts := [grammar.usage, grammar.about,
    grammar.helpTable "positional arguments:" grammar.operand.entries,
    grammar.helpTable "options:" (grammar.options.map OptionSpec.entry), grammar.closing]
  Text.join "\n\n" (parts.filter (· ≠ "")) ++ "\n"

end Grammar

end VersionedAssets.CommandLine
