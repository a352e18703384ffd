import VersionedAssets.CommandLine.Help
import VersionedAssets.Text.Digit

/-! # Options of a command line

How the arguments of a command line are read by a grammar. Long names of options may be cut as long
as only one option is meant, a value may follow `=` or, for a short name, stand right after it, and
short flags may be joined. After `--` every argument is an operand.
-/

namespace VersionedAssets.CommandLine

/-- The argument after which all arguments are operands. -/
def separator : String := "--"

/-- A setting made by an argument. A separator is no value: an option that one is attached to makes
its setting blank. Flags are set to the empty text. -/
structure Setting where
  key : String
  value : Option String
  deriving DecidableEq, Repr

/-- How parsing ends when it does not end well. -/
inductive Ending where
  /-- The arguments make no sense. -/
  | usage
  /-- An option ended the program with a text. -/
  | exit (text : String)
  deriving DecidableEq, Repr

namespace Ending

/-- The status that the program ends with. -/
def status : Ending → Nat
  | usage => 2
  | exit _ => 0

/-- The text that the program prints before it ends. -/
def output : Ending → String
  | usage => ""
  | exit text => text

end Ending

/-- What an argument is taken for. -/
inductive Mark where
  /-- The separator before arguments that are all operands. -/
  | dashes
  | operand
  /-- An option, with its name and what stands after the name in the same argument. No option is
  known by an unknown name. -/
  | option (spec : Option OptionSpec) (name : String) (attached : Option String)

/-- Is the argument taken for an operand? -/
def Mark.isOperand : Mark → Bool
  | .operand => true
  | _ => false

/-- Is the argument taken for an option? -/
def Mark.isOption : Mark → Bool
  | .option .. => true
  | _ => false

namespace Grammar

/-- Every name with its option, in order. -/
def nameTable (grammar : Grammar) : List (String × OptionSpec) :=
  grammar.options.flatMap fun spec => spec.names.map fun name => (name, spec)

/-- The option with exactly the given name. -/
def find? (grammar : Grammar) (name : String) : Option OptionSpec := grammar.nameTable.lookup name

/-- What stands before and after the first `=`. -/
def cutEquals? (argument : String) : Option (String × String) :=
  (Text.cutFirst? '=' argument.toList).map fun (before, after) =>
    (String.ofList before, String.ofList after)

/-- The options that a long argument may mean by the beginning of their names. -/
def longMatches (grammar : Grammar) (argument : String) : List Mark :=
  let (head, attached) := match cutEquals? argument with
    | some (head, value) => (head, some value)
    | none => (argument, none)
  (grammar.nameTable.filter fun entry => Text.startsWith entry.1 head).map fun (name, spec) =>
    .option (some spec) name attached

/-- The options that a short argument may mean: the one of its first letter with the rest as a
value, or one by the beginning of its name. -/
def shortMatches (grammar : Grammar) (argument : String) : List Mark :=
  let letter := String.ofList (argument.toList.take 2)
  grammar.nameTable.filterMap fun (name, spec) =>
    if name = letter then some (.option (some spec) name (some (Text.dropFirst 2 argument)))
    else if Text.startsWith name argument then some (.option (some spec) name none)
    else none

/-- Is the character a decimal digit? -/
def isDecimal (c : Char) : Bool := (Text.digitValue? c).isSome

/-- Does the text look like a negative number? One line break may follow it. -/
def isNegativeNumber (argument : String) : Bool :=
  let cs := argument.toList
  match if cs.getLast? = some '\n' then cs.dropLast else cs with
  | '-' :: body =>
    match Text.cutFirst? '.' body with
    | none => !body.isEmpty && body.all isDecimal
    | some (whole, fraction) =>
      whole.all isDecimal && !fraction.isEmpty && fraction.all isDecimal
  | _ => false

/-- What an argument before the separator is taken for. -/
def mark (grammar : Grammar) (argument : String) : Except Ending Mark :=
  match argument.toList with
  | '-' :: second :: _ =>
    match grammar.find? argument with
    | some spec => .ok (.option (some spec) argument none)
    | none =>
      match (cutEquals? argument).bind fun (head, value) =>
          (grammar.find? head).map fun spec => Mark.option (some spec) head (some value) with
      | some found => .ok found
      | none =>
        match if second = '-' then grammar.longMatches argument
          else grammar.shortMatches argument with
        | [found] => .ok found
        | _ :: _ :: _ => .error .usage
        | [] =>
          if isNegativeNumber argument || Text.holds ' ' argument then .ok .operand
          else .ok (.option none argument none)
  | _ => .ok .operand

/-- What every argument is taken for. -/
def marks (grammar : Grammar) : List String → Except Ending (List Mark)
  | [] => .ok []
  | argument :: rest =>
    if argument = separator then .ok (.dashes :: rest.map fun _ => .operand)
    else do return (← grammar.mark argument) :: (← grammar.marks rest)

end Grammar

/-! ## Parsing -/

/-- An argument with what it is taken for. -/
abbrev Item := String × Mark

/-- What was found so far. -/
structure Parsed where
  settings : List Setting := []
  /-- The operand, or the command with its arguments. -/
  operands : List String := []
  /-- Arguments that nothing takes. -/
  extras : List String := []
  deriving DecidableEq, Repr

/-- An option to be carried out, with its value. -/
structure Action where
  spec : OptionSpec
  value : String

namespace Grammar

/-- How many items the operand takes, if it can begin with the first of them. -/
def operandCount? (grammar : Grammar) (items : List Item) : Option Nat :=
  let isDashes : Item → Bool := fun item => match item.2 with
    | .dashes => true
    | _ => false
  let opening := (items.takeWhile isDashes).length
  match items.drop opening with
  | (_, .operand) :: after =>
    match grammar.operand with
    | .none => none
    | .one .. => some (opening + 1 + (after.takeWhile isDashes).length)
    | .command _ => some items.length
  | _ => none

/-- The texts of the items that the operand takes. One operand is kept without separators, a command
with all its arguments as they are. -/
def operandTexts (grammar : Grammar) (items : List Item) : List String :=
  match grammar.operand with
  | .one .. => (items.filter fun item => item.2.isOperand).map (·.1)
  | _ => items.map (·.1)

/-- Carries an option out. -/
def perform (grammar : Grammar) (parsed : Parsed) (action : Action) : Except Ending Parsed :=
  let made (value : Option String) : Parsed :=
    { parsed with settings := parsed.settings ++ [⟨action.spec.key, value⟩] }
  match action.spec.kind with
  | .value _ accepts =>
    if action.value = separator then .ok (made none)
    else if accepts action.value then .ok (made (some action.value))
    else .error .usage
  | .flag => .ok (made (some ""))
  | .exit text => .error (.exit text)
  | .help => .error (.exit grammar.help)

/-- The options of a short name that has characters right after it, and the items after the last
option's value. The characters are the value of the option, or else the letters of more options. -/
def readLetters (grammar : Grammar) (after : List Item) (spec : OptionSpec) :
    List Char → Except Ending (List Action × List Item)
  | [] =>
    match spec.kind, after with
    | .value .., (value, .operand) :: rest => .ok ([⟨spec, value⟩], rest)
    | .value .., _ => .error .usage
    | _, _ => .ok ([⟨spec, ""⟩], after)
  | letter :: letters =>
    match spec.kind with
    | .value .. => .ok ([⟨spec, String.ofList (letter :: letters)⟩], after)
    | _ =>
      match grammar.find? (String.ofList ['-', letter]) with
      | none => .error .usage
      | some other =>
        (grammar.readLetters after other letters).map fun (actions, left) =>
          (⟨spec, ""⟩ :: actions, left)

/-- The options in an argument, and the items after the last option's value. Only a short name may
have more options after it. -/
def readOption (grammar : Grammar) (spec : OptionSpec) (name : String)
    (attached : Option String) (after : List Item) :
    Except Ending (List Action × List Item) :=
  match attached, spec.kind with
  | none, _ => grammar.readLetters after spec []
  | some value, .value .. => .ok ([⟨spec, value⟩], after)
  | some letters, _ =>
    if letters.isEmpty || Text.startsWith name "--" then .error .usage
    else grammar.readLetters after spec letters.toList

/-- Takes the operand from the front of the items, if it can begin there and was not taken before.
Gives what was found and the items left. -/
def takeOperand (grammar : Grammar) (parsed : Parsed) (items : List Item) :
    Parsed × List Item :=
  if !parsed.operands.isEmpty then (parsed, items)
  else match grammar.operandCount? items with
    | none => (parsed, items)
    | some count =>
      ({ parsed with operands := grammar.operandTexts (items.take count) }, items.drop count)

/-- Takes items until none is left. Operands are taken where they stand between options, and what
nothing takes is kept aside. -/
def parseItems (grammar : Grammar) : Nat → Parsed → List Item → Except Ending Parsed
  | 0, parsed, _ => .ok parsed
  | fuel + 1, parsed, items =>
    match items with
    | [] => .ok parsed
    | (argument, .option spec name attached) :: after =>
      match spec with
      | none => grammar.parseItems fuel { parsed with extras := parsed.extras ++ [argument] } after
      | some spec => do
        let (actions, left) ← grammar.readOption spec name attached after
        grammar.parseItems fuel (← actions.foldlM grammar.perform parsed) left
    | first :: after =>
      let (taken, left) := grammar.takeOperand parsed (first :: after)
      if left.length < items.length then grammar.parseItems fuel taken left
      else
        let skipped := items.takeWhile fun item => !item.2.isOption
        grammar.parseItems fuel { parsed with extras := parsed.extras ++ skipped.map (·.1) }
          (items.drop skipped.length)

/-- Parses the arguments. An operand that is needed has to be there. -/
def parse (grammar : Grammar) (arguments : List String) : Except Ending Parsed := do
  let marks ← grammar.marks arguments
  let parsed ← grammar.parseItems (arguments.length + 1) {} (arguments.zip marks)
  match grammar.operand with
  | .one .. => if parsed.operands.isEmpty then throw .usage else return parsed
  | _ => return parsed

end Grammar

end VersionedAssets.CommandLine
