import CatalogFeeds.Command.Usage
/-!
Reading the arguments of the program.

Arguments are read from left to right, and the first one that asks for help or does not fit ends
the reading. The value of an option stands in the same argument or in the next one; a value in
an argument of its own is only looked at when the next option or the end is reached.
-/

namespace CatalogFeeds.Command

/-- Why the reading of arguments ends early. -/
inductive Stop where
  | help (topic : Topic)
  | version
  | misuse
  deriving DecidableEq, Repr

/-- What has been read so far: the values of options, one whose value is still to be looked at,
the operands, and whether all further arguments are operands. -/
structure Found where
  values : List (OptionForm × String) := []
  pending : Option (OptionForm × String) := none
  operands : List String := []
  onlyOperands : Bool := false

namespace Found

/-- The value of an option, if it is given. -/
def value? (found : Found) (option : OptionForm) : Option String :=
  found.values.lookup option

/-- Takes the value of an option, which must not have been given before. -/
def take (found : Found) (option : OptionForm) (value : String) : Except Stop Found :=
  if (found.value? option).isSome || (option.isPath && value.isEmpty) then .error .misuse
  else .ok { found with values := (option, value) :: found.values }

/-- Takes the value that is still to be looked at. -/
def settle (found : Found) : Except Stop Found :=
  match found.pending with
  | none => .ok found
  | some (option, value) => take { found with pending := none } option value

end Found

/-! ### Arguments with hyphens -/

/-- What an argument with a hyphen in front is about. -/
inductive Mark where
  | option (form : OptionForm)
  | help
  | version

/-- What may stand behind hyphens, and what help is about. -/
structure Marks where
  options : List OptionForm
  topic : Topic
  hasVersion : Bool := false

namespace Marks

/-- The mark of a long name. -/
def long? (marks : Marks) (name : String) : Option Mark :=
  if name == "help" then some .help
  else if marks.hasVersion && name == "version" then some .version
  else (marks.options.find? (·.long == name)).map .option

/-- The mark of a letter. -/
def short? (marks : Marks) (letter : Char) : Option Mark :=
  if letter == 'h' then some .help
  else if marks.hasVersion && letter == 'V' then some .version
  else (marks.options.find? (·.short == some letter)).map .option

end Marks

/-- Whether an argument begins with a hyphen that is not all of it. -/
def isMarked (argument : String) : Bool :=
  argument.startsWith "-" && argument != "-"

/-- The name behind two hyphens, and the value behind an equals sign. -/
def splitLong (text : List Char) : String × Option String :=
  let value := match text.dropWhile (· != '=') with
    | [] => none
    | _ :: value => some (String.ofList value)
  (String.ofList (text.takeWhile (· != '=')), value)

/-- The value that stands behind a letter. -/
def attached : List Char → Option String
  | [] => none
  | '=' :: value => some (String.ofList value)
  | value => some (String.ofList value)

/-- What an argument with hyphens is about, and the value in it. -/
def readMark (marks : Marks) (argument : String) : Option (Mark × Option String) :=
  match argument.toList with
  | '-' :: '-' :: text => do
    let (name, value) := splitLong text
    match ← marks.long? name, value with
    | .option form, value => return (.option form, value)
    | mark, none => return (mark, none)
    | _, some _ => none
  | '-' :: letter :: text => do
    match ← marks.short? letter with
    | .option form => return (.option form, attached text)
    | mark => return (mark, none)
  | _ => none

/-- Reads an argument with hyphens; `next` is the one behind it. Tells also whether `next` is
the value of an option and thereby read as well. -/
def takeMarked (marks : Marks) (found : Found) (argument : String) (next : Option String) :
    Except Stop (Found × Bool) := do
  match readMark marks argument with
  | none => throw .misuse
  | some (.help, _) =>
    let _ ← found.settle
    throw (.help marks.topic)
  | some (.version, _) =>
    let _ ← found.settle
    throw .version
  | some (.option form, some value) =>
    let found ← found.settle
    return (← found.take form value, false)
  | some (.option form, none) =>
    let some value := next.filter (!isMarked ·) | throw .misuse
    let found ← found.settle
    return ({ found with pending := some (form, value) }, true)

/-! ### Commands -/

/-- Arguments that fit: the options of the program, and a command with what it is given. -/
structure Invocation where
  program : Found
  form : CommandForm
  command : Found

/-- Reads the arguments of a command that takes so many operands. -/
def readCommand (marks : Marks) (operands : Nat) : Found → List String → Except Stop Found
  | found, [] => do
    let found ← found.settle
    if found.operands.length == operands then return found else throw .misuse
  | found, argument :: rest => do
    if !found.onlyOperands && argument == "--" then
      readCommand marks operands { found with onlyOperands := true } rest
    else if !found.onlyOperands && isMarked argument then
      match ← takeMarked marks found argument rest.head?, rest with
      | (found, true), _ :: rest => readCommand marks operands found rest
      | (found, _), rest => readCommand marks operands found rest
    else if found.operands.length < operands then
      readCommand marks operands { found with operands := found.operands ++ [argument] } rest
    else throw .misuse

/-- The topic that the arguments of the command for help name. -/
def helpTopic : List String → Except Stop Topic
  | [] => .ok .program
  | [name] =>
    if name == helpName then .ok .help
    else match commandForms.find? (·.name == name) with
      | some form => .ok (.command form)
      | none => .error .misuse
  | _ => .error .misuse

/-- Reads the arguments behind the name of a command. -/
def enter (found : Found) (name : String) (rest : List String) : Except Stop Invocation := do
  if name == helpName then
    throw (.help (← helpTopic rest))
  let some form := commandForms.find? (·.name == name) | throw .misuse
  let marks : Marks := { options := form.options, topic := .command form }
  let command ← readCommand marks form.operands.length {} rest
  return { program := ← found.settle, form, command }

/-- What may stand behind hyphens in front of the name of a command. -/
def programMarks : Marks where
  options := programOptions
  topic := .program
  hasVersion := true

/-- Reads arguments up to the name of a command and goes on with those of the command. -/
def readProgram : Found → List String → Except Stop Invocation
  | _, [] => .error .misuse
  | found, argument :: rest => do
    if isMarked argument then
      match ← takeMarked programMarks found argument rest.head?, rest with
      | (found, true), _ :: rest => readProgram found rest
      | (found, _), rest => readProgram found rest
    else enter found argument rest

/-- Reads the arguments of the program. -/
def readArguments (arguments : List String) : Except Stop Invocation :=
  readProgram {} arguments

namespace Invocation

/-- The path of the settings file. -/
def settingsPath (invocation : Invocation) : String :=
  ((invocation.program.value? settingsOption).orElse fun _ => settingsOption.fallback).getD ""

/-- The directory of the cache, if it is given. -/
def cacheDirectory? (invocation : Invocation) : Option String :=
  invocation.program.value? cacheOption

/-- The directory that feeds are written to, if it is given. -/
def outputDirectory? (invocation : Invocation) : Option String :=
  invocation.command.value? outputOption

/-- An operand of the command. -/
def operand (invocation : Invocation) (position : Nat) : String :=
  (invocation.command.operands[position]?).getD ""

end Invocation

end CatalogFeeds.Command
