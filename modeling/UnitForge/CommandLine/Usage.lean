import UnitForge.Text.Quoted

set_option autoImplicit false

/-!
# Usage errors

Why a command line is not understood.

## Main definitions

* `UnitForge.CommandLine.UsageError`: the reasons.
* `UnitForge.CommandLine.UsageError.message`: their wording.
-/

namespace UnitForge.CommandLine

/-- What a path has to lead to. -/
inductive PathKind where
  /-- A file. -/
  | file
  /-- A directory. -/
  | directory
  deriving DecidableEq, Repr

/-- The word for what a path leads to. -/
def PathKind.word : PathKind → Text
  | .file => Text.lit "file"
  | .directory => Text.lit "directory"

/-- The word with a capital letter. -/
def PathKind.title : PathKind → Text
  | .file => Text.lit "File"
  | .directory => Text.lit "Directory"

/-- What it leads to if it is of the wrong kind. -/
def PathKind.other : PathKind → PathKind
  | .file => .directory
  | .directory => .file

/-- What is wrong with a value. -/
inductive ValueFault where
  /-- There is nothing at that path. -/
  | missing (wanted : PathKind) (path : Text)
  /-- The path leads to something of the wrong kind. -/
  | wrongKind (wanted : PathKind) (path : Text)
  /-- The value is not one of the choices. -/
  | notChosen (value : Text) (choices : List Text)
  deriving DecidableEq, Repr

/-- The wording of a fault in a value. -/
def ValueFault.message : ValueFault → Text
  | .missing wanted path =>
    wanted.title ++ [' '] ++ Text.quoted path ++ Text.lit " does not exist."
  | .wrongKind wanted path =>
    wanted.title ++ [' '] ++ Text.quoted path ++ Text.lit " is a " ++ wanted.other.word ++ ['.']
  | .notChosen value choices =>
    Text.quoted value ++ Text.lit " is not one of " ++
      Text.join (Text.lit ", ") (choices.map Text.quoted) ++ ['.']

/-- Why a command line is not understood. -/
inductive UsageError where
  /-- There is no such option, but perhaps some like it. -/
  | noSuchOption (option : Text) (close : List Text)
  /-- There is no such command, but perhaps some like it. -/
  | noSuchCommand (command : Text) (close : List Text)
  /-- There is no command. -/
  | missingCommand
  /-- An option stands without a value. -/
  | valueNeeded (option : Text)
  /-- A switch stands with a value. -/
  | valueRefused (option : Text)
  /-- An option is missing. -/
  | missingOption (option : Text)
  /-- An argument is missing. -/
  | missingArgument (argument : Text)
  /-- There are more arguments than are taken. -/
  | extraArguments (arguments : List Text)
  /-- The value of an option or argument is refused. -/
  | badValue (subject : Text) (fault : ValueFault)
  /-- A value is refused with that text. -/
  | refused (reason : Text)
  /-- Nothing says where the unit is to go. -/
  | noDestination
  deriving DecidableEq, Repr

/-- A hint at words like a mistyped one. -/
def hint : List Text → Text
  | [] => []
  | [word] => Text.lit " Did you mean " ++ Text.quoted word ++ ['?']
  | words =>
    Text.lit " (Did you mean one of: " ++ Text.join (Text.lit ", ") (words.map Text.quoted) ++
      Text.lit "?)"

/-- The wording of a usage error. -/
def UsageError.message : UsageError → Text
  | .noSuchOption option close =>
    Text.lit "No such option " ++ Text.quoted option ++ ['.'] ++ hint close
  | .noSuchCommand command close =>
    Text.lit "No such command " ++ Text.quoted command ++ ['.'] ++ hint close
  | .missingCommand => Text.lit "Missing command."
  | .valueNeeded option =>
    Text.lit "Option " ++ Text.quoted option ++ Text.lit " requires an argument."
  | .valueRefused option =>
    Text.lit "Option " ++ Text.quoted option ++ Text.lit " does not take a value."
  | .missingOption option => Text.lit "Missing option '" ++ option ++ Text.lit "'."
  | .missingArgument argument => Text.lit "Missing argument '" ++ argument ++ Text.lit "'."
  | .extraArguments arguments =>
    Text.lit "Got unexpected extra argument" ++ (if arguments.length = 1 then [] else ['s']) ++
      Text.lit " (" ++ Text.join [' '] arguments ++ [')']
  | .badValue subject fault =>
    Text.lit "Invalid value for '" ++ subject ++ Text.lit "': " ++ fault.message
  | .refused reason => Text.lit "Invalid value: " ++ reason
  | .noDestination => Text.lit "Pass --output-dir or --dry-run"

end UnitForge.CommandLine
