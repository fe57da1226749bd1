import UnitForge.CommandLine.Help
import UnitForge.CommandLine.Render
import UnitForge.CommandLine.Scan

set_option autoImplicit false

/-!
# The program

The first word of a command line that is not an option names the command; the words after it belong
to the command.

## Main definitions

* `UnitForge.CommandLine.run`: runs a command line on a tree of files, given the programs that can
  be run as formatters.
-/

namespace UnitForge.CommandLine

/-- The name of the program in its help texts. -/
def programName : Text := Text.lit "cli"

/-- What the program does. -/
def programSummary : Text :=
  Text.lit "unitgen - Generate Java source files with automatic imports."

/-- The commands, in ascending order of names. -/
def commands : List CommandForm := [renderForm, scanForm]

/-- The report on a command line that is not understood. -/
def refuse (d : Disk) (e : UsageError) : Report :=
  { status := 2, error := some e.message, disk := d }

/-- Runs a command on what was given. -/
def runCommand (d : Disk) (programs : Layout.Programs) (f : CommandForm) (g : Given) : Report :=
  match f.check d g with
  | .error e => refuse d e
  | .ok () =>
    if f.name = scanForm.name then (ScanRequest.ofGiven g).run d
    else
      match RenderRequest.ofGiven g with
      | .error e => refuse d e
      | .ok request => request.run d programs

/-- Runs the command that the first of some words names. -/
def dispatch (d : Disk) (programs : Layout.Programs) : List Text → Report
  | [] => refuse d .missingCommand
  | name :: words =>
    match commands.find? (·.name == name) with
    | none => refuse d (.noSuchCommand name (suggestions name (commands.map (·.name))))
    | some f =>
      match f.read words with
      | .error e => refuse d e
      | .ok g =>
        if g.has helpOption.name then { output := helpFor programName f, disk := d }
        else runCommand d programs f g

/-- Runs a command line on a tree of files. -/
def run (d : Disk) (programs : Layout.Programs) (words : List Text) : Report :=
  let help := helpForAll programName programSummary commands
  if words.isEmpty then { status := 2, hint := help, disk := d }
  else
    match readWords [helpOption] false words with
    | .error e => refuse d e
    | .ok g =>
      if g.has helpOption.name then { output := help, disk := d }
      else dispatch d programs g.arguments

end UnitForge.CommandLine
