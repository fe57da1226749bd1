import UnitForge.Layout.Reindent
import UnitForge.Notice
import UnitForge.Template.Value

set_option autoImplicit false

/-!
# Formatters

A formatter turns the assembled body of a unit into its final text, or refuses it. The plain
formatter checks the syntax and indents by brace depth; the other one has an external program do
the work.

## Main definitions

* `UnitForge.Layout.FormatterError`: why a body is refused, with its wording.
* `UnitForge.Layout.formatPlain`: the plain formatter, over any check of the syntax.
* `UnitForge.Layout.ExternalFormatter`: a formatter program, and how its runs are judged.
* `UnitForge.Layout.FormatterChoice`: which formatter a configuration asks for.
-/

namespace UnitForge.Layout

/-- Why a formatter refuses a source. -/
inductive FormatterError where
  /-- The source has a syntax error in that line. -/
  | unparsable (line : Int)
  /-- There is no such program. -/
  | programMissing (executable : Text)
  /-- The program did not finish within that many seconds. -/
  | timedOut (executable : Text) (seconds : Value)
  /-- The program failed with that text. -/
  | programFailed (reason : Text)
  /-- The source was refused with that text, perhaps because of a certain line. -/
  | refused (reason : Text) (line : Option Int)

/-- The line that a source was refused for. -/
def FormatterError.line : FormatterError → Option Int
  | .unparsable line => some line
  | .refused _ line => line
  | _ => none

/-- What is wrong, without the line. -/
def FormatterError.reason : FormatterError → Text
  | .unparsable _ => Text.lit "Generated source does not parse"
  | .programMissing executable => executable ++ Text.lit " not found"
  | .timedOut executable seconds =>
    executable ++ Text.lit " timed out after " ++ seconds.quoted ++ Text.lit "s"
  | .programFailed reason => reason
  | .refused reason _ => reason

/-- The wording of a refusal. -/
def FormatterError.message (e : FormatterError) : Text :=
  match e.line with
  | none => e.reason
  | some line => Text.lit "line " ++ Number.showInt line ++ Text.lit ": " ++ e.reason

/-- What is reported beside a refusal. -/
def FormatterError.notices : FormatterError → List Notice
  | .programMissing executable => [.formatterMissing executable]
  | _ => []

/-- The indentation by which the plain formatter sets off a block. -/
def standardIndent : Text := Text.lit "  "

/-- Formats a source whose first syntax error `check` finds. -/
def formatPlain (check : Text → Option Int) (indent source : Text) : Except FormatterError Text :=
  match check source with
  | some line => .error (.unparsable line)
  | none => .ok (reindent indent source)

/-- A formatter program. -/
structure ExternalFormatter where
  /-- The name of the program. -/
  executable : Text := Text.lit "google-java-format"
  /-- How many seconds it may take. -/
  timeout : Value := .float ⟨false, 8444249301319680, -47⟩

/-- How a run of a program ended. -/
inductive ProgramRun where
  /-- There is no such program. -/
  | missing
  /-- The program was stopped after the time allowed. -/
  | timedOut
  /-- The program ended, with a status and what it wrote. -/
  | finished (status : Int) (output errors : Text)

/-- The programs that can be run: how a command line ends on a given standard input. -/
abbrev Programs := List Text → Text → ProgramRun

/-- The command line of a formatter program; the source is its standard input. -/
def ExternalFormatter.command (f : ExternalFormatter) : List Text := [f.executable, Text.lit "-"]

/-- What a run of a formatter program says about the source. -/
def ExternalFormatter.judge (f : ExternalFormatter) : ProgramRun → Except FormatterError Text
  | .missing => .error (.programMissing f.executable)
  | .timedOut => .error (.timedOut f.executable f.timeout)
  | .finished status output errors =>
    if status = 0 then .ok output
    else
      let reason := Text.trim errors
      .error (.programFailed
        (if reason.isEmpty then f.executable ++ Text.lit " failed" else reason))

/-- Formats a source by one of the programs. -/
def ExternalFormatter.format (f : ExternalFormatter) (programs : Programs) (source : Text) :
    Except FormatterError Text :=
  f.judge (programs f.command source)

/-- A formatter that can be asked for. -/
inductive FormatterChoice where
  /-- The plain formatter with the given indentation. -/
  | plain (indent : Text)
  /-- A formatter program. -/
  | external (formatter : ExternalFormatter)

/-- There is no formatter of the given name. -/
structure UnknownFormatter where
  /-- The name asked for. -/
  name : Text

/-- The wording of a wrong choice of formatter. -/
def UnknownFormatter.message (e : UnknownFormatter) : Text :=
  Text.lit "Unknown formatter " ++ Text.quoted e.name

/-- The formatter with the given name, where `executable` is the program to use if it is an
external one. -/
def FormatterChoice.ofName (name executable : Text) : Except UnknownFormatter FormatterChoice :=
  if name = Text.lit "basic" then .ok (.plain standardIndent)
  else if name = Text.lit "google-java-format" then .ok (.external { executable })
  else .error ⟨name⟩

end UnitForge.Layout
