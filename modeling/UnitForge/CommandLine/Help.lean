import UnitForge.CommandLine.Arguments

set_option autoImplicit false

/-!
# Help

The help texts of commands, wrapped to a fixed width.

## Main definitions

* `UnitForge.CommandLine.helpFor`: the help on a command.
* `UnitForge.CommandLine.helpForAll`: the help on all commands.
-/

namespace UnitForge.CommandLine

/-- The width of the lines. -/
def helpWidth : Nat := 78

/-- The most characters of a term beside which its explanation begins. -/
def maxTermWidth : Nat := 30

/-- A word put at the start of lines of at most so many characters. -/
def wrapWord (width : Nat) (word : Text) : List Text → List Text
  | [] => [word]
  | line :: rest =>
    if word.length + 1 + line.length ≤ width then (line ++ ' ' :: word) :: rest
    else word :: line :: rest

/-- A text in lines of at most so many characters, where a single word may be longer. Two blanks in
a row stay two. -/
def wrap (width : Nat) (text : Text) : List Text :=
  ((Text.split ' ' text).foldl (fun lines word => wrapWord width word lines) []).reverse

/-- Lines set off by so many blanks. -/
def indentBy (n : Nat) (lines : List Text) : List Text := lines.map (List.replicate n ' ' ++ ·)

/-- A term with its explanation, where terms have the given width. -/
def definitionLines (width : Nat) (term explanation : Text) : List Text :=
  let column := width + 2
  let lines := wrap (helpWidth - column - 2) explanation
  match lines with
  | [] => [term]
  | first :: rest =>
    if term.length ≤ width then
      (term ++ List.replicate (column - term.length) ' ' ++ first) :: indentBy column rest
    else term :: indentBy column (first :: rest)

/-- A heading with terms and their explanations. -/
def definitionBlock (heading : String) (terms : List (Text × Text)) : List Text :=
  let width := min maxTermWidth ((terms.map (·.1.length)).foldl max 0)
  [] :: (Text.lit heading ++ [':']) ::
    indentBy 2 (terms.flatMap fun (term, explanation) => definitionLines width term explanation)

/-- The word for the values of an option. -/
def ValueRule.metavariable : ValueRule → Text
  | .any => Text.lit "TEXT"
  | .path .file _ => Text.lit "FILE"
  | .path .directory _ => Text.lit "DIRECTORY"
  | .oneOf choices => '[' :: Text.join ['|'] choices ++ [']']

/-- An option with its explanation. -/
def OptionForm.definition (o : OptionForm) : Text × Text :=
  let names := (o.short.elim [] fun short => short ++ [',', ' ']) ++ o.name
  (if o.takesValue then names ++ ' ' :: o.rule.metavariable else names,
    if o.required then o.help ++ Text.lit "  [required]" else o.help)

/-- The help on a command of a program. -/
def helpFor (program : Text) (f : CommandForm) : List Text :=
  [Text.lit "Usage: " ++ program ++ ' ' :: f.name ++ Text.lit " [OPTIONS] " ++ f.argument.title] ++
    f.help.flatMap (fun paragraph => [] :: indentBy 2 (wrap (helpWidth - 2) paragraph)) ++
    definitionBlock "Options" (f.allOptions.map OptionForm.definition)

/-- The help on all commands of a program. -/
def helpForAll (program : Text) (summary : Text) (forms : List CommandForm) : List Text :=
  [Text.lit "Usage: " ++ program ++ Text.lit " [OPTIONS] COMMAND [ARGS]...", [],
    Text.lit "  " ++ summary] ++
    definitionBlock "Options" [helpOption.definition] ++
    definitionBlock "Commands" (forms.map fun f => (f.name, (f.help.head?).getD []))

end UnitForge.CommandLine
