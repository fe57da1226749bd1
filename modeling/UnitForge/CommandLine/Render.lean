import UnitForge.CommandLine.Arguments
import UnitForge.CommandLine.Console
import UnitForge.Java.Analyser
import UnitForge.Output.Directory
import UnitForge.Output.Memory
import UnitForge.GeneratedUnit
import UnitForge.Text.Lines

set_option autoImplicit false

/-!
# The command that renders a unit

The command reads a template from a file, opens a unit on a filer, drafts the body from the
template, and finishes the unit. Source roots are scanned first for the other types of the unit's
package.

## Main definitions

* `UnitForge.CommandLine.renderForm`: what it takes.
* `UnitForge.CommandLine.RenderRequest`: what it is asked for.
* `UnitForge.CommandLine.RenderRequest.run`: what it does.
-/

namespace UnitForge.CommandLine

/-- What the command takes. -/
def renderForm : CommandForm where
  name := Text.lit "render"
  help := [Text.lit "Render TEMPLATE as the body of a generated unit.",
    Text.lit "Type references in the template are written as $[com.example.Name]."]
  options := [
    { name := Text.lit "--class", required := true,
      help := Text.lit "Qualified name of the unit, e.g. com.example.Foo" },
    { name := Text.lit "--nested", repeatable := true,
      help := Text.lit "Nested class declared by the unit (repeatable)" },
    { name := Text.lit "--source-root", repeatable := true, rule := .path .directory true,
      help := Text.lit "Java source root to scan for package siblings (repeatable)" },
    { name := Text.lit "--output-dir", rule := .path .directory false,
      help := Text.lit "Directory to write the unit to" },
    { name := Text.lit "--dry-run", takesValue := false,
      help := Text.lit "Print the unit instead of writing it" },
    { name := Text.lit "--formatter",
      rule := .oneOf [Text.lit "basic", Text.lit "google-java-format"],
      help := Text.lit "Body formatter" },
    { name := Text.lit "--formatter-executable", help := Text.lit "Path to google-java-format" },
    { name := Text.lit "--feature", repeatable := true,
      help := Text.lit "Capability value as KEY=VALUE (repeatable)" },
    { name := Text.lit "--builtin", repeatable := true,
      help := Text.lit "Package never imported (repeatable, default java.lang)" },
    { name := Text.lit "--verbose", takesValue := false, help := Text.lit "Show debug logs" }]
  argument := { name := Text.lit "TEMPLATE", rule := .path .file true }

/-- Where a unit goes. -/
inductive Destination where
  /-- It is printed. -/
  | console
  /-- It is written below a directory. -/
  | directory (path : Text)
  deriving DecidableEq, Repr

/-- What the command is asked for. -/
structure RenderRequest where
  /-- The file with the body. -/
  template : Text
  /-- The type that the unit declares. -/
  name : QualifiedName
  /-- The types nested in it. -/
  nested : List QualifiedName
  /-- The roots to scan for the other types of its package. -/
  sourceRoots : List Text
  /-- Where the unit goes. -/
  destination : Destination
  /-- The name of the formatter. -/
  formatter : Text
  /-- The program to use if the formatter is an external one. -/
  executable : Text
  /-- The capabilities given. -/
  features : FeatureSet
  /-- The packages whose types are never imported. -/
  builtinPackages : List Text

namespace RenderRequest

/-- Where the unit goes: printing it comes before writing it. -/
def destinationOf (g : Given) : Except UsageError Destination :=
  if g.has (Text.lit "--dry-run") then .ok .console
  else
    match g.value? (Text.lit "--output-dir") with
    | some path => .ok (.directory path)
    | none => .error .noDestination

/-- A name given on the command line. -/
def nameOf (text : Text) : Except UsageError QualifiedName :=
  (QualifiedName.parse text).mapError fun e => .refused e.message

/-- The capabilities given on the command line. -/
def featuresOf (options : List Text) : Except UsageError FeatureSet :=
  match FeatureSet.ofOptions options with
  | .error e => .error (.refused e.message)
  | .ok values => .ok ⟨values.map fun (key, value) => (key, .ofText value)⟩

/-- The request that a command line makes. -/
def ofGiven (g : Given) : Except UsageError RenderRequest := do
  let destination ← destinationOf g
  let name ← nameOf ((g.value? (Text.lit "--class")).getD [])
  let nested ← (g.values (Text.lit "--nested")).mapM nameOf
  let features ← featuresOf (g.values (Text.lit "--feature"))
  let builtin := g.values (Text.lit "--builtin")
  let standard : Layout.ExternalFormatter := {}
  return {
    template := (g.arguments.head?).getD []
    name, nested
    sourceRoots := g.values (Text.lit "--source-root")
    destination
    formatter := (g.value? (Text.lit "--formatter")).getD (Text.lit "basic")
    executable := (g.value? (Text.lit "--formatter-executable")).getD standard.executable
    features
    builtinPackages := if builtin.isEmpty then [Text.lit "java.lang"] else builtin }

/-- The formatter asked for. -/
def formatterOf (r : RenderRequest) (programs : Layout.Programs) : Formatter :=
  .forTexts fun source =>
  match Layout.FormatterChoice.ofName r.formatter r.executable with
  | .error e => .error (.unknownFormatter e)
  | .ok (.plain indent) => (Java.formatter indent source).mapError .format
  | .ok (.external f) => (f.format programs source).mapError .format

/-- The types of the packages below the source roots, if there are roots to scan. -/
def siblings (d : Disk) (r : RenderRequest) : Except Failure (Option PackageLookup) :=
  if r.sourceRoots.isEmpty then .ok none
  else
    (Scan.symbolTable Java.analyser d { roots := r.sourceRoots }).map fun table =>
      some fun package => .ok (table.typesInPackage package)

/-- The text of the template. -/
def readTemplate (r : RenderRequest) (d : Disk) : Except Failure Text := do
  let bytes ← (d.readFile (Path.parse r.template).toText).mapError Failure.ofFile
  let text ← (Text.decodeUtf8 bytes).mapError Failure.undecodable
  return Text.unifyReturns text

/-- Writes the unit to a filer. The template is read when the unit has been opened. -/
def writeTo {σ : Type} (F : Filer σ) (r : RenderRequest) (programs : Layout.Programs)
    (siblings : Option PackageLookup) (diskOf : σ → Disk) (s : σ) : Except Failure Unit × σ :=
  let plan : UnitPlan := {
    name := r.name, nested := r.nested, originating := .ofText r.template, siblings,
    formatter := r.formatterOf programs, features := r.features,
    builtinPackages := r.builtinPackages }
  match GeneratedUnit.begin F plan s with
  | (.error e, s) => (.error e, s)
  | (.ok u, s) =>
    let (work, u) : Except Failure Unit × GeneratedUnit := match r.readTemplate (diskOf s) with
      | .error e => (.error e, u)
      | .ok text => u.append .main (.render text)
    let (outcome, _, s) := u.within F work s
    (outcome, s)

/-- The report on a unit, where `output` is what is printed if it was written. A refused target is
no more than a warning. -/
def report (outcome : Except Failure Unit) (output : List Text) (disk : Disk) : Report :=
  match outcome with
  | .ok () => { output, disk }
  | .error (.refused e) => { output := [withoutTags (Text.lit "Warning: " ++ e.message)], disk }
  | .error (.generation e) => { status := 1, error := some e.message, disk }
  | .error (.os e) => { status := 1, error := some e.message, disk }
  | .error e =>
    if e.isBadValue then { status := 1, error := some e.message, disk }
    else { status := 1, fatal := some e, disk }

/-- What has been written in memory, as it is printed. -/
def printed (raw : RawText) : Except Failure (List Text) :=
  (raw.toText.map fun text => [expandTabs text]).mapError .unencodable

/-- Renders the unit. -/
def run (d : Disk) (programs : Layout.Programs) (r : RenderRequest) : Report :=
  match r.siblings d with
  | .error e => { status := 1, fatal := some e, disk := d }
  | .ok siblings =>
    match r.destination with
    | .console =>
      let (outcome, store) := r.writeTo memoryFiler programs siblings (fun _ => d) {}
      match outcome with
      | .error e => report (.error e) [] d
      | .ok () =>
        match printed ((Keyed.get? store.sources r.name.toText).getD []) with
        | .error e => { status := 1, fatal := some e, disk := d }
        | .ok lines => report (.ok ()) lines d
    | .directory path =>
      let store : DirectoryStore := { root := Path.parse path, disk := d }
      let (outcome, store) := r.writeTo directoryFiler programs siblings (·.disk) store
      let line := Text.lit "Output written to: " ++ (store.pathFor r.name).toText
      report outcome [withoutTags line] store.closeAll.disk

end RenderRequest

end UnitForge.CommandLine
