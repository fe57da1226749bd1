import UnitForge.CommandLine.Arguments
import UnitForge.CommandLine.Console
import UnitForge.Java.Analyser
import UnitForge.Json.Writer

set_option autoImplicit false

/-!
# The command that lists package types

The command scans source roots and shows, for each package, how many types it declares and their
names. It may also write them to a file as JSON.

## Main definitions

* `UnitForge.CommandLine.scanForm`: what it takes.
* `UnitForge.CommandLine.ScanRequest`: what it is asked for.
* `UnitForge.CommandLine.ScanRequest.run`: what it does.
-/

namespace UnitForge.CommandLine

/-- What the command takes. -/
def scanForm : CommandForm where
  name := Text.lit "scan"
  help := [Text.lit "List the top-level types declared in each package under ROOTS."]
  options := [
    { name := Text.lit "--output", short := some (Text.lit "-o"),
      help := Text.lit "Write package types as JSON" },
    { name := Text.lit "--exclude", repeatable := true,
      help := Text.lit "Additional glob patterns to exclude" },
    { name := Text.lit "--verbose", takesValue := false,
      help := Text.lit "Show debug logs and phase timings" },
    { name := Text.lit "--quiet", takesValue := false,
      help := Text.lit "Suppress all output except errors" }]
  argument := { name := Text.lit "ROOTS", repeatable := true, rule := .path .directory true }

/-- What the command is asked for. -/
structure ScanRequest where
  /-- The source roots. -/
  roots : List Text
  /-- The file to write the types to. -/
  output : Option Text := none
  /-- Patterns of names to pass over. -/
  excluded : List Text := []
  /-- Whether nothing is to be printed. -/
  quiet : Bool := false
  deriving DecidableEq, Repr

namespace ScanRequest

/-- The request that a command line makes. An empty name of a file is none. -/
def ofGiven (g : Given) : ScanRequest where
  roots := g.arguments
  output := (g.value? (Text.lit "--output")).filter (!·.isEmpty)
  excluded := g.values (Text.lit "--exclude")
  quiet := g.has (Text.lit "--quiet")

/-- The place that a path leads to, as an absolute path. -/
def absolute (d : Disk) (root : Text) : Text :=
  match d.resolve true (Path.parse root) with
  | .ok place => Path.toText ⟨['/'], place.names⟩
  | .error _ => root

/-- The types of each package, in ascending order of names. -/
def packageTypes (t : SymbolTable) : List (Text × List Text) :=
  t.packages.map fun package => (package, t.typesInPackage package)

/-- The table of the packages, with headings. -/
def tableRows (types : List (Text × List Text)) : List (List Text) :=
  ["Package", "Types", "Names"].map Text.lit :: types.map fun (package, names) =>
    [if package.isEmpty then Text.lit "<unnamed>" else withoutTags package,
      Number.showNat names.length,
      Text.join (Text.lit ", ") names]

/-- Writes a text to a file, in directories that are made where they are missing. -/
def writeFile (d : Disk) (path : Path) (text : Text) : Disk × Option FileError :=
  match d.makeDirectories path.parent with
  | (d, some e) => (d, some e)
  | (d, none) =>
    match d.openFile path with
    | .error e => (d, some e)
    | .ok (d, names) => (d.overwrite names (Text.encodeUtf8 text), none)

/-- The report after the types have been written to the file asked for. -/
def writeTypes (r : ScanRequest) (types : List (Text × List Text)) (report : Report) : Report :=
  match r.output with
  | none => report
  | some output =>
    let json := Json.indented (.table (types.map fun (package, names) =>
      (package, .list (names.map .ofText))))
    match writeFile report.disk (Path.parse output) json with
    | (disk, some e) => { report with status := 1, fatal := some (Failure.ofFile e), disk }
    | (disk, none) =>
      let line := withoutTags (Text.lit "Output written to: " ++ output)
      { report with disk, output := if r.quiet then [] else [line] }

/-- Lists the types that each package declares. -/
def run (d : Disk) (r : ScanRequest) : Report :=
  let plan : Scan.ScanPlan := { roots := r.roots.map (absolute d), excluded := r.excluded }
  match Scan.symbolTable Java.analyser d plan with
  | .error e => { status := 1, fatal := some e, disk := d }
  | .ok table =>
    let types := packageTypes table
    r.writeTypes types { table := if r.quiet then [] else tableRows types, disk := d }

end ScanRequest

end UnitForge.CommandLine
