import UnitForge.Output.Filer

set_option autoImplicit false

/-!
# Generated units

A generated unit is one source file with a preamble, its imports, and a formatted body. The body
is drafted in memory, because the imports are written first but are known only when the body is
complete. Its scope is seeded before any of the body is drafted: with the unit itself, its nested
types, and then the other types of its package.

## Main definitions

* `UnitForge.GeneratedUnit`: a unit that has been opened.
* `UnitForge.GeneratedUnit.begin`: opens a unit on a filer.
* `UnitForge.GeneratedUnit.append`: performs a step on a draft of a unit.
* `UnitForge.GeneratedUnit.finish`: writes imports and body and releases the sink.
* `UnitForge.GeneratedUnit.abort`: releases the sink and writes nothing.
* `UnitForge.GeneratedUnit.within`: finishes a unit after some work on it, or aborts it when the
  work fails.
-/

namespace UnitForge

/-- A formatter: the final text of a body, or a failure. -/
abbrev Formatter := RawText → Except Failure RawText

/-- The formatter that formats texts, and fails on a raw text that is none. -/
def Formatter.forTexts (format : Text → Except Failure Text) : Formatter := fun raw =>
  match raw.toText with
  | .error e => .error (.unencodable e)
  | .ok text => (format text).map .ofText

/-- The types that a package declares, or a failure to tell. -/
abbrev PackageLookup := Text → Except Failure (List Text)

/-- What a unit is opened with. -/
structure UnitPlan where
  /-- The type that the unit declares. -/
  name : QualifiedName
  /-- The types nested in it. -/
  nested : List QualifiedName := []
  /-- On whose behalf the unit is generated. -/
  originating : Value := .absent
  /-- The types of its package, if they can be looked up. -/
  siblings : Option PackageLookup := none
  /-- The formatter of its body. -/
  formatter : Formatter
  /-- The capabilities that code may look up. -/
  features : FeatureSet := {}
  /-- The packages whose types are never imported. -/
  builtinPackages : List Text := [Text.lit "java.lang"]

/-- A unit that has been opened. -/
structure GeneratedUnit where
  /-- The type that the unit declares. -/
  name : QualifiedName
  /-- The drafts of its body and their scope. -/
  manuscript : Manuscript
  /-- The sink that it is written to. -/
  sink : SinkId
  /-- The formatter of its body. -/
  formatter : Formatter
  /-- Whether the unit has been finished or aborted. -/
  closed : Bool := false

/-- The first line of every unit. -/
def preamble : Text := Text.lit "// Autogenerated code. Do not modify.\n"

/-- The chunks that a unit begins with: the first line, the package if it has a name, and a blank
line. -/
def openingChunks (n : QualifiedName) : List Text :=
  let package :=
    if n.package.isEmpty then [] else [Text.lit "package " ++ n.packageName ++ Text.lit ";\n"]
  preamble :: package ++ [['\n']]

/-- The chunks of the imports: a line for each and a blank line after the last. -/
def importChunks (imports : List Text) : List Text :=
  if imports.isEmpty then []
  else imports.map (fun name => Text.lit "import " ++ name ++ Text.lit ";\n") ++ [['\n']]

namespace Filer

variable {σ : Type}

/-- Writes chunks in order, up to the first that fails. -/
def writeAll (F : Filer σ) (sink : SinkId) : List Text → σ → Except Failure Unit × σ
  | [], s => (.ok (), s)
  | chunk :: chunks, s =>
    match F.write sink (.ofText chunk) s with
    | (.error e, s) => (.error e, s)
    | (.ok (), s) => F.writeAll sink chunks s

/-- Closes a sink because of a failure; a failure of the closing takes its place. -/
def closeAfter {α : Type} (F : Filer σ) (sink : SinkId) (failure : Failure) (s : σ) :
    Except Failure α × σ :=
  match F.close sink s with
  | (.error e, s) => (.error e, s)
  | (.ok (), s) => (.error failure, s)

/-- Creates the sink of a unit and writes what the unit begins with. -/
def openSink (F : Filer σ) (n : QualifiedName) (originating : Value) (s : σ) :
    Except Failure SinkId × σ :=
  match F.create n.toText originating s with
  | (.error (.os e), s) => (.error (.generation (.cannotCreate n.toText e)), s)
  | (.error e, s) => (.error e, s)
  | (.ok sink, s) =>
    match F.writeAll sink (openingChunks n) s with
    | (.error (.os e), s) =>
      F.closeAfter sink (.generation (.cannotWritePreamble n.toText e)) s
    | (.error e, s) => (.error e, s)
    | (.ok (), s) => (.ok sink, s)

end Filer

/-- The name of a type of the given package. -/
def QualifiedName.sibling (n : QualifiedName) (simpleName : Text) :
    Except NameError QualifiedName :=
  make n.package [simpleName]

namespace Scope

/-- A scope without bindings. -/
def new (builtinPackages : List Text) : Scope := { builtinPackages }

/-- Declares types in order, up to the first that fails. The scope is the last one reached. -/
def declareAll (s : Scope) : List (Except NameError QualifiedName) → Scope × Option Failure
  | [] => (s, none)
  | .error e :: _ => (s, some (.name e))
  | .ok n :: names =>
    match s.declare n with
    | .error e => (s, some (.generation (.scope e)))
    | .ok s => s.declareAll names

/-- What declaring types in order reports. -/
def declareAllNotices (s : Scope) : List (Except NameError QualifiedName) → List Notice
  | [] => []
  | .error _ :: _ => []
  | .ok n :: names =>
    match s.declare n with
    | .error _ => []
    | .ok t => s.declareNotices n ++ t.declareAllNotices names

end Scope

namespace UnitPlan

/-- The types that are in scope without an import, in the order in which they claim their simple
names, and why there are no more of them. -/
def seeds (p : UnitPlan) : List (Except NameError QualifiedName) × Option Failure :=
  let own := (p.name :: p.nested).map .ok
  match p.siblings with
  | none => (own, none)
  | some lookup =>
    match lookup p.name.packageName with
    | .error e => (own, some e)
    | .ok names => (own ++ names.map p.name.sibling, none)

/-- The scope that the body of a unit starts with, or why there is none. -/
def seededScope (p : UnitPlan) : Except Failure Scope :=
  let (names, failure) := p.seeds
  match (Scope.new p.builtinPackages).declareAll names with
  | (_, some e) => .error e
  | (scope, none) =>
    match failure with
    | some e => .error e
    | none => .ok scope

end UnitPlan

namespace GeneratedUnit

variable {σ : Type}

/-- Opens a unit. Its sink is closed again if its scope cannot be seeded. -/
def begin (F : Filer σ) (p : UnitPlan) (s : σ) : Except Failure GeneratedUnit × σ :=
  match F.openSink p.name p.originating s with
  | (.error e, s) => (.error e, s)
  | (.ok sink, s) =>
    match p.seededScope with
    | .error e => F.closeAfter sink e s
    | .ok scope =>
      (.ok { name := p.name, manuscript := { scope, features := p.features }, sink,
             formatter := p.formatter }, s)

/-- What opening a unit reports. -/
def beginNotices (F : Filer σ) (p : UnitPlan) (s : σ) : List Notice :=
  match F.create p.name.toText p.originating s with
  | (.error _, _) => []
  | (.ok _, created) =>
    F.created p.name.toText created ++
      match F.openSink p.name p.originating s with
      | (.error _, _) => []
      | (.ok _, _) =>
        .unitOpened p.name.toText ::
          (Scope.new p.builtinPackages).declareAllNotices p.seeds.1

/-- The types to import. -/
def imports (u : GeneratedUnit) : List Text := u.manuscript.scope.imports

/-- The unit after it has been closed. -/
def sealed (u : GeneratedUnit) : GeneratedUnit :=
  { u with closed := true, manuscript := { u.manuscript with scope := u.manuscript.scope.freeze } }

/-- Why a step fails before it comes to append anything: a marker or the step itself is misnamed. -/
def fault? : Step → Option NameError
  | .render text =>
    match Marker.compile text with
    | .error e => some e
    | .ok _ => none
  | .misnamed e => some e
  | _ => none

/-- Performs a step on a draft. The main draft takes no step after the unit has been closed. -/
def append (u : GeneratedUnit) (id : DraftId) (step : Step) : Except Failure Unit × GeneratedUnit :=
  if u.closed && id = .main then
    match fault? step with
    | some e => (.error (.name e), u)
    | none => (.error (.generation (.alreadyClosed u.name.toText)), u)
  else
    let (manuscript, error) := u.manuscript.perform id step
    (match error with
      | none => .ok ()
      | some e => .error (Failure.ofDraft e),
      { u with manuscript })

/-- Closes the sink of a unit after the given outcome of writing it. -/
def release (F : Filer σ) (u : GeneratedUnit) (outcome : Except Failure Unit) (s : σ) :
    Except Failure Unit × σ :=
  match F.close u.sink s with
  | (.error (.os e), s) => (.error (.generation (.cannotClose u.name.toText e)), s)
  | (.error e, s) => (.error e, s)
  | (.ok (), s) => (outcome, s)

/-- Writes the imports and the formatted body of a unit. -/
def writeRest (F : Filer σ) (u : GeneratedUnit) (s : σ) : Except Failure Unit × σ :=
  match F.writeAll u.sink (importChunks u.imports) s with
  | (.error e, s) => (.error e, s)
  | (.ok (), s) =>
    match u.formatter u.manuscript.main with
    | .error e => (.error e, s)
    | .ok body => F.write u.sink body s

/-- The failure to report when writing a unit fails. -/
def writeFailure (u : GeneratedUnit) : Failure → Failure
  | .format e => .generation (.cannotFormat u.name.toText e)
  | .os e => .generation (.cannotWrite u.name.toText e)
  | e => e

/-- Writes the imports and the formatted body, and closes the sink in any case. -/
def finish (F : Filer σ) (u : GeneratedUnit) (s : σ) : Except Failure Unit × GeneratedUnit × σ :=
  if u.closed then (.error (.generation (.alreadyClosed u.name.toText)), u, s)
  else
    let u := u.sealed
    let (written, s) := u.writeRest F s
    let outcome := written.mapError u.writeFailure
    let (outcome, s) := u.release F outcome s
    (outcome, u, s)

/-- What finishing a unit reports. -/
def finishNotices (F : Filer σ) (u : GeneratedUnit) (s : σ) : List Notice :=
  if u.closed then []
  else
    let refusal := match (u.sealed.writeRest F s).1 with
      | .error (.format e) => e.notices
      | _ => []
    refusal ++
      match (u.finish F s).1 with
      | .ok () => [.unitClosed u.name.toText u.imports.length]
      | .error _ => []

/-- Closes the sink without writing the body; does nothing to a unit that has been closed. -/
def abort (F : Filer σ) (u : GeneratedUnit) (s : σ) : Except Failure Unit × GeneratedUnit × σ :=
  if u.closed then (.ok (), u, s)
  else
    let u := u.sealed
    let (outcome, s) := u.release F (.ok ()) s
    (outcome, u, s)

/-- What aborting a unit reports. -/
def abortNotices (F : Filer σ) (u : GeneratedUnit) (s : σ) : List Notice :=
  if u.closed then []
  else
    match (u.abort F s).1 with
    | .ok () => [.unitAborted u.name.toText]
    | .error _ => []

/-- What remains to be done with a unit after work on it: it is finished if the work went well, and
aborted if it failed. A failure of the work is the outcome unless the aborting fails. -/
def within (F : Filer σ) (work : Except Failure Unit) (u : GeneratedUnit) (s : σ) :
    Except Failure Unit × GeneratedUnit × σ :=
  match work with
  | .ok () => u.finish F s
  | .error e =>
    match u.abort F s with
    | (.error e, u, s) => (.error e, u, s)
    | (.ok (), u, s) => (.error e, u, s)

end GeneratedUnit

end UnitForge
