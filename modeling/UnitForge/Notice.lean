import UnitForge.Number.Digits

set_option autoImplicit false

/-!
# Notices

What the parts of the library report about their work, beside their results.

## Main definitions

* `UnitForge.Notice`: one report.
* `UnitForge.Notice.level`, `UnitForge.Notice.topic`, `UnitForge.Notice.message`: how serious it
  is, which part it comes from, and its wording.
-/

namespace UnitForge

/-- How serious a notice is. -/
inductive Level where
  /-- Of use when looking into the library's work. -/
  | debug
  /-- Something was skipped or could not be done. -/
  | warning
  deriving DecidableEq, Repr

/-- The part of the library that a notice comes from. -/
inductive Topic where
  /-- Scopes of simple names. -/
  | scope
  /-- Units being written. -/
  | unit
  /-- Output files. -/
  | output
  /-- Formatters. -/
  | formatting
  /-- The search for source files. -/
  | discovery
  /-- The collection of declared types. -/
  | collection
  deriving DecidableEq, Repr

/-- A report of what was done or left undone. -/
inductive Notice where
  /-- A declared type now owns its simple name. -/
  | implicitBinding (key name : Text)
  /-- The simple name of a declared type belongs to another type. -/
  | implicitBindingRejected (name key holder : Text)
  /-- The first reference to a type of the unnamed package claimed its simple name. -/
  | unnamedPackageBinding (key name : Text)
  /-- The first reference to a type claimed its simple name, with an import. -/
  | explicitBinding (key name : Text)
  /-- A unit was opened. -/
  | unitOpened (name : Text)
  /-- A unit was completed with that many imports. -/
  | unitClosed (name : Text) (imports : Nat)
  /-- A unit was given up. -/
  | unitAborted (name : Text)
  /-- An output file was opened for a type. -/
  | fileOpened (path name : Text)
  /-- There is no program of that name to format with. -/
  | formatterMissing (executable : Text)
  /-- A source root is not a directory. -/
  | rootSkipped (root : Text)
  /-- A file has too many bytes. -/
  | fileTooLarge (path : Text) (size : Nat)
  /-- There is no parser for a language. -/
  | parserUnavailable (language reason : Text)
  /-- A file could not be read. -/
  | readFailed (path reason : Text)
  /-- A file could not be parsed. -/
  | parseFailed (path reason : Text)
  /-- The types of a parsed file could not be read off. -/
  | extractFailed (path reason : Text)
  /-- A file was scanned and declares that many types. -/
  | fileScanned (path : Text) (types : Nat)
  deriving DecidableEq, Repr

namespace Notice

/-- How serious a notice is. -/
def level : Notice → Level
  | formatterMissing .. | rootSkipped .. | parserUnavailable .. | readFailed .. | parseFailed ..
  | extractFailed .. => .warning
  | _ => .debug

/-- The part of the library that a notice comes from. -/
def topic : Notice → Topic
  | implicitBinding .. | implicitBindingRejected .. | unnamedPackageBinding ..
  | explicitBinding .. => .scope
  | unitOpened .. | unitClosed .. | unitAborted .. => .unit
  | fileOpened .. => .output
  | formatterMissing .. => .formatting
  | rootSkipped .. | fileTooLarge .. => .discovery
  | parserUnavailable .. | readFailed .. | parseFailed .. | extractFailed .. | fileScanned .. =>
    .collection

/-- The wording of a notice. -/
def message : Notice → Text
  | implicitBinding key name => Text.lit "Implicit binding " ++ key ++ Text.lit " -> " ++ name
  | implicitBindingRejected name key holder =>
    Text.lit "Implicit binding for " ++ name ++ Text.lit " rejected: " ++ key ++
      Text.lit " already bound to " ++ holder
  | unnamedPackageBinding key name =>
    Text.lit "Implicit binding " ++ key ++ Text.lit " -> " ++ name ++
      Text.lit " (unnamed package)"
  | explicitBinding key name => Text.lit "Explicit binding " ++ key ++ Text.lit " -> " ++ name
  | unitOpened name => Text.lit "Opened unit " ++ name
  | unitClosed name imports =>
    Text.lit "Closed unit " ++ name ++ Text.lit " with " ++ Number.showNat imports ++
      Text.lit " imports"
  | unitAborted name => Text.lit "Aborted unit " ++ name
  | fileOpened path name => Text.lit "Opened " ++ path ++ Text.lit " for " ++ name
  | formatterMissing executable => Text.lit "Formatter executable not found: " ++ executable
  | rootSkipped root =>
    Text.lit "Source root " ++ root ++ Text.lit " is not a directory, skipping"
  | fileTooLarge path size =>
    Text.lit "Skipping " ++ path ++ Text.lit ": " ++ Number.showNat size ++ Text.lit " bytes"
  | parserUnavailable language reason =>
    Text.lit "Failed to initialise parser for " ++ language ++ Text.lit ": " ++ reason
  | readFailed path reason =>
    Text.lit "Failed to read " ++ path ++ Text.lit ": " ++ reason
  | parseFailed path reason =>
    Text.lit "Failed to parse " ++ path ++ Text.lit ": " ++ reason
  | extractFailed path reason =>
    Text.lit "Failed to extract types from " ++ path ++ Text.lit ": " ++ reason
  | fileScanned path types =>
    Text.lit "Scanned " ++ path ++ Text.lit ": " ++ Number.showNat types ++
      Text.lit " top-level types"

end Notice

end UnitForge
