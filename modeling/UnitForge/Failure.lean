import UnitForge.Draft
import UnitForge.FileTree.Disk
import UnitForge.Layout.Formatter
import UnitForge.Text.Raw

set_option autoImplicit false

/-!
# Failures

Everything that can go wrong while units are written, as causes with one wording each.

## Main definitions

* `UnitForge.FilerError`: an output target is refused.
* `UnitForge.GenerationError`: a unit cannot be written.
* `UnitForge.Failure`: any failure, also one of code plugged into the library.
* `UnitForge.Failure.message`: the wording.
-/

namespace UnitForge

/-- Why an output target is refused. -/
inductive FilerError where
  /-- There is a target of that name already. -/
  | duplicate (name : Text)
  /-- The text names no type. -/
  | notTypeName (name : Text) (cause : NameError)
  /-- The text names a nested type. -/
  | nested (name : Text)
  /-- The target was refused with that text. -/
  | refused (reason : Text)
  deriving DecidableEq, Repr

/-- The wording of a refused target. -/
def FilerError.message : FilerError → Text
  | .duplicate name => Text.lit "Attempt to recreate a file for type " ++ name
  | .notTypeName name _ => Text.lit "Not a type name: " ++ Text.quoted name
  | .nested name => Text.lit "Only top-level types can be written, got " ++ name
  | .refused reason => reason

/-- Why a unit cannot be written. -/
inductive GenerationError where
  /-- A type cannot be bound or referred to. -/
  | scope (error : ScopeError)
  /-- A template cannot be filled. -/
  | malformedTemplate (template : Text) (error : TemplateError)
  /-- The target of a unit cannot be created. -/
  | cannotCreate (name : Text) (error : OsError)
  /-- The start of a unit cannot be written. -/
  | cannotWritePreamble (name : Text) (error : OsError)
  /-- The body of a unit is refused by its formatter. -/
  | cannotFormat (name : Text) (error : Layout.FormatterError)
  /-- The rest of a unit cannot be written. -/
  | cannotWrite (name : Text) (error : OsError)
  /-- The target of a unit cannot be closed. -/
  | cannotClose (name : Text) (error : OsError)
  /-- A unit has been closed already. -/
  | alreadyClosed (name : Text)

/-- The wording of a failure to write a unit. -/
def GenerationError.message : GenerationError → Text
  | .scope error => error.message
  | .malformedTemplate template error =>
    Text.lit "Malformed template " ++ Text.quoted template ++ Text.lit ": " ++ error.message
  | .cannotCreate name error =>
    Text.lit "Cannot create source file for " ++ name ++ Text.lit ": " ++ error.message
  | .cannotWritePreamble name error =>
    Text.lit "Cannot write preamble for " ++ name ++ Text.lit ": " ++ error.message
  | .cannotFormat name error =>
    Text.lit "Cannot format " ++ name ++ Text.lit ": " ++ error.message
  | .cannotWrite name error =>
    Text.lit "Cannot write " ++ name ++ Text.lit ": " ++ error.message
  | .cannotClose name error =>
    Text.lit "Cannot close " ++ name ++ Text.lit ": " ++ error.message
  | .alreadyClosed name => Text.lit "Unit " ++ name ++ Text.lit " is already closed"

/-- Any failure. -/
inductive Failure where
  /-- Something is no name. -/
  | name (error : NameError)
  /-- A capability has no value. -/
  | feature (error : FeatureError)
  /-- A number in a template is out of range. -/
  | outOfRange (error : TemplateError)
  /-- A path has a zero character in it. -/
  | zeroCharacter
  /-- A sink has been closed; the flag says that it is a file. -/
  | sinkClosed (isFile : Bool)
  /-- Bytes are no text. -/
  | undecodable (error : Text.Utf8Error)
  /-- A raw text cannot be written to a file. -/
  | unencodable (error : EncodeError)
  /-- There is no formatter of that name. -/
  | unknownFormatter (error : Layout.UnknownFormatter)
  /-- An output target is refused. -/
  | refused (error : FilerError)
  /-- The operating system fails. -/
  | os (error : OsError)
  /-- A formatter refuses a source. -/
  | format (error : Layout.FormatterError)
  /-- A unit cannot be written. -/
  | generation (error : GenerationError)
  /-- Code plugged into the library failed with that text. -/
  | foreign (text : Text)
  /-- Code that writes a body failed for want of that key. -/
  | missingKey (key : Text)

namespace Failure

/-- The wording of a failure. -/
def message : Failure → Text
  | name error => error.message
  | feature error => error.message
  | outOfRange error => error.message
  | zeroCharacter => FileError.zeroCharacter.message
  | sinkClosed isFile => Text.lit "I/O operation on closed file" ++ if isFile then ['.'] else []
  | undecodable error => error.message
  | unencodable error => error.message
  | unknownFormatter error => error.message
  | refused error => error.message
  | os error => error.message
  | format error => error.message
  | generation error => error.message
  | foreign text => text
  | missingKey key => key

/-- Whether a value is at fault that the caller gave. -/
def isBadValue : Failure → Bool
  | name _ | feature _ | zeroCharacter | sinkClosed _ | undecodable _ | unencodable _
  | unknownFormatter _ => true
  | _ => false

/-- The failure that the failure of a step on a draft is. -/
def ofDraft : DraftError → Failure
  | .name error => .name error
  | .scope error => .generation (.scope error)
  | .template template error =>
    if error.nature = .outOfRange then .outOfRange error
    else .generation (.malformedTemplate template error)

/-- The failure that the failure of an operation on a path is. -/
def ofFile : FileError → Failure
  | .zeroCharacter => .zeroCharacter
  | .os error => .os error

end Failure

end UnitForge
