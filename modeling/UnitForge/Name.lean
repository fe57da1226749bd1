import UnitForge.Text.Blank
import UnitForge.Text.UpperCase
import UnitForge.Text.Quoted

set_option autoImplicit false

/-!
# Qualified names

A type is identified by the segments of its package and by its path of simple names, from the
outermost type inwards: `com.example.Outer.Inner` has the package `com`, `example` and the simple
names `Outer`, `Inner`.

## Main definitions

* `UnitForge.QualifiedName`: a name, with at least one simple name and no empty segment.
* `UnitForge.QualifiedName.make`: the name with the given segments, if there is one.
* `UnitForge.QualifiedName.parse`: reads a dotted name. The first segment that starts with an
  upper-case letter begins the simple names, unless a colon separates the two parts.
* `UnitForge.QualifiedName.toText`: all segments, joined by dots.
* `UnitForge.NameError`: why segments or a text are no name.
-/

namespace UnitForge

/-- Why segments or a text do not form a qualified name. -/
inductive NameError where
  /-- There is no simple name. -/
  | noSimpleName
  /-- One of the segments is empty. -/
  | emptySegment (package simpleNames : List Text)
  /-- No segment of the text starts with an upper-case letter. -/
  | noTypeName (text : Text)
  deriving DecidableEq, Repr

/-- The wording of a failure to form a name. -/
def NameError.message : NameError → Text
  | .noSimpleName => Text.lit "QualifiedName needs at least one simple name"
  | .emptySegment package simpleNames =>
    Text.lit "Empty segment in " ++ Text.quotedTuple package ++ Text.lit " / " ++
      Text.quotedTuple simpleNames
  | .noTypeName text => Text.lit "No type name found in " ++ Text.quoted text

/-- A type, identified by its package and its path of simple names from the outermost inwards. -/
structure QualifiedName where
  /-- The segments of the package; none for the unnamed package. -/
  package : List Text
  /-- The simple names, outermost first. -/
  simpleNames : List Text
  /-- There is at least one simple name. -/
  simpleNames_ne_nil : simpleNames ≠ []
  /-- No segment is empty. -/
  segments_ne_nil : ∀ segment ∈ package ++ simpleNames, segment ≠ []
  deriving DecidableEq

namespace QualifiedName

/-- The name with the given segments. -/
def make (package simpleNames : List Text) : Except NameError QualifiedName :=
  if hs : simpleNames ≠ [] then
    if hp : ∀ segment ∈ package ++ simpleNames, segment ≠ [] then
      .ok ⟨package, simpleNames, hs, hp⟩
    else .error (.emptySegment package simpleNames)
  else .error .noSimpleName

/-- The segments of a dotted package name; none if it is empty. -/
def packageSegments (package : Text) : List Text :=
  if package.isEmpty then [] else Text.split '.' package

/-- The name with a dotted package name and the given simple names. -/
def of (package : Text) (simpleNames : List Text) : Except NameError QualifiedName :=
  make (packageSegments package) simpleNames

/-- Whether a segment starts with an upper-case letter. -/
def startsUpper : Text → Bool
  | [] => false
  | c :: _ => Text.isUpperCase c

/-- Reads a name without a colon: its simple names begin at the first segment that starts with an
upper-case letter. -/
def parseDotted (text : Text) : Except NameError QualifiedName :=
  let segments := Text.split '.' text
  match segments.dropWhile (!startsUpper ·) with
  | [] => .error (.noTypeName text)
  | simpleNames => make (segments.takeWhile (!startsUpper ·)) simpleNames

/-- Reads `package.Outer.Inner` or `package:Outer.Inner`, with blanks around it or not. -/
def parse (text : Text) : Except NameError QualifiedName :=
  let trimmed := Text.trim text
  match Text.cut ':' trimmed with
  | some (package, simpleNames) => of package (Text.split '.' simpleNames)
  | none => parseDotted trimmed

/-- The dotted package name; empty for the unnamed package. -/
def packageName (n : QualifiedName) : Text := Text.join ['.'] n.package

/-- The simple name of the outermost type. -/
def topLevelName (n : QualifiedName) : Text := n.simpleNames.head n.simpleNames_ne_nil

/-- The simple name of the type itself. -/
def simpleName (n : QualifiedName) : Text := n.simpleNames.getLast n.simpleNames_ne_nil

/-- The simple names, joined by dots. -/
def nestedPath (n : QualifiedName) : Text := Text.join ['.'] n.simpleNames

/-- Whether the type is not nested in another. -/
def isTopLevel (n : QualifiedName) : Bool := n.simpleNames.length == 1

/-- The outermost type. -/
def topLevel (n : QualifiedName) : QualifiedName where
  package := n.package
  simpleNames := [n.topLevelName]
  simpleNames_ne_nil := by simp
  segments_ne_nil := by
    intro segment h
    apply n.segments_ne_nil
    simp only [List.mem_append, List.mem_singleton] at h ⊢
    rcases h with h | rfl
    · exact .inl h
    · exact .inr (List.head_mem n.simpleNames_ne_nil)

/-- The type called `simpleName` nested directly in this one. -/
def nested (n : QualifiedName) (simpleName : Text) : Except NameError QualifiedName :=
  make n.package (n.simpleNames ++ [simpleName])

/-- All segments, joined by dots. -/
def toText (n : QualifiedName) : Text := Text.join ['.'] (n.package ++ n.simpleNames)

end QualifiedName

end UnitForge
