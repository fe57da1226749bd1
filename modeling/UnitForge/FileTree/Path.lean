import UnitForge.Text.Basic

set_option autoImplicit false

/-!
# Paths

A path is a list of components with an anchor in front, which is empty for a relative path. Empty
components and single dots are dropped when a path is read; double dots are kept.

## Main definitions

* `UnitForge.Path`: a path.
* `UnitForge.Path.parse`, `UnitForge.Path.toText`: reads and writes a path.
* `UnitForge.Path.append`: a path seen from another one.
-/

namespace UnitForge

/-- A path: an anchor and components. -/
structure Path where
  /-- The slashes that an absolute path begins with. -/
  anchor : Text := []
  /-- The components. -/
  parts : List Text
  deriving DecidableEq, Repr

namespace Path

/-- The anchor of a path: two slashes stay two, any other number of them counts as one. -/
def anchorOf : Text → Text
  | '/' :: '/' :: '/' :: _ => ['/']
  | '/' :: '/' :: _ => ['/', '/']
  | '/' :: _ => ['/']
  | _ => []

/-- Whether a component counts. -/
def isPart (part : Text) : Bool := !part.isEmpty && part != ['.']

/-- Reads a path. -/
def parse (text : Text) : Path := ⟨anchorOf text, (Text.split '/' text).filter isPart⟩

/-- Writes a path; the path without components is a single dot. -/
def toText (p : Path) : Text :=
  if p.anchor.isEmpty && p.parts.isEmpty then ['.'] else p.anchor ++ Text.join ['/'] p.parts

/-- Whether a path does not start at the working directory. -/
def isAbsolute (p : Path) : Bool := !p.anchor.isEmpty

/-- The path `q` seen from `p`; an absolute one is itself. -/
def append (p q : Path) : Path := if q.isAbsolute then q else { p with parts := p.parts ++ q.parts }

/-- The path of a sequence of names seen from `p`. -/
def descend (p : Path) (names : List Text) : Path := names.foldl (fun p n => p.append (parse n)) p

/-- The path without its last component. -/
def parent (p : Path) : Path := { p with parts := p.parts.dropLast }

/-- The text of a path and that of one seen from it, joined by a slash where there is none. -/
def joinText (root path : Text) : Text :=
  if path.head? = some '/' then path
  else if root.isEmpty || root.getLast? = some '/' then root ++ path
  else root ++ '/' :: path

/-- The last dot and what follows it in the name of a file; none if only dots stand before it. -/
def extension (path : Text) : Text :=
  let name := (path.reverse.takeWhile (· != '/')).reverse
  let body := name.dropWhile (· == '.')
  if body.contains '.' then '.' :: (body.reverse.takeWhile (· != '.')).reverse else []

end Path

end UnitForge
