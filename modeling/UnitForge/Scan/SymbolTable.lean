import UnitForge.Keyed

set_option autoImplicit false

/-!
# Symbol tables

The top-level types declared in scanned source files, by package and by file. The first
declaration of a name in a package is the one that counts.

## Main definitions

* `UnitForge.TypeDeclaration`: a type declared in a file.
* `UnitForge.SymbolTable`: the declarations by package and name, and by file.
* `UnitForge.SymbolTable.lookup`, `UnitForge.SymbolTable.typesInPackage`: what a package declares.
-/

namespace UnitForge

/-- The kinds of types. -/
inductive TypeKind where
  /-- A class. -/
  | classType
  /-- An interface. -/
  | interfaceType
  /-- An enumeration. -/
  | enumType
  /-- A record. -/
  | recordType
  /-- An annotation type. -/
  | annotationType
  deriving DecidableEq, Repr

/-- A top-level type declared in a source file. -/
structure TypeDeclaration where
  /-- Its simple name. -/
  name : Text
  /-- The dotted name of its package. -/
  package : Text
  /-- Its kind. -/
  kind : TypeKind
  /-- The file. -/
  file : Text
  /-- The line that it begins in, counted from one. -/
  line : Int
  deriving DecidableEq, Repr

/-- The types declared in scanned files. -/
structure SymbolTable where
  /-- By package and name, the first declaration. -/
  byPackage : Keyed (Keyed TypeDeclaration) := []
  /-- By file, all declarations in order. -/
  byFile : Keyed (List TypeDeclaration) := []
  deriving DecidableEq

namespace SymbolTable

/-- The declarations that count in a package, by name. -/
def package (t : SymbolTable) (name : Text) : Keyed TypeDeclaration :=
  (Keyed.get? t.byPackage name).getD []

/-- The declarations of a file in order. -/
def typesInFile (t : SymbolTable) (file : Text) : List TypeDeclaration :=
  (Keyed.get? t.byFile file).getD []

/-- The table with a further declaration. -/
def add (t : SymbolTable) (d : TypeDeclaration) : SymbolTable :=
  let types := t.package d.package
  let types := if Keyed.has types d.name then types else Keyed.put d.name d types
  { byPackage := Keyed.put d.package types t.byPackage
    byFile := Keyed.put d.file (t.typesInFile d.file ++ [d]) t.byFile }

/-- The names of the types that a package declares, in ascending order. -/
def typesInPackage (t : SymbolTable) (package : Text) : List Text :=
  Text.sort (Keyed.keys (t.package package))

/-- The declaration of a type in a package. -/
def lookup (t : SymbolTable) (package name : Text) : Option TypeDeclaration :=
  Keyed.get? (t.package package) name

/-- The packages that declare types, in ascending order. -/
def packages (t : SymbolTable) : List Text := Text.sort (Keyed.keys t.byPackage)

/-- The files with declarations that count in a package, in ascending order. -/
def filesForPackage (t : SymbolTable) (package : Text) : List Text :=
  Text.sort (((t.package package).map (·.2.file)).eraseDups)

/-- The number of declarations that count. -/
def size (t : SymbolTable) : Nat := t.byPackage.foldl (fun n (_, types) => n + types.length) 0

end SymbolTable

end UnitForge
