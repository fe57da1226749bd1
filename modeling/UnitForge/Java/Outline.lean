import UnitForge.Java.Node
import UnitForge.Scan.SymbolTable

set_option autoImplicit false

/-!
# Outlines

What a syntax tree declares at its top: the package, and the types with their kinds and lines.

## Main definitions

* `UnitForge.Java.Node.package`: the name of the package.
* `UnitForge.Java.Node.types`: the types declared directly below the top.
-/

namespace UnitForge.Java.Node

/-- Whether a node is a name. -/
def isName (n : Node) : Bool := n.kind == "scoped_identifier" || n.kind == "identifier"

/-- The name in a package declaration. -/
def packageName? (n : Node) : Option Node :=
  if n.kind == "package_declaration" then n.children.find? isName else none

/-- The name of the package, which is empty if none is declared. -/
def package (root : Node) : Except Text.Utf8Error Text :=
  match root.children.findSome? packageName? with
  | none => .ok []
  | some name => name.decoded

/-- The kind of type that a node declares. -/
def typeKind? (n : Node) : Option TypeKind :=
  if n.kind == "class_declaration" then some .classType
  else if n.kind == "interface_declaration" then some .interfaceType
  else if n.kind == "enum_declaration" then some .enumType
  else if n.kind == "record_declaration" then some .recordType
  else if n.kind == "annotation_type_declaration" then some .annotationType
  else none

/-- The node of the name of a declared type. -/
def typeName? (n : Node) : Option Node := n.children.find? (·.kind == "identifier")

/-- The type that a node declares, in a package and a file. -/
def declaration? (package file : Text) (n : Node) :
    Except Text.Utf8Error (Option TypeDeclaration) :=
  match n.typeKind?, n.typeName? with
  | some kind, some name =>
    name.decoded.map fun name => some { name, package, kind, file, line := n.row + 1 }
  | _, _ => .ok none

/-- The types declared directly below the top of a tree. -/
def types (file : Text) (root : Node) : Except Text.Utf8Error (List TypeDeclaration) := do
  let package ← root.package
  let found ← root.children.mapM (declaration? package file)
  return found.filterMap id

end UnitForge.Java.Node
