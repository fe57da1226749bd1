import UnitForge.Text.Utf8

set_option autoImplicit false

/-!
# Syntax trees

A syntax tree of a source file. Where the source is not well formed, the tree holds error nodes
around what does not fit, and missing nodes for tokens that should have been there. Every node
has a flag that says whether there is such a node in it.

## Main definitions

* `UnitForge.Java.Node`: a node of a syntax tree.
* `UnitForge.Java.Node.firstErrorLine`: the line of the first syntax error.
-/

namespace UnitForge.Java

/-- A node of a syntax tree. -/
inductive Node where
  /-- A node of the given kind with its bytes, the row that it begins in (counted from zero),
  whether there is an error in it, whether it stands for a missing token, and its children. -/
  | mk (kind : String) (text : List UInt8) (row : Nat) (hasError isMissing : Bool)
    (children : List Node)

namespace Node

/-- The kind of a node that holds what does not fit. -/
def errorKind : String := "ERROR"

/-- The kind of a node. -/
def kind : Node → String
  | mk k _ _ _ _ _ => k

/-- The bytes of a node. -/
def text : Node → List UInt8
  | mk _ t _ _ _ _ => t

/-- The row that a node begins in, counted from zero. -/
def row : Node → Nat
  | mk _ _ r _ _ _ => r

/-- Whether there is an error in a node. -/
def hasError : Node → Bool
  | mk _ _ _ e _ _ => e

/-- Whether a node stands for a missing token. -/
def isMissing : Node → Bool
  | mk _ _ _ _ m _ => m

/-- The children of a node. -/
def children : Node → List Node
  | mk _ _ _ _ _ c => c

/-- Whether a node is an error itself. -/
def isError (n : Node) : Bool := n.kind == errorKind || n.isMissing

mutual

/-- The line of the first error in a node, where the flags lead to it. -/
def errorLine : Node → Nat
  | mk kind _ row _ isMissing children =>
    if kind == errorKind || isMissing then row + 1 else (errorLineIn children).getD (row + 1)

/-- The line of the first error in a sequence of nodes. -/
def errorLineIn : List Node → Option Nat
  | [] => none
  | n :: rest => if n.hasError then some n.errorLine else errorLineIn rest

end

/-- The line of the first syntax error in a tree. -/
def firstErrorLine (root : Node) : Option Nat :=
  if root.hasError then some root.errorLine else none

/-- The text of a node. -/
def decoded (n : Node) : Except Text.Utf8Error Text := Text.decodeUtf8 n.text

end Node

end UnitForge.Java
