import UnitForge.Name
import UnitForge.Notice

set_option autoImplicit false

/-!
# Scopes of simple names

Every generated unit has one scope, which decides how each reference to a type is printed and
which types have to be imported. A simple name is bound at most once and never bound again: the
first type that claims it keeps it, and every other type of that simple name is printed in full.

## Main definitions

* `UnitForge.Binding`: a simple name, the type that it stands for, and whether an import makes it
  so.
* `UnitForge.Scope`: the bindings of a unit in order of insertion.
* `UnitForge.Scope.declare`: makes a type usable by its simple name without an import.
* `UnitForge.Scope.refer`: the text that refers to a type.
* `UnitForge.Scope.imports`: the types to import, in ascending order.
-/

namespace UnitForge

/-- How a simple name came to be bound. -/
inductive BindingKind where
  /-- The type is in scope anyway. -/
  | implicit
  /-- The type has to be imported. -/
  | explicit
  deriving DecidableEq, Repr

/-- A simple name and the type that it stands for. -/
structure Binding where
  /-- The simple name. -/
  key : Text
  /-- The type that it stands for. -/
  name : QualifiedName
  /-- Whether an import makes it so. -/
  kind : BindingKind
  deriving DecidableEq

/-- Why a scope does not bind or refer to a type. -/
inductive ScopeError where
  /-- The unit of the scope has been closed. -/
  | frozen (name : QualifiedName)
  /-- The type has no package, so that it has no full form, and its simple name belongs to
  another type. -/
  | unreachable (name : QualifiedName) (key : Text) (holder : QualifiedName)
  deriving DecidableEq

/-- The wording of a failure to bind or refer. -/
def ScopeError.message : ScopeError → Text
  | .frozen name =>
    Text.lit "Cannot bind " ++ name.toText ++ Text.lit ": the unit has already been closed"
  | .unreachable name key holder =>
    Text.lit "Cannot refer to " ++ name.toText ++ Text.lit ": " ++ key ++
      Text.lit " is already bound to " ++ holder.toText ++
      Text.lit " and unnamed-package types have no qualified form"

/-- The bindings of a unit. -/
structure Scope where
  /-- The packages whose types are never imported. -/
  builtinPackages : List Text
  /-- The bindings in order of insertion. -/
  bindings : List Binding := []
  /-- Whether the unit has been closed, after which nothing is bound or referred to. -/
  frozen : Bool := false
  deriving DecidableEq

namespace Scope

/-- The binding of a simple name. -/
def find? (s : Scope) (key : Text) : Option Binding := s.bindings.find? (·.key == key)

/-- The scope with one binding more. -/
def bind (s : Scope) (binding : Binding) : Scope := { s with bindings := s.bindings ++ [binding] }

/-- The scope after its unit has been closed. -/
def freeze (s : Scope) : Scope := { s with frozen := true }

/-- Makes a type usable by its simple name without an import, unless the simple name is taken. -/
def declare (s : Scope) (n : QualifiedName) : Except ScopeError Scope :=
  if s.frozen then .error (.frozen n)
  else
    match s.find? n.simpleName with
    | some _ => .ok s
    | none => .ok (s.bind ⟨n.simpleName, n, .implicit⟩)

/-- What `declare` reports when it succeeds. -/
def declareNotices (s : Scope) (n : QualifiedName) : List Notice :=
  match s.find? n.simpleName with
  | none => [.implicitBinding n.simpleName n.toText]
  | some holder =>
    if holder.name = n then []
    else [.implicitBindingRejected n.toText n.simpleName holder.name.toText]

/-- The text that refers to a type, and the scope after it. A type that is bound itself is printed
by its simple name, and one whose outermost type is bound by its path of simple names; any other
claims the simple name of its outermost type if that is free, unless its package is built in. -/
def refer (s : Scope) (n : QualifiedName) : Except ScopeError (Text × Scope) :=
  if s.frozen then .error (.frozen n)
  else if (s.find? n.simpleName).any (·.name = n) then .ok (n.simpleName, s)
  else
    let top := n.topLevel
    let key := top.simpleName
    match s.find? key with
    | some holder =>
      if holder.name = top then .ok (n.nestedPath, s)
      else if top.package = [] then .error (.unreachable n key holder.name)
      else .ok (n.toText, s)
    | none =>
      if top.package = [] then .ok (n.nestedPath, s.bind ⟨key, top, .implicit⟩)
      else if s.builtinPackages.contains top.packageName then .ok (n.toText, s)
      else .ok (n.nestedPath, s.bind ⟨key, top, .explicit⟩)

/-- What references report that led from the scope `before` to this one: the bindings added. -/
def referNotices (s before : Scope) : List Notice :=
  (s.bindings.drop before.bindings.length).map fun binding =>
    match binding.kind with
    | .implicit => .unnamedPackageBinding binding.key binding.name.toText
    | .explicit => .explicitBinding binding.key binding.name.toText

/-- The full names of the types to import, in ascending order. -/
def imports (s : Scope) : List Text :=
  Text.sort ((s.bindings.filter (·.kind = .explicit)).map (·.name.toText))

end Scope

end UnitForge
