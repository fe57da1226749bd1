import UnitForge.Failure

set_option autoImplicit false

/-!
# Filers

A filer creates a sink for each generated unit. A sink takes chunks of raw text until it is closed.
Units are written against any filer, given by its three operations on a state of its own.

## Main definitions

* `UnitForge.Filer`: the operations of a filer on its state.
* `UnitForge.checkTarget`: the type that a target is named for.
-/

namespace UnitForge

/-- A sink of a filer: the number of sinks that it created before. -/
abbrev SinkId := Nat

/-- The operations of a filer on a state `σ`. -/
structure Filer (σ : Type) where
  /-- Creates a sink for the unit of that name, on behalf of some value. -/
  create : (name : Text) → (originating : Value) → σ → Except Failure SinkId × σ
  /-- Writes a chunk to a sink. -/
  write : SinkId → (chunk : RawText) → σ → Except Failure Unit × σ
  /-- Closes a sink. -/
  close : SinkId → σ → Except Failure Unit × σ
  /-- What is reported when a sink has been created for the unit of that name. -/
  created : (name : Text) → σ → List Notice := fun _ _ => []

/-- The type that a target is named for, which must not be nested in another. -/
def checkTarget (name : Text) : Except FilerError QualifiedName :=
  match QualifiedName.parse name with
  | .error cause => .error (.notTypeName name cause)
  | .ok n => if n.isTopLevel then .ok n else .error (.nested name)

end UnitForge
