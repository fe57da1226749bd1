import UnitForge.Keyed
import UnitForge.Template.Value
import UnitForge.Text.UpperCase

set_option autoImplicit false

/-!
# Features

Code that generates a unit may look up capabilities by key. A capability has a default, and may
read a value that was given as a text.

## Main definitions

* `UnitForge.FeatureSet`: the values given, by key.
* `UnitForge.FeatureType`: a capability.
* `UnitForge.FeatureSet.get`: the value of a capability.
* `UnitForge.FeatureSet.ofOptions`: the values given as `KEY=VALUE`.
-/

namespace UnitForge

/-- Why a feature has no value. -/
inductive FeatureError where
  /-- The text is not a whole number. -/
  | unreadable (fault : Number.ReadFault) (text : Text)
  /-- An option is not of the form `KEY=VALUE`. -/
  | badOption (option : Text)
  deriving DecidableEq, Repr

/-- The wording of a failure to find a value. -/
def FeatureError.message : FeatureError → Text
  | .unreadable fault text => fault.message text
  | .badOption option => Text.lit "Expected KEY=VALUE, got " ++ Text.quoted option

/-- A named capability. -/
structure FeatureType where
  /-- The key. -/
  key : Text
  /-- The value where none is given. -/
  default : Value := .absent
  /-- How a value given as a text is read; if there is no way, it stays a text. -/
  read : Option (Text → Except FeatureError Value) := none

/-- Reads a whole number. -/
def FeatureType.readInt (text : Text) : Except FeatureError Value :=
  match Number.readInt text with
  | .ok i => .ok (.int i)
  | .error fault => .error (.unreadable fault text)

/-- Reads a text as its upper-case form. -/
def FeatureType.readUpperCase (text : Text) : Except FeatureError Value :=
  .ok (.ofText (Text.upperCase text))

/-- Reads a text as the list of its words. -/
def FeatureType.readWords (text : Text) : Except FeatureError Value :=
  .ok (.list ((Text.words text).map .ofText))

/-- Values by key, in order of first insertion. -/
structure FeatureSet where
  /-- The keys and their values. -/
  values : Keyed Value := []

namespace FeatureSet

/-- The set with one value put under its key. -/
def put (s : FeatureSet) (key : Text) (value : Value) : FeatureSet :=
  ⟨Keyed.put key value s.values⟩

/-- The set with all the given values put under their keys. -/
def withValues (s : FeatureSet) (values : List (Text × Value)) : FeatureSet :=
  values.foldl (fun s (key, value) => s.put key value) s

/-- The value of a capability. -/
def get (s : FeatureSet) (feature : FeatureType) : Except FeatureError Value :=
  match Keyed.get? s.values feature.key with
  | none => .ok feature.default
  | some value =>
    match feature.read, value with
    | some read, .text raw =>
      match raw.toText with
      | .ok text => read text
      | .error _ => .ok value
    | _, value => .ok value

/-- The keys in ascending order. -/
def keys (s : FeatureSet) : List Text := Text.sort (Keyed.keys s.values)

/-- The key and the value of an option `KEY=VALUE`, without blanks around them. -/
def readOption (option : Text) : Except FeatureError (Text × Text) :=
  match Text.cut '=' option with
  | none => .error (.badOption option)
  | some (key, value) =>
    if (Text.trim key).isEmpty then .error (.badOption option)
    else .ok (Text.trim key, Text.trim value)

/-- The values given by options `KEY=VALUE`; of several with one key the last counts. -/
def ofOptions (options : List Text) : Except FeatureError (Keyed Text) :=
  options.foldlM
    (fun values option => (readOption option).map fun (key, value) => Keyed.put key value values) []

end FeatureSet

end UnitForge
