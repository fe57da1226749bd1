import UnitForge.Number.Decimal
import UnitForge.Text.Raw

set_option autoImplicit false

/-!
# Values in templates

The plain values that a template can show, and their two written forms.

## Main definitions

* `UnitForge.Value`: absent, truth value, whole number, floating-point number, text, list or
  table.
* `UnitForge.Value.display`: the form for a reader.
* `UnitForge.Value.quoted`: the form with texts in quotes.
* `UnitForge.Value.typeName`: the word for the kind of a value in messages.
-/

namespace UnitForge

/-- A plain value. -/
inductive Value where
  /-- No value. -/
  | absent
  /-- A truth value. -/
  | bool (b : Bool)
  /-- A whole number. -/
  | int (i : Int)
  /-- A floating-point number. -/
  | float (x : Number.Binary64)
  /-- A text, or a raw text that is none. -/
  | text (t : RawText)
  /-- A list of values. -/
  | list (items : List Value)
  /-- Values by their keys. -/
  | table (fields : List (Text × Value))

namespace Value

/-- The value of a text. -/
def ofText (t : Text) : Value := text (.ofText t)

/-- The form of a value with texts in quotes, where `quote` puts a text in quotes. -/
def quotedBy (quote : RawText → Text) : Value → Text
  | absent => Text.lit "None"
  | bool true => Text.lit "True"
  | bool false => Text.lit "False"
  | int i => Number.showInt i
  | float x => Number.plainNotation x
  | text t => quote t
  | list items =>
    Text.lit "[" ++ Text.join (Text.lit ", ") (quotedItems quote items) ++ Text.lit "]"
  | table fields =>
    Text.lit "\x7b" ++ Text.join (Text.lit ", ") (quotedFields quote fields) ++ Text.lit "\x7d"
where
  /-- The forms of the items of a list. -/
  quotedItems (quote : RawText → Text) : List Value → List Text
    | [] => []
    | item :: items => quotedBy quote item :: quotedItems quote items
  /-- The forms of the fields of a table. -/
  quotedFields (quote : RawText → Text) : List (Text × Value) → List Text
    | [] => []
    | (key, value) :: fields =>
      (quote (.ofText key) ++ Text.lit ": " ++ quotedBy quote value) :: quotedFields quote fields

/-- The form of a value with texts in quotes. -/
def quoted (v : Value) : Text := quotedBy RawText.quoted v

/-- The form of a value with texts in quotes, in ASCII characters only. -/
def quotedAscii (v : Value) : Text := quotedBy RawText.quotedAscii v

/-- The form of a value for a reader: a text stands for itself. -/
def display : Value → RawText
  | text t => t
  | v => .ofText (quoted v)

/-- The word for the kind of a value in messages. -/
def typeName : Value → Text
  | absent => Text.lit "NoneType"
  | bool _ => Text.lit "bool"
  | int _ => Text.lit "int"
  | float _ => Text.lit "float"
  | text _ => Text.lit "str"
  | list _ => Text.lit "list"
  | table _ => Text.lit "dict"

/-- The whole number that a value is; a truth value is zero or one. -/
def toInt? : Value → Option Int
  | bool b => some (if b then 1 else 0)
  | int i => some i
  | _ => none

end Value

end UnitForge
