import UnitForge.Template.Value

set_option autoImplicit false

/-!
# Values written as JSON

A value in JSON, in ASCII characters only, either on one line or with an indentation.

## Main definitions

* `UnitForge.Json.string`: a raw text as a JSON string.
* `UnitForge.Json.compact`, `UnitForge.Json.indented`: a value on one line, or on many.
-/

namespace UnitForge.Json

/-- The escape of one unit of sixteen bits. -/
def escapeUnit (n : Nat) : Text := '\\' :: 'u' :: Text.hexDigits 4 n

/-- The form of a character in a string. A character beyond the first plane is written as two
units. -/
def escapeChar (c : Char) : Text :=
  let n := c.toNat
  if c = '"' || c = '\\' then ['\\', c]
  else if c = '\n' then Text.lit "\\n"
  else if c = '\r' then Text.lit "\\r"
  else if c = '\t' then Text.lit "\\t"
  else if n = 0x08 then Text.lit "\\b"
  else if n = 0x0c then Text.lit "\\f"
  else if 0x20 ≤ n && n < 0x7f then [c]
  else if n < 0x10000 then escapeUnit n
  else escapeUnit (0xd800 + (n - 0x10000) / 0x400) ++ escapeUnit (0xdc00 + (n - 0x10000) % 0x400)

/-- The form of a code point in a string. -/
def escapePoint : CodePoint → Text
  | .char c => escapeChar c
  | .surrogate index => escapeUnit (0xd800 + index)

/-- A raw text as a JSON string. -/
def string (raw : RawText) : Text := '"' :: raw.flatMap escapePoint ++ ['"']

/-- How items are set apart: on one line, or each on a line of its own, indented by so many blanks
for each level. -/
inductive Layout where
  /-- All on one line, without blanks. -/
  | compact
  /-- One item to a line. -/
  | indented (width : Nat)
  deriving DecidableEq, Repr

/-- What stands before an item at the given depth. -/
def Layout.newline : Layout → Nat → Text
  | .compact, _ => []
  | .indented width, depth => '\n' :: List.replicate (width * depth) ' '

/-- What stands between a key and its value. -/
def Layout.colon : Layout → Text
  | .compact => [':']
  | .indented _ => [':', ' ']

/-- Items between brackets; nothing stands between the brackets if there is no item. -/
def block (layout : Layout) (depth : Nat) (opening closing : Char) (items : List Text) : Text :=
  if items.isEmpty then [opening, closing]
  else
    opening :: layout.newline (depth + 1) ++
      Text.join (',' :: layout.newline (depth + 1)) items ++ layout.newline depth ++ [closing]

/-- A value at the given depth. -/
def write (layout : Layout) (depth : Nat) : Value → Text
  | .absent => Text.lit "null"
  | .bool b => Text.lit (if b then "true" else "false")
  | .int i => Number.showInt i
  | .float x => Number.plainNotation x
  | .text t => string t
  | .list items => block layout depth '[' ']' (writeItems layout (depth + 1) items)
  | .table fields => block layout depth '{' '}' (writeFields layout (depth + 1) fields)
where
  /-- The items of a list. -/
  writeItems (layout : Layout) (depth : Nat) : List Value → List Text
    | [] => []
    | item :: items => write layout depth item :: writeItems layout depth items
  /-- The fields of a table. -/
  writeFields (layout : Layout) (depth : Nat) : List (Text × Value) → List Text
    | [] => []
    | (key, value) :: fields =>
      (string (.ofText key) ++ layout.colon ++ write layout depth value) ::
        writeFields layout depth fields

/-- A value on one line. -/
def compact (v : Value) : Text := write .compact 0 v

/-- A value on many lines, indented by two blanks for each level. -/
def indented (v : Value) : Text := write (.indented 2) 0 v

end UnitForge.Json
