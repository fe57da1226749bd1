import UnitForge.Template.Value

set_option autoImplicit false

/-!
# Values read from JSON

A value from its JSON form. A number with a point or an exponent is a floating-point number, any
other a whole number of any size. The fields of an object keep their order; their keys are texts.

## Main definitions

* `UnitForge.Json.read`: the value that a text writes.
-/

namespace UnitForge.Json

/-- The blanks between the parts of a value. -/
def isBlank (c : Char) : Bool := c = ' ' || c = '\t' || c = '\n' || c = '\r'

/-- The text without blanks at its start. -/
def skipBlanks (text : Text) : Text := text.dropWhile isBlank

/-- The value of a hexadecimal digit; zero for any other character. -/
def hexDigit (c : Char) : Nat :=
  if c.isDigit then c.toNat - 0x30
  else if 'a' ≤ c && c ≤ 'f' then c.toNat - 0x61 + 10
  else if 'A' ≤ c && c ≤ 'F' then c.toNat - 0x41 + 10
  else 0

/-- The number that hexadecimal digits write. -/
def hexNumber (digits : Text) : Nat := digits.foldl (fun n c => n * 16 + hexDigit c) 0

/-- The character that a letter after a backslash stands for. -/
def unescape (c : Char) : Char :=
  if c = 'n' then '\n'
  else if c = 'r' then '\r'
  else if c = 't' then '\t'
  else if c = 'b' then Char.ofNat 0x08
  else if c = 'f' then Char.ofNat 0x0c
  else c

/-- The code points read so far, in reverse, with a unit of sixteen bits after them. The second
surrogate of a pair makes one character with the first. -/
def pushUnit (unit : Nat) : RawText → RawText
  | .surrogate high :: seen =>
    if high.val < 0x400 && 0xdc00 ≤ unit && unit < 0xe000 then
      .ofNat (0x10000 + high * 0x400 + (unit - 0xdc00)) :: seen
    else .ofNat unit :: .surrogate high :: seen
  | seen => .ofNat unit :: seen

/-- Reads the rest of a string. `seen` holds the code points read in reverse. -/
def readString (seen : RawText) : Text → Option (RawText × Text)
  | '"' :: rest => some (seen.reverse, rest)
  | '\\' :: 'u' :: a :: b :: c :: d :: rest =>
    readString (pushUnit (hexNumber [a, b, c, d]) seen) rest
  | '\\' :: c :: rest => readString (.char (unescape c) :: seen) rest
  | c :: rest => readString (.char c :: seen) rest
  | [] => none

/-- The number that decimal digits write. -/
def decimalNumber (digits : Text) : Nat := digits.foldl (fun n c => n * 10 + (c.toNat - 0x30)) 0

/-- The digits at the start of a text and the text after them. -/
def takeDigits (text : Text) : Text × Text :=
  (text.takeWhile Char.isDigit, text.dropWhile Char.isDigit)

/-- The digits after a point at the start of a text and the text after them. -/
def takeFraction : Text → Option Text × Text
  | '.' :: rest => ((takeDigits rest).1, (takeDigits rest).2)
  | rest => (none, rest)

/-- The exponent at the start of a text and the text after it. -/
def takeExponent : Text → Option Int × Text
  | [] => (none, [])
  | c :: rest =>
    if c = 'e' || c = 'E' then
      let (negative, rest) := Number.takeSign rest
      let n : Int := decimalNumber (takeDigits rest).1
      (some (if negative then -n else n), (takeDigits rest).2)
    else (none, c :: rest)

/-- Reads a number. -/
def readNumber (text : Text) : Option (Value × Text) :=
  let (negative, text) := Number.takeSign text
  let (whole, text) := takeDigits text
  let (fraction, text) := takeFraction text
  let (exponent, text) := takeExponent text
  if whole.isEmpty then none
  else
    match fraction, exponent with
    | none, none =>
      let n : Int := decimalNumber whole
      some (.int (if negative then -n else n), text)
    | fraction, exponent =>
      let fraction := fraction.getD []
      let scale := exponent.getD 0 - (fraction.length : Int)
      (Number.Binary64.ofDecimal? negative (decimalNumber (whole ++ fraction)) scale).map fun x =>
        (.float x, text)

mutual

/-- Reads a value in at most `fuel` steps. -/
def readValue : Nat → Text → Option (Value × Text)
  | 0, _ => none
  | fuel + 1, text =>
    match skipBlanks text with
    | 'n' :: 'u' :: 'l' :: 'l' :: rest => some (.absent, rest)
    | 't' :: 'r' :: 'u' :: 'e' :: rest => some (.bool true, rest)
    | 'f' :: 'a' :: 'l' :: 's' :: 'e' :: rest => some (.bool false, rest)
    | '"' :: rest => (readString [] rest).map fun (raw, rest) => (.text raw, rest)
    | '[' :: rest => (readItems fuel rest).map fun (items, rest) => (.list items, rest)
    | '{' :: rest => (readFields fuel rest).map fun (fields, rest) => (.table fields, rest)
    | rest => readNumber rest

/-- Reads the rest of a list in at most `fuel` steps. -/
def readItems : Nat → Text → Option (List Value × Text)
  | 0, _ => none
  | fuel + 1, text =>
    match skipBlanks text with
    | ']' :: rest => some ([], rest)
    | ',' :: rest => readItems fuel rest
    | rest => do
      let (item, rest) ← readValue fuel rest
      let (items, rest) ← readItems fuel rest
      return (item :: items, rest)

/-- Reads the rest of a table in at most `fuel` steps. -/
def readFields : Nat → Text → Option (List (Text × Value) × Text)
  | 0, _ => none
  | fuel + 1, text =>
    match skipBlanks text with
    | '}' :: rest => some ([], rest)
    | ',' :: rest => readFields fuel rest
    | '"' :: rest => do
      let (raw, rest) ← readString [] rest
      let key ← raw.toText.toOption
      match skipBlanks rest with
      | ':' :: rest =>
        let (value, rest) ← readValue fuel rest
        let (fields, rest) ← readFields fuel rest
        return ((key, value) :: fields, rest)
      | _ => none
    | _ => none

end

/-- The value that a text writes, with blanks around it or not. -/
def read (text : Text) : Option Value :=
  match readValue (2 * text.length + 1) text with
  | some (value, rest) => if (skipBlanks rest).isEmpty then some value else none
  | none => none

end UnitForge.Json
