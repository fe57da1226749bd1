import UnitForge.Template.Directive
import UnitForge.Template.Value
import UnitForge.Text.UpperCase

set_option autoImplicit false

/-!
# Filling templates

A template takes one value for each directive, from left to right, and as many as there are.

## Main definitions

* `UnitForge.TemplateError`: why a template cannot be filled, with its wording.
* `UnitForge.Template.fill`: the raw text of a template for given values.

## Implementation notes

A template is filled to a raw text: `%c` makes a surrogate of the number of one, and a value may be
a raw text itself.
-/

namespace UnitForge

/-- Why a template cannot be filled with some values. -/
inductive TemplateError where
  /-- A directive asks for a value by its key. -/
  | mappingRequired
  /-- There are fewer values than directives. -/
  | tooFewValues
  /-- There are more values than directives. -/
  | tooManyValues
  /-- A width or precision is no whole number. -/
  | extentNotInteger
  /-- A directive has no conversion letter. -/
  | incomplete
  /-- There is no such conversion; its letter has that position. -/
  | unsupported (letter : Char) (position : Nat)
  /-- A conversion in another base needs a whole number. -/
  | integerRequired (letter : Char) (typeName : Text)
  /-- A decimal conversion needs a number. -/
  | numberRequired (letter : Char) (typeName : Text)
  /-- A floating-point conversion needs a number. -/
  | realRequired (typeName : Text)
  /-- A character conversion needs a character or its code point. -/
  | characterRequired
  /-- A width has too many digits. -/
  | widthTooBig
  /-- A precision has too many digits. -/
  | precisionTooBig
  /-- There is no character with that code point. -/
  | characterOutOfRange
  /-- A width given as a value is too large. -/
  | widthOutOfRange
  /-- A precision given as a value is too large. -/
  | precisionOutOfRange
  /-- A number asks for more digits than can be written. -/
  | precisionTooLarge
  /-- A whole number is beyond the largest floating-point number. -/
  | integerTooLarge
  deriving DecidableEq, Repr

namespace TemplateError

/-- The nature of a fault in a template. -/
inductive Nature where
  /-- A value does not fit its directive, or values and directives differ in number. -/
  | mismatch
  /-- The template itself is badly written. -/
  | badTemplate
  /-- A number is out of range. -/
  | outOfRange
  deriving DecidableEq, Repr

/-- The nature of a fault. -/
def nature : TemplateError → Nature
  | mappingRequired | tooFewValues | tooManyValues | extentNotInteger | integerRequired ..
  | numberRequired .. | realRequired .. | characterRequired => .mismatch
  | incomplete | unsupported .. | widthTooBig | precisionTooBig => .badTemplate
  | characterOutOfRange | widthOutOfRange | precisionOutOfRange | precisionTooLarge
  | integerTooLarge => .outOfRange

/-- The wording of a fault. -/
def message : TemplateError → Text
  | mappingRequired => Text.lit "format requires a mapping"
  | tooFewValues => Text.lit "not enough arguments for format string"
  | tooManyValues => Text.lit "not all arguments converted during string formatting"
  | extentNotInteger => Text.lit "* wants int"
  | incomplete => Text.lit "incomplete format"
  | unsupported letter position =>
    let n := letter.toNat
    let shown := if 31 ≤ n && n < 126 then letter else '?'
    Text.lit "unsupported format character '" ++ [shown] ++ Text.lit "' (0x" ++
      Nat.toDigits 16 n ++ Text.lit ") at index " ++ Number.showNat position
  | integerRequired letter typeName =>
    '%' :: letter :: Text.lit " format: an integer is required, not " ++ typeName
  | numberRequired letter typeName =>
    '%' :: letter :: Text.lit " format: a real number is required, not " ++ typeName
  | realRequired typeName => Text.lit "must be real number, not " ++ typeName
  | characterRequired => Text.lit "%c requires int or char"
  | widthTooBig => Text.lit "width too big"
  | precisionTooBig => Text.lit "precision too big"
  | characterOutOfRange => Text.lit "%c arg not in range(0x110000)"
  | widthOutOfRange => Text.lit "Python int too large to convert to C ssize_t"
  | precisionOutOfRange => Text.lit "Python int too large to convert to C int"
  | precisionTooLarge => Text.lit "precision too large"
  | integerTooLarge => Text.lit "int too large to convert to float"

end TemplateError

namespace Template

/-- A conversion by its letter. -/
inductive Conversion where
  /-- A value as shown to a reader, in quotes, or in quotes and ASCII. -/
  | display | quoted | quotedAscii
  /-- A whole number in decimal digits. -/
  | decimal
  /-- A whole number in base eight or sixteen. -/
  | octal | hexadecimal (upper : Bool)
  /-- A floating-point number with an exponent, with fixed places, or whichever is shorter. -/
  | scientific (upper : Bool) | fixed | general (upper : Bool)
  /-- One character. -/
  | character
  deriving DecidableEq, Repr

/-- The conversion that a letter stands for. -/
def Conversion.ofLetter? : Char → Option Conversion
  | 's' => some .display
  | 'r' => some .quoted
  | 'a' => some .quotedAscii
  | 'd' | 'i' | 'u' => some .decimal
  | 'o' => some .octal
  | 'x' => some (.hexadecimal false)
  | 'X' => some (.hexadecimal true)
  | 'e' => some (.scientific false)
  | 'E' => some (.scientific true)
  | 'f' | 'F' => some .fixed
  | 'g' => some (.general false)
  | 'G' => some (.general true)
  | 'c' => some .character
  | _ => none

/-- Text of a converted value, in the parts that filling up treats differently. -/
structure Converted where
  /-- The sign of a number. -/
  sign : Text := []
  /-- The mark of the base of a number. -/
  base : Text := []
  /-- The value itself. -/
  body : RawText
  /-- Whether the value is a number, which zeros may fill up. -/
  numeric : Bool := false

/-- The sign to show for a number. -/
def Flags.signOf (f : Flags) (negative : Bool) : Text :=
  if negative then ['-'] else if f.sign then ['+'] else if f.blank then [' '] else []

/-- A converted value filled up to a width. -/
def Converted.fillUp (c : Converted) (f : Flags) (width : Nat) : RawText :=
  let missing := width - (c.sign.length + c.base.length + c.body.length)
  let marks := RawText.ofText (c.sign ++ c.base)
  if f.left then marks ++ c.body ++ List.replicate missing (.char ' ')
  else if c.numeric && f.zero then marks ++ List.replicate missing (.char '0') ++ c.body
  else List.replicate missing (.char ' ') ++ marks ++ c.body

/-- Digits filled up with zeros to at least `precision`. -/
def fillDigits (precision : Option Nat) (digits : Text) : Text :=
  List.replicate (precision.getD 0 - digits.length) '0' ++ digits

/-- A whole number converted by digits of the given base. -/
def convertInt (f : Flags) (precision : Option Nat) (radix : Nat) (mark : Text) (upper : Bool)
    (i : Int) : Converted :=
  let digits := fillDigits precision (Nat.toDigits radix i.natAbs)
  { sign := f.signOf (i < 0), base := if f.alternate then mark else [],
    body := .ofText (if upper then Text.upperCase digits else digits), numeric := true }

/-- The whole number that a decimal conversion shows. -/
def wholeNumber? : Value → Option Int
  | .float x => some x.truncate
  | v => v.toInt?

/-- The floating-point number that a floating-point conversion shows. -/
def realNumber (v : Value) : Except TemplateError Number.Binary64 :=
  match v with
  | .float x => .ok x
  | v =>
    match v.toInt? with
    | none => .error (.realRequired v.typeName)
    | some i =>
      match Number.Binary64.ofInt? i with
      | none => .error .integerTooLarge
      | some x => .ok x

/-- A floating-point number converted by a notation of its absolute value. -/
def convertReal (f : Flags) (write : Number.Binary64 → Text) (v : Value) :
    Except TemplateError Converted := do
  let x ← realNumber v
  return { sign := f.signOf x.negative, body := .ofText (write { x with negative := false }),
           numeric := true }

/-- The code point that a character conversion shows. -/
def character (v : Value) : Except TemplateError CodePoint :=
  match v with
  | .text [point] => .ok point
  | v =>
    match v.toInt? with
    | none => .error .characterRequired
    | some i =>
      if i < 0 || 0x110000 ≤ i then .error .characterOutOfRange
      else .ok (.ofNat i.toNat)

/-- The most digits that a whole number may be asked to have. -/
def maxDigits : Nat := 2147483644

/-- Converts a value by the conversion with the given letter. -/
def convert (f : Flags) (precision : Option Nat) (letter : Char) (conversion : Conversion)
    (v : Value) : Except TemplateError Converted :=
  let cut (raw : RawText) : RawText := match precision with
    | none => raw
    | some p => raw.take p
  let whole (error : TemplateError) (number : Option Int) (radix : Nat) (mark : Text)
      (upper : Bool) : Except TemplateError Converted :=
    match number with
    | none => .error error
    | some i =>
      if maxDigits < precision.getD 0 then .error .precisionTooLarge
      else .ok (convertInt f precision radix mark upper i)
  let places := precision.getD 6
  match conversion with
  | .display => .ok { body := cut v.display }
  | .quoted => .ok { body := cut (.ofText v.quoted) }
  | .quotedAscii => .ok { body := cut (.ofText v.quotedAscii) }
  | .decimal => whole (.numberRequired letter v.typeName) (wholeNumber? v) 10 [] false
  | .octal =>
    whole (.integerRequired letter v.typeName) v.toInt? 8 (Text.lit "0o") false
  | .hexadecimal upper =>
    whole (.integerRequired letter v.typeName) v.toInt? 16 ['0', letter] upper
  | .scientific upper =>
    convertReal f (Number.scientificNotation · places (if upper then 'E' else 'e') f.alternate) v
  | .fixed => convertReal f (Number.fixedNotation · places f.alternate) v
  | .general upper =>
    convertReal f (Number.generalNotation · places (if upper then 'E' else 'e') f.alternate) v
  | .character => do
    let point ← character v
    return { body := [point] }

/-- The next value as a whole number with a sign, at most `limit`. -/
def takeExtentValue (limit : Nat) (outOfRange : TemplateError) :
    List Value → Except TemplateError (Int × List Value)
  | [] => .error .tooFewValues
  | v :: values =>
    match v.toInt? with
    | none => .error .extentNotInteger
    | some i =>
      if -(limit : Int) - 1 ≤ i && i ≤ limit then .ok (i, values) else .error outOfRange

/-- The width of a directive, with the values left over; a negative one fills up on the right. -/
def takeWidth (extent : Extent) (values : List Value) :
    Except TemplateError (Option Int × List Value) :=
  match extent with
  | .unset => .ok (none, values)
  | .fixed n => .ok (some n, values)
  | .excessive => .error .widthTooBig
  | .argument => do
    let (i, values) ← takeExtentValue maxWidth .widthOutOfRange values
    return (some i, values)

/-- The precision of a directive, with the values left over; a negative one counts as zero. -/
def takePrecisionValue (extent : Extent) (values : List Value) :
    Except TemplateError (Option Nat × List Value) :=
  match extent with
  | .unset => .ok (none, values)
  | .fixed n => .ok (some n, values)
  | .excessive => .error .precisionTooBig
  | .argument => do
    let (i, values) ← takeExtentValue maxPrecision .precisionOutOfRange values
    return (some i.toNat, values)

/-- The raw text of one directive, with the values left over. -/
def fillDirective (d : Directive) (values : List Value) :
    Except TemplateError (RawText × List Value) := do
  if d.keyed then throw .mappingRequired
  let (width, values) ← takeWidth d.width values
  let (precision, values) ← takePrecisionValue d.precision values
  match d.conversion, values with
  | none, _ => throw .incomplete
  | some _, [] => throw .tooFewValues
  | some letter, v :: values =>
    match Conversion.ofLetter? letter with
    | none => throw (.unsupported letter d.position)
    | some conversion =>
      let width := width.getD 0
      let flags := { d.flags with left := d.flags.left || width < 0 }
      let converted ← convert flags precision letter conversion v
      return (converted.fillUp flags width.natAbs, values)

/-- The raw text of segments for given values, all of which must be taken. -/
def fillSegments : List Segment → List Value → Except TemplateError RawText
  | [], [] => .ok []
  | [], _ :: _ => .error .tooManyValues
  | .literal c :: rest, values => (fillSegments rest values).map (.char c :: ·)
  | .directive d :: rest, values => do
    let (text, values) ← fillDirective d values
    let more ← fillSegments rest values
    return text ++ more

/-- The raw text of a template for given values. -/
def fill (template : Text) (values : List Value) : Except TemplateError RawText :=
  fillSegments (segments template) values

end Template

end UnitForge
