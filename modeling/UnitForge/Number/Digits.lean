import UnitForge.Text.Blank
import UnitForge.Text.Quoted

set_option autoImplicit false

/-!
# Whole numbers in text

Whole numbers are written in decimal digits of any script, with an optional sign, blanks around
them, and single underscores between digits.

## Main definitions

* `UnitForge.Number.digitValue?`: the value of a decimal digit of any script.
* `UnitForge.Number.readInt`: reads a whole number.
* `UnitForge.Number.showNat`, `UnitForge.Number.showInt`: decimal digits.
-/

namespace UnitForge.Number

/-- The decimal digits of a number. -/
def showNat (n : Nat) : Text := Nat.toDigits 10 n

/-- The decimal digits of a number, after a minus sign if it is negative. -/
def showInt (i : Int) : Text :=
  if i < 0 then '-' :: showNat i.natAbs else showNat i.natAbs

/-- The code points of the digit zero in every script that has decimal digits. -/
def zeroDigits : List Nat := [
    48, 1632, 1776, 1984, 2406, 2534, 2662, 2790, 2918, 3046, 3174,
    3302, 3430, 3558, 3664, 3792, 3872, 4160, 4240, 6112, 6160, 6470,
    6608, 6784, 6800, 6992, 7088, 7232, 7248, 42528, 43216, 43264, 43472,
    43504, 43600, 44016, 65296, 66720, 68912, 69734, 69872, 69942, 70096,
    70384, 70736, 70864, 71248, 71360, 71472, 71904, 72016, 72784, 73040,
    73120, 92768, 92864, 93008, 120782, 120792, 120802, 120812, 120822,
    123200, 123632, 125264, 130032]

/-- The value of a decimal digit of any script. -/
def digitValue? (c : Char) : Option Nat :=
  let n := c.toNat
  if n < 0x80 then if 0x30 ≤ n && n ≤ 0x39 then some (n - 0x30) else none
  else (zeroDigits.find? fun first => first ≤ n && n < first + 10).map (n - ·)

/-- Why a text is not read as a whole number. -/
inductive ReadFault where
  /-- The text is not written as a whole number. -/
  | malformed
  /-- The number has this many digits, more than `maxDigits`. -/
  | tooLong (digits : Nat)
  deriving DecidableEq, Repr

/-- The most digits that a number may be written with. -/
def maxDigits : Nat := 4300

/-- The values of the digits at the start of a text and the text after them. Underscores stand
singly between digits: `digitNeeded` says that only a digit may come next. -/
def digitRun (digitNeeded : Bool) : Text → Option (List Nat × Text)
  | [] => if digitNeeded then none else some ([], [])
  | c :: rest =>
    match digitValue? c with
    | some d => (digitRun false rest).map fun (ds, after) => (d :: ds, after)
    | none =>
      if digitNeeded then none
      else if c = '_' then digitRun true rest
      else some ([], c :: rest)

/-- Splits an optional sign off a text; the flag says that it is a minus sign. -/
def takeSign : Text → Bool × Text
  | '-' :: rest => (true, rest)
  | '+' :: rest => (false, rest)
  | rest => (false, rest)

/-- Reads a whole number. -/
def readInt (text : Text) : Except ReadFault Int :=
  let (negative, body) := takeSign (Text.trim text)
  match digitRun true body with
  | none => .error .malformed
  | some (digits, after) =>
    if maxDigits < digits.length then .error (.tooLong digits.length)
    else if after.isEmpty then
      let n : Nat := digits.foldl (fun n d => n * 10 + d) 0
      .ok (if negative then -(n : Int) else n)
    else .error .malformed

/-- The wording of a failure to read `text` as a whole number; it shows at most two hundred
characters of the quoted text. -/
def ReadFault.message (fault : ReadFault) (text : Text) : Text :=
  match fault with
  | .malformed =>
    Text.lit "invalid literal for int() with base 10: " ++ (Text.quoted text).take 200
  | .tooLong digits =>
    Text.lit "Exceeds the limit (4300 digits) for integer string conversion: value has " ++
      showNat digits ++ Text.lit " digits; use sys.set_int_max_str_digits() to increase the limit"

end UnitForge.Number
