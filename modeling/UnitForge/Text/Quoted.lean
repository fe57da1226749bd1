import UnitForge.Text.Basic
import UnitForge.Text.Printable

set_option autoImplicit false

/-!
# Quoted text

A quoted text stands between single quotes, or between double quotes when it holds a single quote
and no double one. Backslashes, the quote in use, the three common controls and all characters
that are not printable are escaped.

## Main definitions

* `UnitForge.Text.quoted`: the quoted form.
* `UnitForge.Text.quotedAscii`: the quoted form with every character beyond ASCII escaped too.
* `UnitForge.Text.quotedTuple`: quoted texts in parentheses; a single one keeps its comma.
-/

namespace UnitForge.Text

/-- The last `width` hexadecimal digits of `n`, filled with zeros. -/
def hexDigits (width n : Nat) : Text :=
  let digits := Nat.toDigits 16 n
  List.replicate (width - digits.length) '0' ++ digits

/-- The escape by code point, with as few digits as the point allows: two, four or eight. -/
def escapeCode (c : Char) : Text :=
  let n := c.toNat
  if n < 0x100 then '\\' :: 'x' :: hexDigits 2 n
  else if n < 0x10000 then '\\' :: 'u' :: hexDigits 4 n
  else '\\' :: 'U' :: hexDigits 8 n

/-- The quoted form of one character, where `shown` says which characters stand for themselves. -/
def quotedChar (shown : Char → Bool) (quote c : Char) : Text :=
  if c = quote || c = '\\' then ['\\', c]
  else if c = '\n' then lit "\\n"
  else if c = '\r' then lit "\\r"
  else if c = '\t' then lit "\\t"
  else if shown c then [c]
  else escapeCode c

/-- The quote to use: single unless the text holds a single quote and no double one. -/
def quoteFor (text : Text) : Char :=
  if text.contains '\'' && !text.contains '"' then '"' else '\''

/-- The text between quotes, with the characters that are not `shown` escaped. -/
def quotedWith (shown : Char → Bool) (text : Text) : Text :=
  let quote := quoteFor text
  quote :: text.flatMap (quotedChar shown quote) ++ [quote]

/-- The text between quotes. -/
def quoted (text : Text) : Text := quotedWith isPrintable text

/-- The text between quotes, in ASCII characters only. -/
def quotedAscii (text : Text) : Text :=
  quotedWith (fun c => isPrintable c && c.toNat < 0x80) text

/-- Quoted texts in parentheses; a single one is followed by a comma. -/
def quotedTuple : List Text → Text
  | [text] => lit "(" ++ quoted text ++ lit ",)"
  | texts => lit "(" ++ join (lit ", ") (texts.map quoted) ++ lit ")"

end UnitForge.Text
