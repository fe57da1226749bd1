import UnitForge.Text.Basic

set_option autoImplicit false

/-!
# Blank characters

The characters that count as white space: the tab-to-return block, the four information
separators, the space, next line, and the Unicode spaces and line separators.

## Main definitions

* `UnitForge.Text.isBlank`: the class.
* `UnitForge.Text.trim`, `UnitForge.Text.trimEnd`: a text without blanks at both ends, or at its
  end.
* `UnitForge.Text.words`: the runs of characters that are not blank.
-/

namespace UnitForge.Text

/-- The characters that count as white space. -/
def isBlank (c : Char) : Bool :=
  let n := c.toNat
  (0x09 ≤ n && n ≤ 0x0d) || (0x1c ≤ n && n ≤ 0x20) || n == 0x85 || n == 0xa0 || n == 0x1680 ||
    (0x2000 ≤ n && n ≤ 0x200a) || n == 0x2028 || n == 0x2029 || n == 0x202f || n == 0x205f ||
    n == 0x3000

/-- The text without blanks at its start. -/
def trimStart (text : Text) : Text := text.dropWhile isBlank

/-- The text without blanks at its end. -/
def trimEnd (text : Text) : Text := (text.reverse.dropWhile isBlank).reverse

/-- The text without blanks at its two ends. -/
def trim (text : Text) : Text := trimEnd (trimStart text)

/-- Whether a text holds nothing but blanks. -/
def allBlank (text : Text) : Bool := text.all isBlank

/-- The maximal runs of characters that are not blank. -/
def words (text : Text) : List Text := (text.splitBy fun a b => isBlank a == isBlank b).filter
  fun run => !(run.any isBlank)

end UnitForge.Text
