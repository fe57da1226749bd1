import UnitForge.Text.Basic

set_option autoImplicit false

/-!
# Lines

A line ends at any of the line separators of Unicode and of the control block, and a return
followed by a newline is one separator. A separator at the very end of a text opens no further
line, so the empty text has no lines.

## Main definitions

* `UnitForge.Text.isLineBreak`: the separators.
* `UnitForge.Text.lines`: the lines of a text, without their separators.
* `UnitForge.Text.unifyReturns`: every return, with a newline after it or not, becomes a newline.
-/

namespace UnitForge.Text

/-- The characters that end a line. -/
def isLineBreak (c : Char) : Bool :=
  let n := c.toNat
  (0x0a ≤ n && n ≤ 0x0d) || (0x1c ≤ n && n ≤ 0x1e) || n == 0x85 || n == 0x2028 || n == 0x2029

/-- The lines of a text, where `line` holds the characters of the present line in reverse. -/
def linesFrom (line : Text) : Text → List Text
  | [] => if line.isEmpty then [] else [line.reverse]
  | '\r' :: '\n' :: rest => line.reverse :: linesFrom [] rest
  | c :: rest =>
    if isLineBreak c then line.reverse :: linesFrom [] rest else linesFrom (c :: line) rest

/-- The lines of a text, without their separators. -/
def lines (text : Text) : List Text := linesFrom [] text

/-- The text in which a newline stands for each return, and for each return with a newline. -/
def unifyReturns : Text → Text
  | [] => []
  | '\r' :: '\n' :: rest => '\n' :: unifyReturns rest
  | c :: rest => (if c = '\r' then '\n' else c) :: unifyReturns rest

end UnitForge.Text
