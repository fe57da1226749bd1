import UnitForge.Layout.BraceScan
import UnitForge.Text.Lines

set_option autoImplicit false

/-!
# Indentation by brace depth

A source is laid out anew: each line is indented by the number of braces open at its start, blank
lines at the start are dropped, and runs of blank lines become one. What stands inside a text
block is kept as it is, but for blanks at the ends of lines.

## Main definitions

* `UnitForge.Layout.layoutLines`: lays out the lines of a source.
* `UnitForge.Layout.reindent`: lays out a source.
-/

namespace UnitForge.Layout

/-- The state between two lines. -/
structure LayoutState where
  /-- The number of braces open. -/
  depth : Nat := 0
  /-- The terminator of the construct left open, if one is. -/
  pending : Option Text := none
  /-- Whether a line has been written. -/
  started : Bool := false
  /-- Whether a blank line is due before the next line written. -/
  blankDue : Bool := false
  deriving DecidableEq, Repr

/-- The state after a line with the given scan has been written. -/
def LayoutState.next (s : LayoutState) (scan : LineScan) (blankDue : Bool) : LayoutState :=
  { depth := (s.depth + scan.net).toNat, pending := scan.pending, started := true, blankDue }

/-- A line, not blank, at the indentation that its state asks for. In a block comment it stands at
the full depth, and one blank further if it begins with a star. -/
def indentLine (indent : Text) (s : LayoutState) (scan : LineScan) (line : Text) : Text :=
  if s.pending = some blockCommentEnd then
    Text.times s.depth indent ++ (if line.head? = some '*' then [' '] else []) ++ line
  else Text.times (s.depth - scan.leading) indent ++ line

/-- The laid-out lines of a source. -/
def layoutLines (indent : Text) (s : LayoutState) : List Text → List Text
  | [] => []
  | raw :: rest =>
    if s.pending = some textBlockQuote then
      Text.trimEnd raw :: layoutLines indent (s.next (scanLine raw s.pending) s.blankDue) rest
    else
      let line := Text.trim raw
      if line.isEmpty then layoutLines indent { s with blankDue := s.started } rest
      else
        let scan := scanLine line s.pending
        let lines := indentLine indent s scan line :: layoutLines indent (s.next scan false) rest
        if s.blankDue then [] :: lines else lines

/-- The laid-out source: its lines, each ended by a newline. -/
def reindent (indent : Text) (source : Text) : Text :=
  (layoutLines indent {} (Text.lines source)).flatMap (· ++ ['\n'])

end UnitForge.Layout
