import UnitForge.Text.Blank

set_option autoImplicit false

/-!
# Braces of a line

The braces of a source line that belong to its code. Braces in literals and comments do not count.
A block comment or text block may be left open by a line and go on in the next.

## Main definitions

* `UnitForge.Layout.LineScan`: what a line says about braces.
* `UnitForge.Layout.scanLine`: scans one line.
-/

namespace UnitForge.Layout

/-- The terminator of a block comment. -/
def blockCommentEnd : Text := Text.lit "*/"

/-- The delimiter of a text block. -/
def textBlockQuote : Text := Text.lit "\"\"\""

/-- What the part of a line scanned so far says about braces. -/
structure LineScan where
  /-- The number of closing braces before any other code. -/
  leading : Nat := 0
  /-- The number of opening braces less that of closing ones. -/
  net : Int := 0
  /-- The terminator of the construct that is open, if one is. -/
  pending : Option Text := none
  /-- Whether there was code other than leading closing braces. -/
  seenCode : Bool := false
  /-- The quote that ends the literal in progress, if there is one. -/
  quote : Option Char := none
  deriving DecidableEq, Repr

namespace LineScan

/-- The scan after one character of code. -/
def code (s : LineScan) (c : Char) : LineScan :=
  if c = '"' || c = '\'' then { s with quote := some c, seenCode := true }
  else if c = '{' then { s with net := s.net + 1, seenCode := true }
  else if c = '}' then
    { s with net := s.net - 1, leading := if s.seenCode then s.leading else s.leading + 1 }
  else if Text.isBlank c then s
  else { s with seenCode := true }

/-- The terminator that is looked for; an empty one is looked for nowhere. -/
def terminator (s : LineScan) : Option Text := s.pending.filter (!·.isEmpty)

/-- Scans on, where the first `skip` characters belong to what was read already. -/
def scanFrom (s : LineScan) (skip : Nat) : Text → LineScan
  | [] => s
  | c :: rest =>
    match skip with
    | n + 1 => s.scanFrom n rest
    | 0 =>
      match s.terminator with
      | some t =>
        if t = textBlockQuote && c = '\\' then s.scanFrom 1 rest
        else if Text.startsWith (c :: rest) t then
          scanFrom { s with pending := none } (t.length - 1) rest
        else s.scanFrom 0 rest
      | none =>
        match s.quote with
        | some q =>
          if c = '\\' then s.scanFrom 1 rest
          else scanFrom { s with quote := if c = q then none else some q } 0 rest
        | none =>
          if Text.startsWith (c :: rest) (Text.lit "//") then s
          else if Text.startsWith (c :: rest) (Text.lit "/*") then
            scanFrom { s with pending := some blockCommentEnd } 1 rest
          else if Text.startsWith (c :: rest) textBlockQuote then
            scanFrom { s with pending := some textBlockQuote, seenCode := true } 2 rest
          else scanFrom (s.code c) 0 rest

end LineScan

/-- Scans one line, where `opened` is the terminator of what an earlier line left open. -/
def scanLine (line : Text) (opened : Option Text := none) : LineScan :=
  LineScan.scanFrom { pending := opened } 0 line

end UnitForge.Layout
