import UnitForge.Text.Basic

set_option autoImplicit false

/-!
# Directives of templates

A template is a text with directives in it. A directive is a percent sign, flags, an optional
width and precision, an optional length letter that means nothing, and the letter of a conversion.
Two percent signs stand for one.

## Main definitions

* `UnitForge.Template.Directive`: what stands after a percent sign.
* `UnitForge.Template.Segment`: a character, or a directive.
* `UnitForge.Template.segments`: the segments of a template.
-/

namespace UnitForge.Template

/-- The flags of a directive. -/
structure Flags where
  /-- Fill up on the right. -/
  left : Bool := false
  /-- Show a sign with every number. -/
  sign : Bool := false
  /-- Show a blank for the sign of a number that is not negative. -/
  blank : Bool := false
  /-- Show the base of a number, or its point. -/
  alternate : Bool := false
  /-- Fill up numbers with zeros. -/
  zero : Bool := false
  deriving DecidableEq, Repr

/-- A width or a precision. -/
inductive Extent where
  /-- Not given. -/
  | unset
  /-- Given in digits. -/
  | fixed (n : Nat)
  /-- Given in digits, beyond the limit. -/
  | excessive
  /-- Taken from the next argument. -/
  | argument
  deriving DecidableEq, Repr

/-- What stands after a percent sign. -/
structure Directive where
  /-- Whether a parenthesis follows the percent sign, which asks for an argument by its key. -/
  keyed : Bool := false
  /-- The flags. -/
  flags : Flags := {}
  /-- The width. -/
  width : Extent := .unset
  /-- The precision. -/
  precision : Extent := .unset
  /-- The letter of the conversion; none if the template ends before it. -/
  conversion : Option Char := none
  /-- The position of that letter in the template. -/
  position : Nat := 0
  deriving DecidableEq, Repr

/-- A piece of a template. -/
inductive Segment where
  /-- A character that stands for itself. -/
  | literal (c : Char)
  /-- A directive. -/
  | directive (d : Directive)
  deriving DecidableEq, Repr

/-- Adds a flag; none if the character is no flag. -/
def Flags.add? (f : Flags) (c : Char) : Option Flags :=
  if c = '-' then some { f with left := true }
  else if c = '+' then some { f with sign := true }
  else if c = ' ' then some { f with blank := true }
  else if c = '#' then some { f with alternate := true }
  else if c = '0' then some { f with zero := true }
  else none

/-- The flags at the start of a text, and the rest of it. -/
def takeFlags (f : Flags) : Text → Flags × Text
  | [] => (f, [])
  | c :: rest =>
    match f.add? c with
    | some f => takeFlags f rest
    | none => (f, c :: rest)

/-- The number written by the digits at the start of a text, and the rest of it. -/
def takeNumber (n : Nat) : Text → Nat × Text
  | [] => (n, [])
  | c :: rest =>
    if c.isDigit then takeNumber (n * 10 + (c.toNat - '0'.toNat)) rest else (n, c :: rest)

/-- The largest width: the greatest whole number of sixty-four bits with a sign. -/
def maxWidth : Nat := 9223372036854775807

/-- The largest precision: the greatest whole number of thirty-two bits with a sign. -/
def maxPrecision : Nat := 2147483647

/-- The extent at the start of a text, at most `limit`, and the rest of the text. -/
def takeExtent (limit : Nat) (absent : Extent) : Text → Extent × Text
  | [] => (absent, [])
  | c :: rest =>
    if c = '*' then (.argument, rest)
    else if c.isDigit then
      let (n, rest) := takeNumber 0 (c :: rest)
      (if n ≤ limit then .fixed n else .excessive, rest)
    else (absent, c :: rest)

/-- The precision at the start of a text, and the rest of the text. -/
def takePrecision : Text → Extent × Text
  | '.' :: rest => takeExtent maxPrecision (.fixed 0) rest
  | rest => (.unset, rest)

/-- A text without the length letter at its start. -/
def dropLength : Text → Text
  | [] => []
  | c :: rest => if c = 'h' || c = 'l' || c = 'L' then rest else c :: rest

/-- The directive after a percent sign that has `position` characters up to and including it before
it, and the text after the directive. -/
def takeDirective (position : Nat) (text : Text) : Directive × Text :=
  if text.head? = some '(' then ({ keyed := true }, [])
  else
    let (flags, afterFlags) := takeFlags {} text
    let (width, afterWidth) := takeExtent maxWidth .unset afterFlags
    let (precision, afterPrecision) := takePrecision afterWidth
    match dropLength afterPrecision with
    | [] => ({ flags, width, precision }, [])
    | c :: rest =>
      let position := position + (text.length - rest.length) - 1
      ({ flags, width, precision, conversion := some c, position }, rest)

theorem length_takeFlags_le (f : Flags) (text : Text) :
    (takeFlags f text).2.length ≤ text.length := by
  induction text generalizing f with
  | nil => simp [takeFlags]
  | cons c rest ih =>
    unfold takeFlags
    cases f.add? c with
    | none => simp
    | some g => exact Nat.le_succ_of_le (ih g)

theorem length_takeNumber_le (n : Nat) (text : Text) :
    (takeNumber n text).2.length ≤ text.length := by
  induction text generalizing n with
  | nil => simp [takeNumber]
  | cons c rest ih =>
    unfold takeNumber
    split
    · exact Nat.le_succ_of_le (ih _)
    · simp

theorem length_takeExtent_le (limit : Nat) (absent : Extent) (text : Text) :
    (takeExtent limit absent text).2.length ≤ text.length := by
  cases text with
  | nil => simp [takeExtent]
  | cons c rest =>
    simp only [takeExtent]
    split
    · simp
    · split
      · exact length_takeNumber_le 0 (c :: rest)
      · simp

theorem length_takePrecision_le (text : Text) : (takePrecision text).2.length ≤ text.length := by
  unfold takePrecision
  split
  · exact Nat.le_succ_of_le (length_takeExtent_le _ _ _)
  · simp

theorem length_dropLength_le (text : Text) : (dropLength text).length ≤ text.length := by
  cases text with
  | nil => simp [dropLength]
  | cons c rest =>
    simp only [dropLength]
    split <;> simp

theorem length_takeDirective_le (position : Nat) (text : Text) :
    (takeDirective position text).2.length ≤ text.length := by
  unfold takeDirective
  split
  · simp
  · have h₁ := length_takeFlags_le {} text
    have h₂ := length_takeExtent_le maxWidth .unset (takeFlags {} text).2
    have h₃ := length_takePrecision_le
      (takeExtent maxWidth .unset (takeFlags {} text).2).2
    have h₄ := length_dropLength_le
      (takePrecision (takeExtent maxWidth .unset (takeFlags {} text).2).2).2
    dsimp only
    split
    · simp
    · next c rest h => simp only [h, List.length_cons] at h₄; simp only; omega

/-- The segments of a template whose first character has the given position. -/
def segmentsFrom (position : Nat) (text : Text) : List Segment :=
  match text with
  | [] => []
  | '%' :: '%' :: rest => .literal '%' :: segmentsFrom (position + 2) rest
  | c :: rest =>
    if c = '%' then
      have := length_takeDirective_le (position + 1) rest
      let d := (takeDirective (position + 1) rest).1
      let after := (takeDirective (position + 1) rest).2
      .directive d :: segmentsFrom (position + 1 + (rest.length - after.length)) after
    else .literal c :: segmentsFrom (position + 1) rest
  termination_by text.length
  decreasing_by all_goals (simp only [List.length_cons]; omega)

/-- The segments of a template. -/
def segments (text : Text) : List Segment := segmentsFrom 0 text

end UnitForge.Template
