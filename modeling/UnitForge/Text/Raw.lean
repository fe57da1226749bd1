import UnitForge.Text.Quoted

set_option autoImplicit false

/-!
# Raw text

What is drafted need not be a text: a raw text is a list of code points, and surrogates may be among
them. A raw text with a surrogate in it has no encoding as UTF-8.

## Main definitions

* `UnitForge.CodePoint`, `UnitForge.RawText`: a code point, and a list of code points.
* `UnitForge.RawText.ofText`, `UnitForge.RawText.toText`: texts as raw texts, and back.
* `UnitForge.EncodeError`: why a raw text is no text, with its wording.
* `UnitForge.RawText.quoted`, `UnitForge.RawText.quotedAscii`: the quoted forms.
-/

namespace UnitForge

/-- A code point: a character, or one of the surrogates from U+D800 to U+DFFF. -/
inductive CodePoint where
  /-- A character. -/
  | char (c : Char)
  /-- The surrogate with that number among the surrogates. -/
  | surrogate (index : Fin 0x800)
  deriving DecidableEq, Repr

namespace CodePoint

/-- Whether a code point is a surrogate. -/
def isSurrogate : CodePoint → Bool
  | .char _ => false
  | .surrogate _ => true

/-- The number of a code point. -/
def toNat : CodePoint → Nat
  | .char c => c.toNat
  | .surrogate index => 0xd800 + index

/-- The code point with a number; the zero character if there is none. -/
def ofNat (n : Nat) : CodePoint :=
  if 0xd800 ≤ n && n < 0xe000 then .surrogate (Fin.ofNat 0x800 (n - 0xd800))
  else .char (Char.ofNat n)

/-- The character that a code point is, if it is one. -/
def char? : CodePoint → Option Char
  | .char c => some c
  | .surrogate _ => none

/-- The quoted form of one code point, where `shown` says which characters stand for themselves. -/
def quoted (shown : Char → Bool) (quote : Char) : CodePoint → Text
  | .char c => Text.quotedChar shown quote c
  | .surrogate index => '\\' :: 'u' :: Text.hexDigits 4 (0xd800 + index)

end CodePoint

/-- A raw text is the list of its code points. -/
abbrev RawText := List CodePoint

/-- The surrogates that keep a raw text from being encoded. -/
structure EncodeError where
  /-- The position of the first surrogate. -/
  first : Nat
  /-- The first surrogate. -/
  surrogate : Fin 0x800
  /-- How many surrogates follow it at once. -/
  more : Nat
  deriving DecidableEq, Repr

/-- The wording of the failure. -/
def EncodeError.message (e : EncodeError) : Text :=
  let place := if e.more = 0 then
      Text.lit "character '\\u" ++ Text.hexDigits 4 (CodePoint.surrogate e.surrogate).toNat ++
        Text.lit "' in position " ++ Nat.toDigits 10 e.first
    else
      Text.lit "characters in position " ++ Nat.toDigits 10 e.first ++ ['-'] ++
        Nat.toDigits 10 (e.first + e.more)
  Text.lit "'utf-8' codec can't encode " ++ place ++ Text.lit ": surrogates not allowed"

namespace RawText

/-- A text as a raw text. -/
def ofText (text : Text) : RawText := text.map .char

/-- The text that a raw text is from `position` on. -/
def toTextFrom (position : Nat) : RawText → Except EncodeError Text
  | [] => .ok []
  | .char c :: rest => (toTextFrom (position + 1) rest).map (c :: ·)
  | .surrogate index :: rest =>
    .error ⟨position, index, (rest.takeWhile CodePoint.isSurrogate).length⟩

/-- The text that a raw text is; there is none if it has a surrogate in it. -/
def toText (raw : RawText) : Except EncodeError Text := toTextFrom 0 raw

/-- The raw text between quotes, with surrogates and the characters that are not `shown` escaped. -/
def quotedWith (shown : Char → Bool) (raw : RawText) : Text :=
  let quote := Text.quoteFor (raw.filterMap CodePoint.char?)
  quote :: raw.flatMap (CodePoint.quoted shown quote) ++ [quote]

/-- The raw text between quotes. -/
def quoted (raw : RawText) : Text := quotedWith Text.isPrintable raw

/-- The raw text between quotes, in ASCII characters only. -/
def quotedAscii (raw : RawText) : Text :=
  quotedWith (fun c => Text.isPrintable c && c.toNat < 0x80) raw

variable {raw : RawText} {text : Text}

@[simp] theorem ofText_nil : ofText [] = [] := rfl

@[simp] theorem ofText_append (first second : Text) :
    ofText (first ++ second) = ofText first ++ ofText second :=
  List.map_append

/-- What is read as a text from a position on is the text. -/
theorem toTextFrom_eq_ok_iff (position : Nat) :
    toTextFrom position raw = .ok text ↔ raw = ofText text := by
  induction raw generalizing position text with
  | nil => cases text <;> simp [toTextFrom, ofText]
  | cons point raw ih =>
    cases point with
    | surrogate index => cases text <;> simp [toTextFrom, ofText]
    | char c =>
      rw [toTextFrom]
      cases text with
      | nil => cases toTextFrom (position + 1) raw <;> simp [Except.map, ofText]
      | cons d text =>
        have hrest : toTextFrom (position + 1) raw = .ok text ↔ raw = ofText text :=
          ih (position + 1)
        cases h : toTextFrom (position + 1) raw with
        | error e =>
          rw [h] at hrest
          simpa [Except.map, ofText] using fun _ => hrest
        | ok found =>
          rw [h] at hrest
          simpa [Except.map, ofText] using fun _ => hrest

/-- A raw text is a text exactly if it is the raw text of one. -/
theorem toText_eq_ok_iff : raw.toText = .ok text ↔ raw = ofText text :=
  toTextFrom_eq_ok_iff 0

@[simp] theorem toText_ofText (text : Text) : (ofText text).toText = .ok text :=
  toText_eq_ok_iff.mpr rfl

end RawText

end UnitForge
