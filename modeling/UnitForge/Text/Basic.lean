set_option autoImplicit false

/-!
# Text

A text is a list of characters; surrogates are none (see `UnitForge.RawText`). This file holds the
operations on texts that every other part of the library uses: cutting at a separator, joining, and
replacing.

## Main definitions

* `UnitForge.Text`: a list of characters.
* `UnitForge.Text.split`, `UnitForge.Text.join`: segments around a separator character, and back.
* `UnitForge.Text.cut`: the parts before and after the first separator.
* `UnitForge.Text.startsWith`: whether a text begins with another.
* `UnitForge.Text.sort`: texts in ascending order of their code points.
-/

namespace UnitForge

/-- A text is the list of its characters. -/
abbrev Text := List Char

namespace Text

/-- The text of a literal. -/
abbrev lit (s : String) : Text := s.toList

/-- The segments of a text around every occurrence of `sep`; there is always at least one. -/
def split (sep : Char) : Text → List Text
  | [] => [[]]
  | c :: rest =>
    if c = sep then [] :: split sep rest
    else
      match split sep rest with
      | [] => [[c]]
      | first :: others => (c :: first) :: others

/-- The segments with `sep` between any two neighbours. -/
def join (sep : Text) : List Text → Text
  | [] => []
  | [segment] => segment
  | segment :: others => segment ++ sep ++ join sep others

/-- The parts before and after the first occurrence of `sep`, if there is one. -/
def cut (sep : Char) : Text → Option (Text × Text)
  | [] => none
  | c :: rest =>
    if c = sep then some ([], rest)
    else (cut sep rest).map fun (before, after) => (c :: before, after)

/-- Whether `text` begins with `start`. -/
def startsWith (text start : Text) : Bool := start.isPrefixOf text

/-- The text with `replacement` in the place of every `c`. -/
def replaceChar (c : Char) (replacement text : Text) : Text :=
  text.flatMap fun d => if d = c then replacement else [d]

/-- The text repeated `n` times. -/
def times (n : Nat) (text : Text) : Text := (List.replicate n text).flatten

/-- The order of texts by their code points. -/
def le : Text → Text → Bool
  | [], _ => true
  | _ :: _, [] => false
  | a :: as, b :: bs => a.toNat < b.toNat || (a == b && le as bs)

/-- The texts in ascending order of their code points. -/
def sort (texts : List Text) : List Text := texts.mergeSort le

theorem split_ne_nil (sep : Char) (text : Text) : split sep text ≠ [] := by
  induction text with
  | nil => simp [split]
  | cons c rest ih =>
    unfold split
    split
    · simp
    · split <;> simp

/-- Joining the segments of a text around a separator gives the text back. -/
theorem join_split (sep : Char) (text : Text) : join [sep] (split sep text) = text := by
  induction text with
  | nil => rfl
  | cons c rest ih =>
    unfold split
    split
    next h =>
      cases hs : split sep rest with
      | nil => exact absurd hs (split_ne_nil sep rest)
      | cons first others => rw [hs] at ih; simp [join, ih, h]
    next h =>
      cases hs : split sep rest with
      | nil => exact absurd hs (split_ne_nil sep rest)
      | cons first others =>
        rw [hs] at ih
        cases others with
        | nil => simp_all [join]
        | cons second more => simp_all [join]

end Text

end UnitForge
