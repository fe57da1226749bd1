import UnitForge.Text.Basic

set_option autoImplicit false

/-!
# Suggestions for mistyped words

How alike two words are: the longest run of characters that they share, and the same on both sides
of it, make up a share of all their characters.

## Main definitions

* `UnitForge.CommandLine.sharedLength`: the number of characters that two words share in this way.
* `UnitForge.CommandLine.suggestions`: the words most like a given one.
-/

namespace UnitForge.CommandLine

/-- The number of characters that two texts have in common at their starts. -/
def commonStart : Text → Text → Nat
  | a :: as, b :: bs => if a = b then commonStart as bs + 1 else 0
  | _, _ => 0

/-- A run of characters in two words: where it begins in each, and its length. -/
structure SharedRun where
  /-- Where it begins in the first word. -/
  first : Nat := 0
  /-- Where it begins in the second word. -/
  second : Nat := 0
  /-- Its length. -/
  length : Nat := 0
  deriving DecidableEq, Repr

/-- The longest run that two words share; of several the first in the first word, and then the first
in the second one. -/
def longestRun (a b : Text) : SharedRun :=
  (List.range a.length).foldl (fun best i =>
    (List.range b.length).foldl (fun best j =>
      let length := commonStart (a.drop i) (b.drop j)
      if best.length < length then ⟨i, j, length⟩ else best) best) {}

/-- The number of characters that two words share, by at most `fuel` runs on each side. -/
def sharedLengthBy : Nat → Text → Text → Nat
  | 0, _, _ => 0
  | fuel + 1, a, b =>
    let run := longestRun a b
    if run.length = 0 then 0
    else
      sharedLengthBy fuel (a.take run.first) (b.take run.second) + run.length +
        sharedLengthBy fuel (a.drop (run.first + run.length)) (b.drop (run.second + run.length))

/-- The number of characters that two words share. -/
def sharedLength (a b : Text) : Nat := sharedLengthBy a.length a b

/-- How alike a word is to the one asked for: a share, as the characters that they have in common
and the number of all their characters. -/
structure Likeness where
  /-- The word. -/
  word : Text
  /-- Twice the number of characters shared. -/
  shared : Nat
  /-- The number of characters of both words. -/
  total : Nat

/-- How alike a word is to the one asked for. -/
def likeness (asked word : Text) : Likeness :=
  ⟨word, 2 * sharedLength word asked, word.length + asked.length⟩

/-- Whether at least three characters in five are shared. -/
def Likeness.isClose (l : Likeness) : Bool := 3 * l.total ≤ 5 * l.shared

/-- The order of words by likeness, the closest first, and the last of equals by code points
first. -/
def Likeness.le (a b : Likeness) : Bool :=
  b.shared * a.total < a.shared * b.total ||
    (b.shared * a.total == a.shared * b.total && Text.le b.word a.word)

/-- At most three of the words that are close to the one asked for, in ascending order. -/
def suggestions (asked : Text) (words : List Text) : List Text :=
  let close := (words.map (likeness asked)).filter (·.isClose)
  Text.sort (((close.mergeSort Likeness.le).take 3).map (·.word))

end UnitForge.CommandLine
