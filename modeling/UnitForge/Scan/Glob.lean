import UnitForge.Text.Basic

set_option autoImplicit false

/-!
# Patterns for names

A pattern describes names: a star stands for any characters, a question mark for any one, and a set
in brackets for one of its characters, or for one that is not in it. A bracket that is not closed
stands for itself. There are no escapes.

## Main definitions

* `UnitForge.Scan.GlobToken`: a part of a pattern.
* `UnitForge.Scan.globTokens`: the parts of a pattern.
* `UnitForge.Scan.globMatches`: whether a name is as a pattern describes.
-/

namespace UnitForge.Scan

/-- The characters of a set: single ones, and ranges. -/
inductive GlobRange where
  /-- One character. -/
  | single (c : Char)
  /-- All characters from one to another. -/
  | range (lo hi : Char)
  deriving DecidableEq, Repr

/-- A part of a pattern. -/
inductive GlobToken where
  /-- Any characters. -/
  | star
  /-- Any one character. -/
  | any
  /-- A character of a set, or one that is not in it. -/
  | set (negated : Bool) (ranges : List GlobRange)
  /-- A character that stands for itself. -/
  | literal (c : Char)
  deriving DecidableEq, Repr

/-- A character of a set, or the hyphen of a range. -/
inductive SetPiece where
  /-- A character. -/
  | char (c : Char)
  /-- A hyphen between the ends of a range. -/
  | hyphen
  deriving DecidableEq, Repr

/-- The chunks of a set around the hyphens of its ranges. The first `kept` characters hold no such
hyphen; `chunk` is the present chunk in reverse. -/
def setChunks (kept : Nat) (chunk : Text) : Text → List Text
  | [] => [chunk.reverse]
  | c :: rest =>
    match kept with
    | n + 1 => setChunks n (c :: chunk) rest
    | 0 => if c = '-' then chunk.reverse :: setChunks 2 [] rest else setChunks 0 (c :: chunk) rest

/-- The chunks where a hyphen at the end of the set is a character of the last chunk. -/
def foldFinalHyphen : List Text → List Text
  | [] => []
  | [chunk] => [chunk]
  | [chunk, []] => [chunk ++ ['-']]
  | chunk :: rest => chunk :: foldFinalHyphen rest

/-- A chunk put before others; an empty range between it and the first of them is dropped, with
both of its ends. -/
def joinChunk (chunk : Text) : List Text → List Text
  | [] => [chunk]
  | next :: rest =>
    match chunk.getLast?, next with
    | some lo, hi :: more =>
      if hi < lo then (chunk.dropLast ++ more) :: rest else chunk :: next :: rest
    | _, _ => chunk :: next :: rest

/-- The characters of a set and the hyphens of its ranges. -/
def setPieces (content : Text) : List SetPiece :=
  let kept := if content.head? = some '!' then 2 else 1
  let chunks := (foldFinalHyphen (setChunks kept [] content)).foldr joinChunk []
  match chunks with
  | [] => []
  | first :: rest =>
    first.map .char ++ rest.flatMap fun chunk => .hyphen :: chunk.map .char

/-- The characters and ranges of a set. -/
def setRanges : List SetPiece → List GlobRange
  | .char lo :: .hyphen :: .char hi :: rest => .range lo hi :: setRanges rest
  | .char c :: rest => .single c :: setRanges rest
  | .hyphen :: rest => .single '-' :: setRanges rest
  | [] => []

/-- The part of a pattern that a set with the given content is. -/
def setToken (content : Text) : GlobToken :=
  match setPieces content with
  | [.char '!'] => .any
  | .char '!' :: pieces => .set true (setRanges pieces)
  | pieces => .set false (setRanges pieces)

/-- The content of the set at the start of a text and the text after it, if the set is closed. An
exclamation mark and a closing bracket at its start belong to the content. -/
def takeSet? (text : Text) : Option (Text × Text) :=
  let (mark, rest) := match text with
    | '!' :: rest => (['!'], rest)
    | rest => ([], rest)
  let (bracket, rest) := match rest with
    | ']' :: rest => ([']'], rest)
    | rest => ([], rest)
  match rest.dropWhile (· != ']') with
  | [] => none
  | _ :: after => some (mark ++ bracket ++ rest.takeWhile (· != ']'), after)

/-- The parts of a pattern; at most `fuel` of them. -/
def globTokensFrom : Nat → Text → List GlobToken
  | 0, _ => []
  | _, [] => []
  | fuel + 1, c :: rest =>
    if c = '*' then .star :: globTokensFrom fuel rest
    else if c = '?' then .any :: globTokensFrom fuel rest
    else if c = '[' then
      match takeSet? rest with
      | none => .literal '[' :: globTokensFrom fuel rest
      | some (content, after) => setToken content :: globTokensFrom fuel after
    else .literal c :: globTokensFrom fuel rest

/-- The parts of a pattern. -/
def globTokens (pattern : Text) : List GlobToken := globTokensFrom pattern.length pattern

/-- Whether a character is in a range. -/
def GlobRange.contains (r : GlobRange) (c : Char) : Bool :=
  match r with
  | single d => c == d
  | range lo hi => lo ≤ c && c ≤ hi

/-- Whether one character is as a part of a pattern describes. -/
def GlobToken.matchesChar (c : Char) : GlobToken → Bool
  | star => true
  | any => true
  | set negated ranges => ranges.any (·.contains c) != negated
  | literal d => c == d

/-- The tails of a text, the text itself first. -/
def tails : Text → List Text
  | [] => [[]]
  | c :: rest => (c :: rest) :: tails rest

/-- Whether a name is as the parts of a pattern describe. -/
def tokensMatch : List GlobToken → Text → Bool
  | [], name => name.isEmpty
  | .star :: rest, name => (tails name).any (tokensMatch rest)
  | token :: rest, name =>
    match name with
    | [] => false
    | c :: name => token.matchesChar c && tokensMatch rest name

/-- Whether a name is as a pattern describes. -/
def globMatches (pattern name : Text) : Bool := tokensMatch (globTokens pattern) name

end UnitForge.Scan
