import UnitForge.Failure

set_option autoImplicit false

/-!
# What a command leaves

A command prints lines and a table, leaves a tree of files, and ends with a status. Style tags in
square brackets are not printed, and in a preview tabs become blanks.

## Main definitions

* `UnitForge.CommandLine.Report`: what a command prints and changes, and how it ends.
* `UnitForge.CommandLine.withoutTags`: a line as it is printed.
* `UnitForge.CommandLine.expandTabs`: a text with blanks for tabs.
-/

namespace UnitForge.CommandLine

/-- The most blanks that a tab stands for. -/
def tabWidth : Nat := 4

/-- The text after `column` characters of its line, with blanks for tabs. -/
def expandTabsFrom (column : Nat) : Text → Text
  | [] => []
  | '\t' :: rest =>
    let n := tabWidth - column % tabWidth
    List.replicate n ' ' ++ expandTabsFrom (column + n) rest
  | '\n' :: rest => '\n' :: expandTabsFrom 0 rest
  | c :: rest => c :: expandTabsFrom (column + 1) rest

/-- The text with blanks for tabs, up to the next column that is a multiple of four. -/
def expandTabs (text : Text) : Text := expandTabsFrom 0 text

/-- Whether a character may begin a style tag. -/
def isTagStart (c : Char) : Bool := ('a' ≤ c && c ≤ 'z') || c = '#' || c = '/' || c = '@'

/-- The text after the style tag at the start of a text, if it begins with one. -/
def afterTag? : Text → Option Text
  | '[' :: c :: rest =>
    if isTagStart c then
      match rest.dropWhile fun d => d != '[' && d != ']' with
      | ']' :: after => some after
      | _ => none
    else none
  | _ => none

/-- A line as it is printed: words in square brackets are style tags, which are not shown. -/
def withoutTagsBy : Nat → Text → Text
  | 0, text => text
  | _, [] => []
  | fuel + 1, c :: rest =>
    match afterTag? (c :: rest) with
    | some after => withoutTagsBy fuel after
    | none => c :: withoutTagsBy fuel rest

/-- A line as it is printed: words in square brackets are style tags, which are not shown. -/
def withoutTags (line : Text) : Text := withoutTagsBy line.length line

/-- What a command prints and changes, and how it ends. -/
structure Report where
  /-- The status that it ends with. -/
  status : Nat := 0
  /-- The lines printed. -/
  output : List Text := []
  /-- The rows of the table printed, the headings first; none if no table is printed. -/
  table : List (List Text) := []
  /-- Why the command was refused or failed, where it says so. -/
  error : Option Text := none
  /-- The failure that ended the command without a word. -/
  fatal : Option Failure := none
  /-- Help that was shown because there was no command. -/
  hint : List Text := []
  /-- The files after the command. -/
  disk : Disk

end UnitForge.CommandLine
