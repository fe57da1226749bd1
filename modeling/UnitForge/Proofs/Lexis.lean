import Mathlib.Data.List.Basic
import UnitForge.Layout.BraceScan
import UnitForge.Proofs.LineBreaks

set_option autoImplicit false

/-!
# Reading a source character by character

An automaton that reads a whole source one character at a time and never looks ahead. Its modes say
what the next character stands in: code, a literal, a comment or a text block. Where a character
alone does not tell what it begins, as a slash or a quote, there is a mode for what may come of it.
A line end closes literals and line comments and cancels an escape; which characters end a line is
left open.

## Main definitions

* `UnitForge.Layout.Mode` — what the next character stands in.
* `UnitForge.Layout.Mode.next`, `UnitForge.Layout.Mode.endLine` — the mode after a character of a
  line, and after the end of a line.
* `UnitForge.Layout.Mode.after` — the mode after a text.
* `UnitForge.Layout.Mode.reading` — the characters of a text with the modes they are read in.
* `UnitForge.Layout.Mode.visible` — the characters of a reading that are not blank.
* `UnitForge.Layout.Mode.pending` — the terminator of what a mode leaves open for the next line.

## Main results

* `UnitForge.Layout.Mode.endLine_after_of_allBlank` — blanks before the end of a line make no
  difference after it.
* `UnitForge.Layout.Mode.after_of_allBlank` — blanks at the start of a line make no difference.
* `UnitForge.Layout.Mode.visible_reading_padded` — the same is seen of a line with blanks around it
  and without.
-/

namespace UnitForge.Layout

/-- What the next character of a source stands in. -/
inductive Mode where
  /-- Code. -/
  | code
  /-- Code after a slash, which may begin a comment. -/
  | slash
  /-- A string literal after its opening quote, which may begin a text block. -/
  | quote
  /-- Code after an empty string literal, which may be the beginning of a text block. -/
  | quotes
  /-- A string or character literal that ends with the given quote. -/
  | literal (quote : Char)
  /-- A literal after a backslash. -/
  | escape (quote : Char)
  /-- A comment that ends with its line. -/
  | lineComment
  /-- A block comment. -/
  | blockComment
  /-- A block comment after a star, which may belong to its terminator. -/
  | star
  /-- A text block. -/
  | textBlock
  /-- A text block after a backslash. -/
  | textEscape
  /-- A text block after a quote, which may belong to its delimiter. -/
  | textQuote
  /-- A text block after two quotes, which may belong to its delimiter. -/
  | textQuotes
  deriving DecidableEq, Repr

namespace Mode

/-! ## The automaton -/

/-- The mode after a character of code. -/
def inCode (c : Char) : Mode :=
  if c = '/' then slash
  else if c = '"' then quote
  else if c = '\'' then literal c
  else code

/-- The mode after a character of a literal. -/
def inLiteral (quote c : Char) : Mode :=
  if c = '\\' then escape quote else if c = quote then code else literal quote

/-- The mode after a character of a block comment. -/
def inBlockComment (c : Char) : Mode := if c = '*' then star else blockComment

/-- The mode after a character of a text block. -/
def inTextBlock (c : Char) : Mode :=
  if c = '\\' then textEscape else if c = '"' then textQuote else textBlock

/-- The mode after a character that does not end a line. -/
def next : Mode → Char → Mode
  | code, c => inCode c
  | slash, c => if c = '/' then lineComment else if c = '*' then blockComment else inCode c
  | quote, c => if c = '"' then quotes else inLiteral '"' c
  | quotes, c => if c = '"' then textBlock else inCode c
  | literal q, c => inLiteral q c
  | escape q, _ => literal q
  | lineComment, _ => lineComment
  | blockComment, c => inBlockComment c
  | star, c => if c = '/' then code else inBlockComment c
  | textBlock, c => inTextBlock c
  | textEscape, _ => textBlock
  | textQuote, c => if c = '"' then textQuotes else inTextBlock c
  | textQuotes, c => if c = '"' then code else inTextBlock c

/-- The mode after the end of a line. -/
def endLine : Mode → Mode
  | blockComment | star => blockComment
  | textBlock | textEscape | textQuote | textQuotes => textBlock
  | _ => code

/-- The terminator of what is left open for the next line, if anything is. -/
def pending : Mode → Option Text
  | blockComment | star => some blockCommentEnd
  | textBlock | textEscape | textQuote | textQuotes => some textBlockQuote
  | _ => none

/-- The mode after a character, where `ends` tells the characters that end a line. -/
def step (ends : Char → Bool) (m : Mode) (c : Char) : Mode :=
  if ends c then m.endLine else m.next c

/-- The mode after a text. -/
def after (ends : Char → Bool) (m : Mode) (text : Text) : Mode := text.foldl (step ends) m

/-- The characters of a text with the modes that they are read in. -/
def reading (ends : Char → Bool) (m : Mode) : Text → List (Char × Mode)
  | [] => []
  | c :: rest => (c, m) :: (m.step ends c).reading ends rest

section Texts

variable (ends : Char → Bool) (m : Mode) (front back : Text)

@[simp] lemma after_nil : m.after ends [] = m := rfl

@[simp] lemma after_cons (c : Char) : m.after ends (c :: back) = (m.step ends c).after ends back :=
  rfl

@[simp] lemma after_append :
    m.after ends (front ++ back) = (m.after ends front).after ends back :=
  List.foldl_append

@[simp] lemma reading_cons (c : Char) :
    m.reading ends (c :: back) = (c, m) :: (m.step ends c).reading ends back :=
  rfl

lemma reading_append :
    m.reading ends (front ++ back) =
      m.reading ends front ++ (m.after ends front).reading ends back := by
  induction front generalizing m with
  | nil => rfl
  | cons c front ih => rw [List.cons_append, reading_cons, ih, reading_cons, after_cons,
      List.cons_append]

end Texts

/-! ## Ends of lines and blanks -/

@[simp] lemma endLine_endLine (m : Mode) : m.endLine.endLine = m.endLine := by cases m <;> rfl

@[simp] lemma pending_endLine (m : Mode) : m.endLine.pending = m.pending := by cases m <;> rfl

section Blank

variable {ends : Char → Bool} {m : Mode} {c : Char} (hc : Text.isBlank c)

include hc

/-- A blank makes no difference after the end of its line. -/
lemma endLine_next_of_isBlank : (m.next c).endLine = m.endLine := by
  have hslash : c ≠ '/' := Text.ne_of_isBlank hc (by decide)
  have hquote : c ≠ '"' := Text.ne_of_isBlank hc (by decide)
  have hapostrophe : c ≠ '\'' := Text.ne_of_isBlank hc (by decide)
  have hbackslash : c ≠ '\\' := Text.ne_of_isBlank hc (by decide)
  have hstar : c ≠ '*' := Text.ne_of_isBlank hc (by decide)
  cases m with
  | literal q =>
    rw [next, inLiteral, if_neg hbackslash]
    split <;> rfl
  | _ => simp [next, inCode, inLiteral, inBlockComment, inTextBlock, endLine, *]

/-- A blank at the start of a line makes no difference. -/
lemma next_of_isBlank (hm : m.endLine = m) : m.next c = m := by
  have hslash : c ≠ '/' := Text.ne_of_isBlank hc (by decide)
  have hquote : c ≠ '"' := Text.ne_of_isBlank hc (by decide)
  have hapostrophe : c ≠ '\'' := Text.ne_of_isBlank hc (by decide)
  have hbackslash : c ≠ '\\' := Text.ne_of_isBlank hc (by decide)
  have hstar : c ≠ '*' := Text.ne_of_isBlank hc (by decide)
  cases m with
  | code => simp [next, inCode, *]
  | blockComment => simp [next, inBlockComment, *]
  | textBlock => simp [next, inTextBlock, *]
  | _ => exact absurd hm (by simp [endLine])

lemma endLine_step_of_isBlank : (m.step ends c).endLine = m.endLine := by
  unfold step
  split
  · exact endLine_endLine m
  · exact endLine_next_of_isBlank hc

lemma step_of_isBlank (hm : m.endLine = m) : m.step ends c = m := by
  unfold step
  split
  · exact hm
  · exact next_of_isBlank hc hm

end Blank

section Blanks

variable {ends : Char → Bool} {m : Mode} {blanks : Text} (h : Text.allBlank blanks)

include h

/-- **Blanks before the end of a line make no difference** after it. -/
lemma endLine_after_of_allBlank : (m.after ends blanks).endLine = m.endLine := by
  induction blanks generalizing m with
  | nil => rfl
  | cons c rest ih =>
    obtain ⟨hc, hrest⟩ := List.forall_mem_cons.1 (Text.allBlank_iff.1 h)
    rw [after_cons, ih (Text.allBlank_iff.2 hrest), endLine_step_of_isBlank hc]

/-- **Blanks at the start of a line make no difference.** -/
lemma after_of_allBlank (hm : m.endLine = m) : m.after ends blanks = m := by
  induction blanks with
  | nil => rfl
  | cons c rest ih =>
    obtain ⟨hc, hrest⟩ := List.forall_mem_cons.1 (Text.allBlank_iff.1 h)
    rw [after_cons, step_of_isBlank hc hm, ih (Text.allBlank_iff.2 hrest)]

end Blanks

/-! ## What can be seen of a text -/

/-- The characters of a reading that are not blank, with the modes that they are read in. -/
def visible (read : List (Char × Mode)) : List (Char × Mode) :=
  read.filter fun x => !Text.isBlank x.1

@[simp] lemma visible_append (front back : List (Char × Mode)) :
    visible (front ++ back) = visible front ++ visible back :=
  List.filter_append front back

section Padding

variable (ends : Char → Bool) {m : Mode} {front back : Text} (text : Text)

/-- Nothing can be seen of blanks. -/
lemma visible_reading_of_allBlank (h : Text.allBlank front) :
    visible (m.reading ends front) = [] := by
  induction front generalizing m with
  | nil => rfl
  | cons c rest ih =>
    obtain ⟨hc, hrest⟩ := List.forall_mem_cons.1 (Text.allBlank_iff.1 h)
    rw [reading_cons, visible, List.filter_cons_of_neg (by rw [hc]; exact Bool.false_ne_true)]
    exact ih (Text.allBlank_iff.2 hrest)

variable (hm : m.endLine = m) (hfront : Text.allBlank front) (hback : Text.allBlank back)

include hm hfront hback

/-- The same is seen of the text of a line with blanks around it and without. -/
lemma visible_reading_padded :
    visible (m.reading ends (front ++ (text ++ back))) = visible (m.reading ends text) := by
  rw [reading_append, after_of_allBlank hfront hm, reading_append, visible_append, visible_append,
    visible_reading_of_allBlank ends hfront, visible_reading_of_allBlank ends hback,
    List.nil_append, List.append_nil]

/-- Blanks around the text of a line make no difference after its end. -/
lemma endLine_after_padded :
    (m.after ends (front ++ (text ++ back))).endLine = (m.after ends text).endLine := by
  rw [after_append, after_of_allBlank hfront hm, after_append, endLine_after_of_allBlank hback]

end Padding

/-! ## Line by line -/

/-- The automaton passes over the characters of a line one by one. -/
lemma after_of_unbroken (m : Mode) {line : Text} (h : Text.Unbroken line) :
    m.after Text.isLineBreak line = line.foldl next m := by
  induction line generalizing m with
  | nil => rfl
  | cons c rest ih =>
    obtain ⟨hc, hrest⟩ := List.forall_mem_cons.1 h
    rw [after_cons, step, hc, if_neg Bool.false_ne_true, ih _ hrest, List.foldl_cons]

/-- A separator ends a line. -/
lemma after_separator (m : Mode) {sep : Text} (h : Text.IsSeparator sep) :
    m.after Text.isLineBreak sep = m.endLine := by
  rcases h with rfl | ⟨c, hc, rfl⟩
  · exact endLine_endLine m
  · rw [after_cons, step, if_pos hc, after_nil]

end Mode

end UnitForge.Layout
