import UnitForge.Proofs.Lexis

set_option autoImplicit false

/-!
# Lines, literals and line comments of a source

A line of Java ends at a newline, a return, or both, and at nothing else; Unicode and the control
block have more separators of lines. This file says what stands on a line of a source, and which
of its pieces are literals and line comments, both by the grammar and with what stands before
them read by the automaton.

## Main definitions

* `UnitForge.Layout.isLineEnd` — the characters that end a line of Java.
* `UnitForge.Layout.IsLine`, `UnitForge.Layout.HasLine`, `UnitForge.Layout.StandsOnLine` — the lines
  of a text, and what stands on one of them.
* `UnitForge.Layout.IsLiteral`, `UnitForge.Layout.IsLineComment` — the string and character literals
  and the line comments of a source.
* `UnitForge.Layout.SeparatorsApart` — the other separators stand in no literal, no line comment and
  no text block.

## Main results

* `UnitForge.Layout.standsOnLine_of_isInfix` — a piece without line ends stands on one line.
* `UnitForge.Layout.IsLiteral.unbroken`, `UnitForge.Layout.IsLineComment.unbroken` — if the other
  separators stand apart, then literals and line comments hold no separator at all.
* `UnitForge.Layout.Mode.Apart.reading_eq` — then it makes no difference to the automaton
  which of the separators end a line.
-/

namespace UnitForge.Layout

/-! ## Lines -/

/-- The characters that end a line of Java. -/
def isLineEnd (c : Char) : Bool := c = '\n' || c = '\r'

lemma isLineBreak_of_isLineEnd {c : Char} (h : isLineEnd c) : Text.isLineBreak c := by
  simp only [isLineEnd, Bool.or_eq_true, decide_eq_true_eq] at h
  rcases h with rfl | rfl <;> rfl

lemma isLineEnd_eq_false {c : Char} (h : Text.isLineBreak c = false) : isLineEnd c = false := by
  rw [Bool.eq_false_iff] at h ⊢
  exact fun hc => h (isLineBreak_of_isLineEnd hc)

/-- Between `before` and `after` stands a whole line. -/
structure IsLine (before line after : Text) : Prop where
  /-- No line end is on the line. -/
  plain : ∀ c ∈ line, isLineEnd c = false
  /-- The line begins with the text or after a line end. -/
  opened : ∀ c ∈ before.getLast?, isLineEnd c
  /-- The line goes on to a line end or to the end of the text. -/
  closed : ∀ c ∈ after.head?, isLineEnd c
  /-- There is no line between a return and its newline. -/
  whole : line = [] → before.getLast? = some '\r' → after.head? ≠ some '\n'
  /-- There is no line after the last line end of the text. -/
  proper : line = [] → after ≠ []

instance (before line after : Text) : Decidable (IsLine before line after) :=
  decidable_of_iff
    (line.all (!isLineEnd ·) = true ∧ before.getLast?.all isLineEnd = true ∧
      after.head?.all isLineEnd = true ∧
      (line = [] → before.getLast? = some '\r' → after.head? ≠ some '\n') ∧
      (line = [] → after ≠ [])) <| by
    simp only [List.all_eq_true, Option.all_eq_true, Bool.not_eq_true']
    exact ⟨fun h => ⟨h.1, h.2.1, h.2.2.1, h.2.2.2.1, h.2.2.2.2⟩,
      fun h => ⟨h.plain, h.opened, h.closed, h.whole, h.proper⟩⟩

/-- A whole line is one as well if the text begins later. -/
lemma IsLine.of_append {front before line after : Text} (h : IsLine (front ++ before) line after) :
    IsLine before line after where
  plain := h.plain
  opened _ hc := h.opened _ (List.mem_getLast?_append_of_mem_getLast? hc)
  closed := h.closed
  whole hline hc := h.whole hline (List.mem_getLast?_append_of_mem_getLast? hc)
  proper := h.proper

/-- The text has such a line. -/
def HasLine (text line : Text) : Prop :=
  ∃ before after, text = before ++ (line ++ after) ∧ IsLine before line after

/-- The piece stands on one line of the text. -/
def StandsOnLine (text piece : Text) : Prop := ∃ line, HasLine text line ∧ piece <:+: line

lemma StandsOnLine.isInfix {text piece : Text} (h : StandsOnLine text piece) : piece <:+: text := by
  obtain ⟨line, ⟨before, after, rfl, -⟩, hpiece⟩ := h
  exact hpiece.trans ⟨before, after, List.append_assoc before line after⟩

/-- **A piece without line ends stands on one line** of the text. -/
lemma standsOnLine_of_isInfix {text piece : Text} (hne : piece ≠ [])
    (hplain : ∀ c ∈ piece, isLineEnd c = false) (h : piece <:+: text) :
    StandsOnLine text piece := by
  obtain ⟨front, back, rfl⟩ := h
  have hline : front.rtakeWhile (!isLineEnd ·) ++ piece ++ back.takeWhile (!isLineEnd ·) ≠ [] := by
    simp [hne]
  refine ⟨front.rtakeWhile (!isLineEnd ·) ++ piece ++ back.takeWhile (!isLineEnd ·),
    ⟨front.rdropWhile (!isLineEnd ·), back.dropWhile (!isLineEnd ·), ?_, ⟨?_, ?_, ?_,
      fun h => absurd h hline, fun h => absurd h hline⟩⟩, ⟨_, _, rfl⟩⟩
  · conv_lhs => rw [← List.rdropWhile_append_rtakeWhile (p := (!isLineEnd ·)) (l := front),
      ← List.takeWhile_append_dropWhile (p := (!isLineEnd ·)) (l := back)]
    simp only [List.append_assoc]
  · intro c hc
    rcases List.mem_append.1 hc with hc | hc
    · rcases List.mem_append.1 hc with hc | hc
      · simpa using List.mem_rtakeWhile_imp hc
      · exact hplain c hc
    · simpa using List.mem_takeWhile_imp hc
  · intro c hc
    obtain ⟨hne, rfl⟩ := List.mem_getLast?_eq_getLast hc
    simpa using List.rdropWhile_last_not (!isLineEnd ·) front hne
  · intro c hc
    have hnot := List.head?_dropWhile_not (!isLineEnd ·) back
    rw [Option.mem_def.1 hc] at hnot
    simpa using hnot

/-! ## Literals and line comments -/

/-- Whether a character that is read in this mode is one of code, unless it completes the beginning
of a comment or of a text block. -/
def Mode.isCode : Mode → Bool
  | code | slash | quotes => true
  | _ => false

/-- What may stand between the quotes of a literal: no such quote and no line end, but for what a
backslash escapes. -/
inductive LiteralBody (quote : Char) : Text → Prop where
  | nil : LiteralBody quote []
  | char {c : Char} {rest : Text} : c ≠ quote → c ≠ '\\' → isLineEnd c = false →
      LiteralBody quote rest → LiteralBody quote (c :: rest)
  | escape {c : Char} {rest : Text} : isLineEnd c = false → LiteralBody quote rest →
      LiteralBody quote ('\\' :: c :: rest)

/-- Between `before` and `after` stands a string or character literal. -/
inductive IsLiteral (before after : Text) : Text → Prop where
  /-- A string literal. Two quotes with a third one after them begin a text block. -/
  | string {body : Text} : (Mode.code.after isLineEnd before).isCode →
      Mode.code.after isLineEnd before ≠ .quotes → LiteralBody '"' body →
      (body = [] → after.head? ≠ some '"') → IsLiteral before after ('"' :: (body ++ ['"']))
  /-- A character literal. -/
  | character {body : Text} : (Mode.code.after isLineEnd before).isCode → LiteralBody '\'' body →
      IsLiteral before after ('\'' :: (body ++ ['\'']))

/-- Between `before` and `after` stands a comment that goes on to the end of its line. -/
structure IsLineComment (before comment after : Text) : Prop where
  /-- The comment does not begin in a literal or in another comment. -/
  start : (Mode.code.after isLineEnd before).isCode
  /-- The slash before it, if there is one, begins no comment. -/
  first : Mode.code.after isLineEnd before ≠ .slash
  /-- The comment begins with two slashes. -/
  slashes : ['/', '/'] <+: comment
  /-- The comment does not go beyond its line. -/
  plain : ∀ c ∈ comment, isLineEnd c = false
  /-- The comment does not end before its line. -/
  closed : ∀ c ∈ after.head?, isLineEnd c

instance (before comment after : Text) : Decidable (IsLineComment before comment after) :=
  decidable_of_iff
    ((Mode.code.after isLineEnd before).isCode = true ∧
      Mode.code.after isLineEnd before ≠ .slash ∧ Text.startsWith comment ['/', '/'] = true ∧
      comment.all (!isLineEnd ·) = true ∧ after.head?.all isLineEnd = true) <| by
    simp only [Text.startsWith, List.isPrefixOf_iff_prefix, List.all_eq_true, Option.all_eq_true,
      Bool.not_eq_true']
    exact ⟨fun h => ⟨h.1, h.2.1, h.2.2.1, h.2.2.2.1, h.2.2.2.2⟩,
      fun h => ⟨h.start, h.first, h.slashes, h.plain, h.closed⟩⟩

/-! ## The other separators -/

/-- Whether a separator that is read in this mode parts what would not hang together anyway: it
stands in code or in a block comment. -/
def Mode.isLoose : Mode → Bool
  | code | slash | quotes | blockComment | star => true
  | _ => false

/-- The separators that do not end a line of Java stand in loose modes, where the text is read from
the given mode on. -/
def Mode.Apart (m : Mode) (text : Text) : Prop :=
  ∀ x ∈ m.reading isLineEnd text, Text.isLineBreak x.1 → isLineEnd x.1 ∨ x.2.isLoose

instance (m : Mode) (text : Text) : Decidable (m.Apart text) :=
  decidable_of_iff
    ((m.reading isLineEnd text).all fun x =>
      !Text.isLineBreak x.1 || isLineEnd x.1 || x.2.isLoose) <| by
    simp only [List.all_eq_true, Bool.or_eq_true, Bool.not_eq_true', Mode.Apart, or_assoc,
      ← Bool.not_eq_true, imp_iff_not_or]

/-- The separators that do not end a line of Java stand in no literal, no line comment and no text
block of the source. -/
def SeparatorsApart (source : Text) : Prop := Mode.code.Apart source

lemma Mode.apart_cons {m : Mode} {c : Char} {rest : Text} (h : m.Apart (c :: rest)) :
    (Text.isLineBreak c → isLineEnd c ∨ m.isLoose) ∧ (m.step isLineEnd c).Apart rest :=
  List.forall_mem_cons.1 h

lemma SeparatorsApart.apart {before piece after : Text}
    (h : SeparatorsApart (before ++ (piece ++ after))) :
    (Mode.code.after isLineEnd before).Apart piece := by
  intro x hx
  apply h x
  rw [Mode.reading_append, Mode.reading_append]
  exact List.mem_append_right _ (List.mem_append_left _ hx)

/-- A character that neither ends its line nor is read in a loose mode is no separator. -/
private lemma isLineBreak_eq_false {m : Mode} {c : Char}
    (h : Text.isLineBreak c → isLineEnd c ∨ m.isLoose) (hc : isLineEnd c = false)
    (hm : m.isLoose = false) : Text.isLineBreak c = false := by
  rw [Bool.eq_false_iff]
  intro hbreak
  rcases h hbreak with h | h
  · exact absurd h (Bool.eq_false_iff.1 hc)
  · exact absurd h (Bool.eq_false_iff.1 hm)

/-- A literal is read in modes of its own from its first character on. -/
lemma LiteralBody.unbroken {q : Char} {body : Text} {m : Mode} (hbody : LiteralBody q body)
    (hm : m = .literal q ∨ m = .quote ∧ q = '"') (h : m.Apart body) : Text.Unbroken body := by
  induction hbody generalizing m with
  | nil => exact Text.unbroken_nil
  | @char c rest hquote hescape hend _ ih =>
    obtain ⟨hc, hrest⟩ := Mode.apart_cons h
    have hstrict : m.isLoose = false := by rcases hm with rfl | ⟨rfl, -⟩ <;> rfl
    have hstep : m.step isLineEnd c = .literal q := by
      rw [Mode.step, hend, if_neg Bool.false_ne_true]
      rcases hm with rfl | ⟨rfl, rfl⟩
      · rw [Mode.next, Mode.inLiteral, if_neg hescape, if_neg hquote]
      · rw [Mode.next, if_neg hquote, Mode.inLiteral, if_neg hescape, if_neg hquote]
    rw [hstep] at hrest
    exact List.forall_mem_cons.2 ⟨isLineBreak_eq_false hc hend hstrict, ih (.inl rfl) hrest⟩
  | @escape c rest hend _ ih =>
    obtain ⟨-, htail⟩ := Mode.apart_cons h
    have hstep : m.step isLineEnd '\\' = .escape q := by
      rcases hm with rfl | ⟨rfl, rfl⟩ <;> rfl
    rw [hstep] at htail
    obtain ⟨hc, hrest⟩ := Mode.apart_cons htail
    rw [Mode.step, hend, if_neg Bool.false_ne_true] at hrest
    refine List.forall_mem_cons.2 ⟨by decide, List.forall_mem_cons.2 ⟨?_, ih (.inl rfl) hrest⟩⟩
    exact isLineBreak_eq_false hc hend rfl

/-- The mode after the quote that begins a literal. -/
private lemma next_quote {m : Mode} (hm : m.isCode) (hquotes : m ≠ .quotes) :
    m.step isLineEnd '"' = .quote := by
  cases m with
  | code | slash => rfl
  | quotes => exact absurd rfl hquotes
  | _ => exact absurd hm (by simp [Mode.isCode])

private lemma next_apostrophe {m : Mode} (hm : m.isCode) :
    m.step isLineEnd '\'' = .literal '\'' := by
  cases m with
  | code | slash | quotes => rfl
  | _ => exact absurd hm (by simp [Mode.isCode])

/-- **A literal holds no separator**, if the other separators stand apart. -/
lemma IsLiteral.unbroken {before literal after : Text} (h : IsLiteral before after literal)
    (hsource : SeparatorsApart (before ++ (literal ++ after))) : Text.Unbroken literal := by
  have hquoted {q : Char} {body : Text} (hq : Text.isLineBreak q = false)
      (hbody : Text.Unbroken body) : Text.Unbroken (q :: (body ++ [q])) := by
    refine List.forall_mem_cons.2 ⟨hq, hbody.append ?_⟩
    exact List.forall_mem_singleton.2 hq
  have hapart := hsource.apart
  cases h with
  | @string body hcode hquotes hbody _ =>
    refine hquoted (by decide) (hbody.unbroken (.inr ⟨rfl, rfl⟩) ?_)
    rw [← next_quote hcode hquotes]
    exact fun x hx => (Mode.apart_cons hapart).2 x
      (Mode.reading_append isLineEnd _ body _ ▸ List.mem_append_left _ hx)
  | @character body hcode hbody =>
    refine hquoted (by decide) (hbody.unbroken (.inl rfl) ?_)
    rw [← next_apostrophe hcode]
    exact fun x hx => (Mode.apart_cons hapart).2 x
      (Mode.reading_append isLineEnd _ body _ ▸ List.mem_append_left _ hx)

/-- **A line comment holds no separator**, if the other separators stand apart. -/
lemma IsLineComment.unbroken {before comment after : Text} (h : IsLineComment before comment after)
    (hsource : SeparatorsApart (before ++ (comment ++ after))) : Text.Unbroken comment := by
  have hapart := hsource.apart
  have hplain := h.plain
  obtain ⟨rest, rfl⟩ := h.slashes
  have hbegin : ((Mode.code.after isLineEnd before).step isLineEnd '/').step isLineEnd '/' =
      .lineComment := by
    have hstart := h.start
    have hfirst := h.first
    revert hstart hfirst
    cases Mode.code.after isLineEnd before with
    | code | quotes => exact fun _ _ => rfl
    | slash => exact fun _ hfirst => absurd rfl hfirst
    | _ => exact fun hstart => absurd hstart (by simp [Mode.isCode])
  have hrest : Mode.lineComment.Apart rest := by
    rw [← hbegin]
    exact (Mode.apart_cons (Mode.apart_cons hapart).2).2
  have hunbroken : Text.Unbroken rest := by
    have hends : ∀ c ∈ rest, isLineEnd c = false :=
      fun c hc => hplain c (List.mem_append_right _ hc)
    clear hbegin hapart hplain hsource h
    induction rest with
    | nil => exact Text.unbroken_nil
    | cons c rest ih =>
      obtain ⟨hc, htail⟩ := Mode.apart_cons hrest
      obtain ⟨hend, hends⟩ := List.forall_mem_cons.1 hends
      rw [Mode.step, hend, if_neg Bool.false_ne_true] at htail
      exact List.forall_mem_cons.2 ⟨isLineBreak_eq_false hc hend rfl, ih htail hends⟩
  exact Text.Unbroken.append (by decide) hunbroken

/-- In a loose mode a separator does what the end of a line does. -/
lemma Mode.next_eq_endLine {m : Mode} {c : Char} (hc : Text.isBlank c) (hm : m.isLoose) :
    m.next c = m.endLine := by
  have hslash : c ≠ '/' := Text.ne_of_isBlank hc (by decide)
  have hquote : c ≠ '"' := Text.ne_of_isBlank hc (by decide)
  have hapostrophe : c ≠ '\'' := Text.ne_of_isBlank hc (by decide)
  have hstar : c ≠ '*' := Text.ne_of_isBlank hc (by decide)
  cases m with
  | code | slash | quotes => simp [next, inCode, endLine, *]
  | blockComment | star => simp [next, inBlockComment, endLine, *]
  | _ => exact absurd hm (by simp [isLoose])

/-- Where the other separators stand apart, they do what they would do if they ended a line. -/
lemma Mode.step_isLineBreak {m : Mode} {c : Char}
    (h : Text.isLineBreak c → isLineEnd c ∨ m.isLoose) :
    m.step Text.isLineBreak c = m.step isLineEnd c := by
  unfold step
  by_cases hend : isLineEnd c = true
  · rw [if_pos hend, if_pos (isLineBreak_of_isLineEnd hend)]
  rw [if_neg hend]
  split
  next hbreak =>
    exact (next_eq_endLine (Text.isBlank_of_isLineBreak hbreak) ((h hbreak).resolve_left hend)).symm
  next => rfl

/-- **It makes no difference which of the separators end a line**, where the others stand apart. -/
lemma Mode.Apart.reading_eq {m : Mode} {text : Text} (h : m.Apart text) :
    m.reading Text.isLineBreak text = m.reading isLineEnd text ∧
      m.after Text.isLineBreak text = m.after isLineEnd text := by
  induction text generalizing m with
  | nil => exact ⟨rfl, rfl⟩
  | cons c rest ih =>
    obtain ⟨hc, hrest⟩ := Mode.apart_cons h
    obtain ⟨hreading, hafter⟩ := ih hrest
    rw [Mode.reading_cons, Mode.after_cons, Mode.step_isLineBreak hc, hreading, hafter]
    exact ⟨rfl, rfl⟩

/-- A text whose separators all end a line of Java has no others. -/
lemma Mode.apart_of_forall (m : Mode) {text : Text}
    (h : ∀ c ∈ text, Text.isLineBreak c → isLineEnd c) : m.Apart text := by
  induction text generalizing m with
  | nil => exact fun _ hx => absurd hx List.not_mem_nil
  | cons c rest ih =>
    obtain ⟨hc, hrest⟩ := List.forall_mem_cons.1 h
    exact List.forall_mem_cons.2 ⟨fun hbreak => .inl (hc hbreak), ih _ hrest⟩

end UnitForge.Layout
