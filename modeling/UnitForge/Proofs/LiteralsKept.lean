import UnitForge.Proofs.LaidOutLines
import UnitForge.Proofs.SourceLiterals

set_option autoImplicit false

/-!
# Literals and comments in a formatted source

Formatting breaks a source into lines at every separator of lines there is, also at those that do
not end a line of Java. Such a separator in a literal breaks the literal, and what stands after it
in a line comment becomes code (`UnitForge.Layout.literal_broken`). Literals, line comments and text
blocks without such separators are kept.

## Main results

* `UnitForge.Layout.visible_reading_reindent` — each character that is not blank is read in the mode
  that it was read in before.
* `UnitForge.Layout.literals_kept` — formatting keeps literals, line comments and text blocks.
-/

namespace UnitForge.Layout

variable {indent text piece raw source : Text} {ls : List Text} {s : LayoutState} {m : Mode}

/-! ## Pieces of lines -/

/-- A piece of a line with no blank at its own ends is written with the line. -/
lemma exists_line_written (hne : piece ≠ []) (hstart : ∀ c ∈ piece.head?, Text.isBlank c = false)
    (hend : ∀ c ∈ piece.getLast?, Text.isBlank c = false) (hpiece : piece <:+: raw) :
    ∃ line ∈ written indent s raw, piece <:+: line := by
  have htrim := Text.infix_trim hstart hend hpiece
  unfold written
  split
  · exact ⟨_, List.mem_singleton_self _, Text.infix_trimEnd hend hpiece⟩
  split
  next hblank =>
    rw [hblank] at htrim
    exact absurd (List.eq_nil_of_infix_nil htrim) hne
  next =>
    refine ⟨_, List.mem_append_right _ (List.mem_singleton_self _), htrim.trans ?_⟩
    exact (List.suffix_append _ _).isInfix

/-- A piece of one of several lines is written with them. -/
lemma exists_line_layoutLines (hne : piece ≠ [])
    (hstart : ∀ c ∈ piece.head?, Text.isBlank c = false)
    (hend : ∀ c ∈ piece.getLast?, Text.isBlank c = false) (hraw : raw ∈ ls)
    (hpiece : piece <:+: raw) : ∃ line ∈ layoutLines indent s ls, piece <:+: line := by
  induction ls generalizing s with
  | nil => exact absurd hraw List.not_mem_nil
  | cons first rest ih =>
    rw [layoutLines_cons]
    rcases List.mem_cons.1 hraw with rfl | hraw
    · obtain ⟨line, hline, hpart⟩ := exists_line_written hne hstart hend hpiece
      exact ⟨line, List.mem_append_left _ hline, hpart⟩
    · obtain ⟨line, hline, hpart⟩ := ih (s := s.past first) hraw
      exact ⟨line, List.mem_append_right _ hline, hpart⟩

/-- **A piece of a source that holds no separator and has no blank at its ends** stands on one line
of the source laid out. -/
lemma standsOnLine_reindent (hne : piece ≠ []) (hunbroken : Text.Unbroken piece)
    (hstart : ∀ c ∈ piece.head?, Text.isBlank c = false)
    (hend : ∀ c ∈ piece.getLast?, Text.isBlank c = false) (h : piece <:+: source) :
    StandsOnLine (reindent indent source) piece := by
  obtain ⟨raw, hraw, hpiece⟩ := (Text.lined_lines source).exists_line hunbroken hne h
  obtain ⟨line, hline, hpart⟩ : ∃ line ∈ layoutLines indent {} (Text.lines source),
      piece <:+: line := exists_line_layoutLines hne hstart hend hraw hpiece
  refine standsOnLine_of_isInfix hne (fun c hc => isLineEnd_eq_false (hunbroken c hc)) ?_
  obtain ⟨front, back, hlines⟩ := List.append_of_mem hline
  rw [reindent, hlines, List.flatMap_append, List.flatMap_cons]
  refine hpart.trans (List.IsInfix.trans ?_ (List.suffix_append _ _).isInfix)
  exact ((List.prefix_append line ['\n']).trans (List.prefix_append _ _)).isInfix

/-! ## Lines of a text block -/

/-- A text without separators ends where the next separator stands. -/
private lemma takeWhile_unbroken {line : Text} (tail : Text) (hline : Text.Unbroken line)
    (htail : ∀ c ∈ tail.head?, Text.isLineBreak c) :
    (line ++ tail).takeWhile (!Text.isLineBreak ·) = line := by
  have hall : ∀ c ∈ line, (!Text.isLineBreak c) = true := by
    intro c hc
    rw [hline c hc, Bool.not_false]
  have hnil : tail.takeWhile (!Text.isLineBreak ·) = [] := by
    cases tail with
    | nil => rfl
    | cons c tail => rw [List.takeWhile_cons_of_neg (by rw [htail c rfl]; exact Bool.false_ne_true)]
  rw [List.takeWhile_append_of_pos hall, hnil, List.append_nil]

/-- A text that ends with a separator goes beyond the first one. -/
private lemma exists_beyond {before first tail rest : Text} {c : Char}
    (hfirst : Text.Unbroken first) (hne : before ≠ [])
    (hbefore : ∀ d ∈ before.getLast?, Text.isLineBreak d)
    (htext : before ++ tail = first ++ c :: rest) :
    ∃ more, before = first ++ c :: more ∧ rest = more ++ tail := by
  have hlast : before.getLast hne ∉ first := by
    intro hm
    have hbreak := hbefore _ (List.getLast?_eq_some_getLast hne)
    exact absurd hbreak (Bool.eq_false_iff.1 (hfirst _ hm))
  obtain ⟨more, hmore, -⟩ | ⟨more, hmore, hrest⟩ := List.append_eq_append_iff.1 htext
  · exact absurd (hmore ▸ List.mem_append_left _ (List.getLast_mem hne)) hlast
  · cases more with
    | nil =>
      rw [List.append_nil] at hmore
      exact absurd (hmore ▸ List.getLast_mem hne) hlast
    | cons d more =>
      obtain ⟨rfl, htail⟩ := List.cons.inj hrest
      exact ⟨more, hmore, htail⟩

/-- What stands before a whole line other than the first one is the first line with its separator,
and more. -/
private lemma exists_before {before line after first sep rest : Text} (h : IsLine before line after)
    (hfirst : Text.Unbroken first) (hsep : Text.IsSeparator sep) (hne : before ≠ [])
    (htext : before ++ (line ++ after) = first ++ (sep ++ rest)) :
    ∃ more, before = first ++ (sep ++ more) ∧ rest = more ++ (line ++ after) := by
  have hbefore : ∀ d ∈ before.getLast?, Text.isLineBreak d :=
    fun d hd => isLineBreak_of_isLineEnd (h.opened d hd)
  rcases hsep with rfl | ⟨c, -, rfl⟩
  · obtain ⟨more, hmore, hrest⟩ := exists_beyond hfirst hne hbefore htext
    cases more with
    | cons c more =>
      obtain ⟨rfl, htail⟩ := List.cons.inj hrest
      exact ⟨more, hmore, htail⟩
    | nil =>
      -- the line would stand between a return and its newline
      rw [List.nil_append] at hrest
      cases line with
      | cons c line =>
        obtain ⟨rfl, -⟩ := List.cons.inj hrest
        exact absurd (h.plain '\n' List.mem_cons_self) (by decide)
      | nil =>
        refine absurd ?_ (h.whole rfl ?_)
        · rw [← List.nil_append after, ← hrest]
          rfl
        · rw [hmore, List.getLast?_concat]
  · exact exists_beyond hfirst hne hbefore htext

/-- **A line that starts in a text block is written but for the blanks at its end.**

**Proof sketch.** Induction on the lines of the text: the line is the first one, where the layout
stands in the text block, or it is a line of what follows the first separator. -/
lemma layoutLines_textBlock (indent : Text) {before line after : Text} (hlined : Text.Lined text ls)
    (h : s.StandsIn m) (hline : IsLine before line after) (htext : text = before ++ (line ++ after))
    (hmode : m.after Text.isLineBreak before = .textBlock) (hunbroken : Text.Unbroken line) :
    ∃ front back, layoutLines indent s ls = front ++ Text.trimEnd line :: back := by
  have hafter : ∀ c ∈ after.head?, Text.isLineBreak c :=
    fun c hc => isLineBreak_of_isLineEnd (hline.closed c hc)
  induction hlined generalizing before s m with
  | nil =>
    obtain ⟨hnil, hafter⟩ := List.append_eq_nil_iff.1 (List.append_eq_nil_iff.1 htext.symm).2
    exact absurd hafter (hline.proper hnil)
  | @last first _ hfirst =>
    by_cases hne : before = []
    · subst hne
      have hsame : line = first := by
        have htake := takeWhile_unbroken [] hfirst fun c hc => absurd hc (by simp)
        rw [List.append_nil, htext, List.nil_append, takeWhile_unbroken _ hunbroken hafter] at htake
        exact htake.trans htext.symm
      rw [Mode.after_nil] at hmode
      subst hmode hsame
      exact ⟨[], [], by rw [layoutLines_cons, h.written_textBlock]; rfl⟩
    · have hlast :=
        isLineBreak_of_isLineEnd (hline.opened _ (List.getLast?_eq_some_getLast hne))
      refine absurd hlast (Bool.eq_false_iff.1 (hfirst _ ?_))
      rw [htext]
      exact List.mem_append_left _ (List.getLast_mem hne)
  | @cons first sep rest others hfirst hsep _ ih =>
    by_cases hne : before = []
    · subst hne
      have hsame : line = first := by
        have htake := takeWhile_unbroken (sep ++ rest) hfirst fun c hc => by
          rcases hsep with rfl | ⟨d, hd, rfl⟩
          · obtain rfl := Option.some.inj hc
            rfl
          · obtain rfl := Option.some.inj hc
            exact hd
        rw [htext, List.nil_append, takeWhile_unbroken _ hunbroken hafter] at htake
        exact htake
      rw [Mode.after_nil] at hmode
      subst hmode hsame
      exact ⟨[], layoutLines indent (s.past line) others, by
        rw [layoutLines_cons, h.written_textBlock]; rfl⟩
    · obtain ⟨more, rfl, hrest⟩ := exists_before hline hfirst hsep hne htext.symm
      rw [Mode.after_append, Mode.after_append, Mode.after_separator _ hsep] at hmode
      rw [← List.append_assoc] at hline
      obtain ⟨front, back, hlines⟩ := ih (h.past hfirst) hline.of_append hrest hmode
      exact ⟨written indent s first ++ front, back, by
        rw [layoutLines_cons, hlines, List.append_assoc]⟩

/-! ## What is read of the layout -/

/-- What is laid out is read as the lines are that it is laid out from.

**Proof sketch.** Induction on the lines: the first line is read alike, and at its end the automaton
stands where the layout stands. -/
lemma visible_reading_layoutLines (hindent : Text.allBlank indent) (hlined : Text.Lined text ls)
    (h : s.StandsIn m) :
    Mode.visible (m.reading Text.isLineBreak ((layoutLines indent s ls).flatMap (· ++ ['\n']))) =
      Mode.visible (m.reading Text.isLineBreak text) := by
  induction hlined generalizing s m with
  | nil => rfl
  | @last first _ _ =>
    rw [layoutLines_cons, layoutLines, List.append_nil]
    exact (h.reading_written hindent first).1
  | @cons first sep rest others hfirst hsep _ ih =>
    obtain ⟨hvisible, hafter⟩ := h.reading_written hindent first
    rw [layoutLines_cons, List.flatMap_append, Mode.reading_append, Mode.visible_append, hvisible,
      hafter, ih (h.past hfirst), Mode.reading_append, Mode.reading_append, Mode.visible_append,
      Mode.visible_append, Mode.visible_reading_of_allBlank _ hsep.allBlank, List.nil_append,
      Mode.after_separator _ hsep]

/-- A layout begins in code. -/
lemma standsIn_start : ({} : LayoutState).StandsIn .code := ⟨rfl, rfl⟩

/-- **Each character that is not blank is read as it was before**: the same characters in the same
order stand in code, in literals, in comments and in text blocks. -/
lemma visible_reading_reindent (hblank : Text.allBlank indent) (hunbroken : Text.Unbroken indent)
    (h : SeparatorsApart source) :
    Mode.visible (Mode.code.reading isLineEnd (reindent indent source)) =
      Mode.visible (Mode.code.reading isLineEnd source) := by
  have hout : Mode.code.Apart (reindent indent source) := by
    refine Mode.apart_of_forall _ fun c hc hbreak => ?_
    obtain ⟨line, hline, hc⟩ := List.mem_flatMap.1 hc
    rcases List.mem_append.1 hc with hc | hc
    · have hlines := (Text.lined_lines source).unbroken
      exact absurd hbreak
        (Bool.eq_false_iff.1 (unbroken_of_mem_layoutLines hunbroken hlines line hline c hc))
    · rw [List.mem_singleton.1 hc]
      rfl
  rw [← hout.reading_eq.1, ← Mode.Apart.reading_eq h |>.1]
  exact visible_reading_layoutLines hblank (Text.lined_lines source) standsIn_start

/-! ## Formatting -/

/-- A literal of the source stands on one line of the layout. -/
lemma standsOnLine_literal {before literal after : Text} (h : IsLiteral before after literal)
    (hunbroken : Text.Unbroken literal) :
    StandsOnLine (reindent indent (before ++ (literal ++ after))) literal := by
  have hpart : literal <:+: before ++ (literal ++ after) :=
    ⟨before, after, List.append_assoc before literal after⟩
  cases h with
  | string | character =>
    refine standsOnLine_reindent (List.cons_ne_nil _ _) hunbroken ?_ ?_ hpart
    · intro c hc
      rw [← Option.some.inj hc]
      rfl
    · intro c hc
      rw [← List.cons_append, List.getLast?_concat] at hc
      rw [← Option.some.inj hc]
      rfl

/-- A line comment of the source stands on one line of the layout, up to the blanks at its end. -/
lemma standsOnLine_lineComment {before comment after : Text}
    (h : IsLineComment before comment after) (hunbroken : Text.Unbroken (Text.trimEnd comment)) :
    StandsOnLine (reindent indent (before ++ (comment ++ after))) (Text.trimEnd comment) := by
  have hhead : '/' ∈ (Text.trimEnd comment).head? := by
    obtain ⟨rest, rfl⟩ := h.slashes
    exact Text.mem_head?_trimEnd (by decide) rfl
  have hne : Text.trimEnd comment ≠ [] := by
    intro hnil
    rw [hnil] at hhead
    exact absurd hhead (by simp)
  have hpart : comment <:+: before ++ (comment ++ after) :=
    ⟨before, after, List.append_assoc before comment after⟩
  refine standsOnLine_reindent hne hunbroken ?_
    (fun _ => Text.isBlank_of_mem_getLast?_trimEnd)
    ((List.rdropWhile_prefix Text.isBlank comment).isInfix.trans hpart)
  intro c hc
  rw [Option.mem_unique hc hhead]
  rfl

/-- A line that starts in a text block is a line of the layout. -/
lemma hasLine_reindent {before line after : Text} (h : Mode.code.Apart before)
    (hsource : source = before ++ (line ++ after)) (hline : IsLine before line after)
    (hmode : Mode.code.after isLineEnd before = .textBlock) (hunbroken : Text.Unbroken line) :
    HasLine (reindent indent source) (Text.trimEnd line) := by
  rw [← h.reading_eq.2] at hmode
  obtain ⟨front, back, hlines⟩ := layoutLines_textBlock indent
    (Text.lined_lines source) standsIn_start hline hsource hmode hunbroken
  refine ⟨front.flatMap (· ++ ['\n']), '\n' :: back.flatMap (· ++ ['\n']), ?_, ?_⟩
  · rw [reindent, hlines, List.flatMap_append, List.flatMap_cons, List.append_assoc,
      List.singleton_append]
  have hlast : ∀ c ∈ (front.flatMap (· ++ ['\n'])).getLast?, c = '\n' := by
    intro c hc
    rcases List.eq_nil_or_concat' front with rfl | ⟨init, last, rfl⟩
    · exact absurd hc (by simp)
    · rw [List.flatMap_append, List.flatMap_singleton, ← List.append_assoc,
        List.getLast?_concat] at hc
      exact (Option.some.inj hc).symm
  constructor
  · exact fun c hc => isLineEnd_eq_false (hunbroken.trimEnd c hc)
  · intro c hc
    rw [hlast c hc]
    rfl
  · intro c hc
    rw [← Option.some.inj hc]
    rfl
  · intro _ hreturn
    exact absurd (hlast _ hreturn) (by decide)
  · exact fun _ => List.cons_ne_nil _ _

/-- **Formatting keeps literals, line comments and text blocks**, but for those that hold a
separator that does not end a line of Java. Each other literal stands on one line of the formatted
source, and so does each other line comment up to the blanks at its end. Each line that starts in a
text block is a line of the formatted source up to the blanks at its end, if there is no such
separator on the line, nor in a literal, a line comment or a text block before it.

If there is none in any of these in the whole source, then all of them are kept, and with an
indentation of spaces and tabs each character that is not blank is read in the mode that it was
read in before, so that nothing in a literal or a comment becomes code. -/
theorem literals_kept (check : Text → Option Int) (indent source : Text)
    (hsource : check source = none) :
    ∃ out, formatPlain check indent source = .ok out ∧
      (∀ before literal after, source = before ++ (literal ++ after) →
        IsLiteral before after literal → Text.Unbroken literal → StandsOnLine out literal) ∧
      (∀ before comment after, source = before ++ (comment ++ after) →
        IsLineComment before comment after → Text.Unbroken (Text.trimEnd comment) →
          StandsOnLine out (Text.trimEnd comment)) ∧
      (∀ before line after, source = before ++ (line ++ after) → IsLine before line after →
        Mode.code.after isLineEnd before = .textBlock → Mode.code.Apart before →
          Text.Unbroken line → HasLine out (Text.trimEnd line)) ∧
      (SeparatorsApart source →
        (∀ before piece after, source = before ++ (piece ++ after) →
          IsLiteral before after piece ∨ IsLineComment before piece after →
            Text.Unbroken piece) ∧
        ((∀ c ∈ indent, c = ' ' ∨ c = '\t') →
          Mode.visible (Mode.code.reading isLineEnd out) =
            Mode.visible (Mode.code.reading isLineEnd source))) := by
  refine ⟨reindent indent source, by rw [formatPlain, hsource], ?_, ?_, ?_, fun h => ⟨?_, ?_⟩⟩
  · rintro before literal after rfl hliteral hunbroken
    exact standsOnLine_literal hliteral hunbroken
  · rintro before comment after rfl hcomment hunbroken
    exact standsOnLine_lineComment hcomment hunbroken
  · rintro before line after htext hline hmode hbefore hunbroken
    exact hasLine_reindent hbefore htext hline hmode hunbroken
  · rintro before piece after rfl (hliteral | hcomment)
    · exact hliteral.unbroken h
    · exact hcomment.unbroken h
  · intro hindent
    obtain ⟨hblank, hunbroken⟩ := blank_of_spaces hindent
    exact visible_reading_reindent hblank hunbroken h

/-- The beginning of a class, with a line separator after its brace. -/
def looseStart : Text := Text.lit "class A \x7b\u2028String s = "

/-- The rest of the class after a literal and a line comment. -/
def textBlockEnd : Text := Text.lit "\nString t = \"\"\"\n  c \n\"\"\";\n\x7d"

/-- A class with a literal, a line comment and a text block, and with a separator that stands apart
from them. -/
theorem literals_kept_class :
    ∃ out, formatPlain (fun _ => none) standardIndent
        (looseStart ++ (Text.lit "\"\x7b\"" ++ (Text.lit "; // b " ++ textBlockEnd))) = .ok out ∧
      StandsOnLine out (Text.lit "\"\x7b\"") ∧ StandsOnLine out (Text.lit "// b") ∧
      HasLine out (Text.lit "  c") := by
  obtain ⟨out, hformat, hliteral, hcomment, hline, -⟩ := literals_kept (fun _ => none)
    standardIndent
    (looseStart ++ (Text.lit "\"\x7b\"" ++ (Text.lit "; // b " ++ textBlockEnd))) rfl
  refine ⟨out, hformat, ?_, ?_, ?_⟩
  · refine hliteral looseStart _ _ rfl ?_ (by decide)
    have hbody : LiteralBody '"' ['\x7b'] := .char (by decide) (by decide) (by decide) .nil
    exact .string (by decide) (by decide) hbody (by decide)
  · exact hcomment (looseStart ++ Text.lit "\"\x7b\"; ") (Text.lit "// b ") textBlockEnd
      (by decide +kernel) (by decide +kernel) (by decide)
  · exact hline (looseStart ++ Text.lit "\"\x7b\"; // b \nString t = \"\"\"\n") (Text.lit "  c ")
      (Text.lit "\n\"\"\";\n\x7d") (by decide +kernel) (by decide +kernel) (by decide +kernel)
      (by decide +kernel) (by decide)

/-- What becomes of a class with a line separator in a string literal. -/
def brokenClass : Text := Text.lit "class A \x7b String s = \"a\n  b\"; \x7d\n"

/-- **A line separator breaks the literal that it stands in**, if it does not end a line of Java. -/
theorem literal_broken :
    let before := Text.lit "class A \x7b String s = "
    let literal := Text.lit "\"a\u2028b\""
    let after := Text.lit "; \x7d\n"
    IsLiteral before after literal ∧
      formatPlain (fun _ => none) standardIndent (before ++ (literal ++ after)) =
        .ok brokenClass ∧
      ¬StandsOnLine brokenClass literal := by
  have hbody : LiteralBody '"' (Text.lit "a\u2028b") :=
    .char (by decide) (by decide) (by decide) (.char (by decide) (by decide) (by decide)
      (.char (by decide) (by decide) (by decide) .nil))
  intro before literal after
  refine ⟨.string (by decide) (by decide) hbody (by decide), ?_, fun h => ?_⟩
  · exact congrArg Except.ok (by decide +kernel)
  · exact absurd h.isInfix (by decide +kernel)

end UnitForge.Layout
