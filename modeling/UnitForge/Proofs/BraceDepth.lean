import Mathlib.Data.List.TakeWhile
import UnitForge.Proofs.CodeBraces
import UnitForge.Proofs.LaidOutLines

set_option autoImplicit false

/-!
# Indentation is brace depth

The formatter goes from line to line with a depth that it cuts off at zero. If no beginning of the
source closes more braces of code than it opens, then nothing is ever cut off, and each line is set
at the number of braces open where it starts, less the closing braces that stand before any other
code on it.

## Main definitions

* `UnitForge.Layout.placedLines` — the lines of a source with what stands before each.
* `UnitForge.Layout.Placed` — certain lines stand at certain places of a source.
* `UnitForge.Layout.Laid` — what is to become of a line of a source.
* `UnitForge.Layout.LayoutState.NeverClamps` — no depth is cut off at zero.
* `UnitForge.Layout.LayoutState.Fits` — the layout is where the source is after a text.

## Main results

* `UnitForge.Layout.map_snd_placedLines`, `UnitForge.Layout.placed_placedLines` — these are the
  lines, and they stand where they are said to stand.
* `UnitForge.Layout.LayoutState.Fits.past` — the depth of a layout is the number of open braces from
  line to line.
* `UnitForge.Layout.LayoutState.Fits.laid_written` — what is written of a line is what is to become
  of it.
* `UnitForge.Layout.indentation_is_depth` — the formatter sets each line at its depth.
* `UnitForge.Layout.blank_line_undented` — a blank line in a block comment gets no indentation.
-/

namespace UnitForge.Layout

variable {m : Mode} {line before indent : Text}

/-! ## The lines of a source -/

/-- The lines of a text, each with what stands before it, where `line` holds the characters of the
present line in reverse and `before` stands before that line. -/
def placedFrom (before line : Text) : Text → List (Text × Text)
  | [] => if line.isEmpty then [] else [(before, line.reverse)]
  | '\r' :: '\n' :: rest =>
    (before, line.reverse) :: placedFrom (before ++ (line.reverse ++ ['\r', '\n'])) [] rest
  | c :: rest =>
    if Text.isLineBreak c then
      (before, line.reverse) :: placedFrom (before ++ (line.reverse ++ [c])) [] rest
    else placedFrom before (c :: line) rest

/-- The lines of a source, each with what stands before it. -/
def placedLines (source : Text) : List (Text × Text) := placedFrom [] [] source

private lemma map_snd_placedFrom (before line rest : Text) :
    (placedFrom before line rest).map Prod.snd = Text.linesFrom line rest := by
  fun_induction placedFrom before line rest with
  | case1 _ line hline => rw [Text.linesFrom, if_pos hline, List.map_nil]
  | case2 _ line hline =>
    rw [Text.linesFrom, if_neg hline]
    rfl
  | case3 before line rest ih => rw [List.map_cons, ih, Text.linesFrom]
  | case4 before line c rest hcrlf hc ih =>
    rw [List.map_cons, ih, Text.linesFrom, if_pos hc]
    exact hcrlf
  | case5 before line c rest hcrlf hc ih =>
    rw [ih, Text.linesFrom, if_neg hc]
    exact hcrlf

/-- The lines with their places are the lines. -/
lemma map_snd_placedLines (source : Text) :
    (placedLines source).map Prod.snd = Text.lines source := map_snd_placedFrom [] [] source

/-- What stands after a text is certain lines with a separator after each, the last line perhaps
excepted, and the lines stand at certain places. -/
inductive Placed : Text → Text → List (Text × Text) → Prop where
  | nil {before : Text} : Placed before [] []
  | last {before line : Text} :
      line ≠ [] → Text.Unbroken line → Placed before line [(before, line)]
  | cons {before line sep rest : Text} {places : List (Text × Text)} :
      Text.Unbroken line → Text.IsSeparator sep → Placed (before ++ (line ++ sep)) rest places →
        Placed before (line ++ (sep ++ rest)) ((before, line) :: places)

private lemma placed_placedFrom (before line rest : Text) (hline : Text.Unbroken line) :
    Placed before (line.reverse ++ rest) (placedFrom before line rest) := by
  fun_induction placedFrom before line rest with
  | case1 before line h =>
    rw [List.isEmpty_iff.1 h]
    exact .nil
  | case2 before line h =>
    rw [List.append_nil]
    refine .last ?_ hline.reverse
    rwa [Ne, List.reverse_eq_nil_iff, ← List.isEmpty_iff]
  | case3 before line rest ih => exact .cons hline.reverse (.inl rfl) (ih Text.unbroken_nil)
  | case4 before line c rest _ hc ih =>
    exact .cons hline.reverse (.inr ⟨c, hc, rfl⟩) (ih Text.unbroken_nil)
  | case5 before line c rest _ hc ih =>
    have hcons : Text.Unbroken (c :: line) :=
      List.forall_mem_cons.2 ⟨Bool.eq_false_iff.2 hc, hline⟩
    simpa using ih hcons

/-- **A source is its lines**, and they stand at their places. -/
lemma placed_placedLines (source : Text) : Placed [] source (placedLines source) :=
  placed_placedFrom [] [] source Text.unbroken_nil

/-- What is to become of a line of a source, by what stands before it: the lines that are written
for it, with at most one empty line before it. -/
inductive Laid (indent before line : Text) : List Text → Prop where
  /-- A line that starts in a text block is kept but for the blanks at its end. -/
  | textBlock : modeAfter before = .textBlock → Laid indent before line [Text.trimEnd line]
  /-- Of any other blank line nothing is written. -/
  | blank : modeAfter before ≠ .textBlock → Text.allBlank line → Laid indent before line []
  /-- A line that starts in a block comment stands at the full depth, and one blank further if it
  begins with a star. -/
  | comment {gap : List Text} {depth : Nat} : modeAfter before = .blockComment →
      ¬Text.allBlank line → gap = [] ∨ gap = [[]] → (depth : Int) = openBraces before →
      Laid indent before line (gap ++ [Text.times depth indent ++
        (if (Text.trim line).head? = some '*' then [' '] else []) ++ Text.trim line])
  /-- A line that starts in code stands at the depth that it has after its first closing braces. -/
  | code {gap : List Text} {depth : Nat} : modeAfter before = .code →
      ¬Text.allBlank line → gap = [] ∨ gap = [[]] →
      (depth : Int) = openBraces before - closersFirst line →
      Laid indent before line (gap ++ [Text.times depth indent ++ Text.trim line])

/-! ## From line to line -/

/-- Nothing is left of a trimmed line if the line is blank, and only then. -/
lemma trim_eq_nil_iff {raw : Text} : Text.trim raw = [] ↔ Text.allBlank raw := by
  constructor
  · intro hnil
    obtain ⟨front, back, hfront, hback, hraw⟩ := Text.exists_trim raw
    rw [hraw, hnil, List.append_nil]
    exact Text.allBlank_append hfront hback
  · intro hall
    rw [Text.trim, Text.trimStart, List.dropWhile_eq_nil_iff.2 (Text.allBlank_iff.1 hall)]
    rfl

namespace LayoutState

variable {s : LayoutState} {raw sep : Text}

/-- The scan of a line that follows, which is trimmed before unless it starts in a text block. -/
def scanned (s : LayoutState) (raw : Text) : LineScan :=
  scanLine (if s.pending = some textBlockQuote then raw else Text.trim raw) s.pending

/-- Neither the depth after the line nor that of the line itself is cut off at zero. -/
structure Unclamped (s : LayoutState) (raw : Text) : Prop where
  /-- The line closes no more than is open. -/
  net : 0 ≤ s.depth + (s.scanned raw).net
  /-- The line closes no more than is open before any other code. -/
  leading : (s.scanned raw).leading ≤ s.depth

/-- No depth is cut off at zero on the lines that follow. -/
def NeverClamps (s : LayoutState) : List Text → Prop
  | [] => True
  | raw :: rest => s.Unclamped raw ∧ (s.past raw).NeverClamps rest

/-- A line starts in code, in a block comment or in a text block. -/
lemma StandsIn.start_cases (h : s.StandsIn m) :
    m = .code ∨ m = .blockComment ∨ m = .textBlock := by
  have hstart := h.start
  cases m <;> simp_all [Mode.endLine]

/-- A line that does not start in a text block does not look for the end of one. -/
lemma StandsIn.pending_ne (h : s.StandsIn m) (hm : m ≠ .textBlock) :
    s.pending ≠ some textBlockQuote := by
  rw [h.pending]
  rcases h.start_cases with rfl | rfl | rfl
  · decide
  · decide
  · exact absurd rfl hm

/-- The layout is where the source is after a line and the separator that ends it. -/
lemma StandsIn.past_separator (h : s.StandsIn (modeAfter before)) (hraw : Text.Unbroken raw)
    (hsep : Text.IsSeparator sep) : (s.past raw).StandsIn (modeAfter (before ++ (raw ++ sep))) := by
  have hstands := h.past hraw
  rwa [← Mode.after_separator _ hsep, ← Mode.after_append, modeAfter, ← Mode.after_append]
    at hstands

/-- The depth after a line, whether it is blank or not. -/
lemma depth_past (s : LayoutState) (raw : Text) :
    (s.past raw).depth = (s.depth + (s.scanned raw).net).toNat := by
  unfold past scanned
  split
  · rfl
  split
  next hblank =>
    rw [hblank]
    have hnet : (scanLine [] s.pending).net = 0 := rfl
    rw [hnet, Int.add_zero, Int.toNat_natCast]
  next => rfl

/-- **The scan of a line tells what the tally of the line tells**, with the blanks around it. -/
lemma StandsIn.outcome_scanned (h : s.StandsIn m) (raw : Text) :
    (s.scanned raw).outcome = (Tally.across ⟨m, {}⟩ raw).outcome := by
  rw [scanned, h.pending]
  split
  · exact outcome_scanLine h.start
  obtain ⟨front, back, hfront, hback, hraw⟩ := Text.exists_trim raw
  conv_rhs => rw [hraw]
  rw [outcome_scanLine h.start, Tally.across_append, Tally.outcome_across_of_allBlank _ hback,
    Tally.across_append, Tally.across_of_allBlank h.start hfront]

lemma StandsIn.net_scanned (h : s.StandsIn m) (hraw : Text.Unbroken raw) :
    (s.scanned raw).net = netBraces (m.reading Text.isLineBreak raw) :=
  (congrArg (·.2.1) (h.outcome_scanned raw)).trans
    ((Tally.net_across _ hraw).trans (Int.zero_add _))

lemma StandsIn.leading_scanned (h : s.StandsIn .code) (raw : Text) :
    (s.scanned raw).leading = closersFirst raw :=
  (congrArg (·.1) (h.outcome_scanned raw)).trans
    ((Tally.leading_across false {} rfl raw).trans (Nat.zero_add _))

/-- Nothing is written of a blank line that does not start in a text block. -/
lemma written_of_blank (h : s.pending ≠ some textBlockQuote) (hraw : Text.allBlank raw) :
    written indent s raw = [] := by
  rw [written, if_neg h, if_pos (trim_eq_nil_iff.2 hraw)]

/-- Any other line is laid out, after at most one empty line. -/
lemma exists_written (indent : Text) (h : s.pending ≠ some textBlockQuote)
    (hraw : ¬Text.allBlank raw) :
    ∃ gap, (gap = [] ∨ gap = [[]]) ∧ written indent s raw = gap ++ [laidLine indent s raw] := by
  rw [written, if_neg h, if_neg fun hnil => hraw (trim_eq_nil_iff.1 hnil)]
  refine ⟨_, ?_, rfl⟩
  split
  · exact .inr rfl
  · exact .inl rfl

/-- A line of code stands at the depth less its first closing braces. -/
lemma StandsIn.laidLine_code (h : s.StandsIn .code) (indent raw : Text) :
    laidLine indent s raw =
      Text.times (s.depth - closersFirst raw) indent ++ Text.trim raw := by
  have hcomment : s.pending ≠ some blockCommentEnd := by
    rw [h.pending]
    decide
  have hscan : s.scanned raw = scanLine (Text.trim raw) s.pending :=
    congrArg (scanLine · s.pending) (if_neg (h.pending_ne (by decide)))
  rw [laidLine, margin, if_neg hcomment, ← hscan, h.leading_scanned]

/-- A line of a block comment stands at the full depth. -/
lemma StandsIn.laidLine_blockComment (h : s.StandsIn .blockComment) (indent raw : Text) :
    laidLine indent s raw = Text.times s.depth indent ++
      (if (Text.trim raw).head? = some '*' then [' '] else []) ++ Text.trim raw := by
  have hcomment : s.pending = some blockCommentEnd := h.pending
  rw [laidLine, margin, if_pos hcomment]

/-- The layout is where the source is after a text. -/
structure Fits (s : LayoutState) (before : Text) : Prop where
  /-- The next line starts in the mode that the source is in. -/
  standsIn : s.StandsIn (modeAfter before)
  /-- The depth is the number of open braces. -/
  depth : (s.depth : Int) = openBraces before

namespace Fits

variable (h : s.Fits before) (hraw : Text.Unbroken raw)
  (hclosed : ∀ part, part <+: raw → 0 ≤ openBraces (before ++ part))

include h hraw hclosed

/-- **Nothing is cut off** on a line that closes no more than is open. -/
lemma unclamped : s.Unclamped raw where
  net := by
    have hopen := hclosed raw List.prefix_rfl
    rwa [openBraces_append, ← h.depth, ← h.standsIn.net_scanned hraw] at hopen
  leading := by
    obtain ⟨part, hpart, hnet⟩ := Tally.exists_leading_closed ⟨modeAfter before, {}⟩ rfl rfl raw
    have hopen := hclosed part hpart
    have hleading : (s.scanned raw).leading =
        (Tally.across ⟨modeAfter before, {}⟩ raw).braces.leading :=
      congrArg (·.1) (h.standsIn.outcome_scanned raw)
    rw [← hleading, Tally.net_across _ (hraw.of_subset hpart.subset)] at hnet
    rw [openBraces_append, ← h.depth] at hopen
    simp only at hnet
    omega

/-- **The depth of a layout is the number of open braces** from line to line. -/
lemma past (hsep : Text.IsSeparator sep) : (s.past raw).Fits (before ++ (raw ++ sep)) where
  standsIn := h.standsIn.past_separator hraw hsep
  depth := by
    have hnet := (h.unclamped hraw hclosed).net
    rw [depth_past, Int.toNat_of_nonneg hnet, h.depth, h.standsIn.net_scanned hraw,
      openBraces_append, Mode.reading_append, netBraces_append,
      netBraces_of_allBlank _ _ hsep.allBlank, Int.add_zero]

/-- **What is written of a line is what is to become of it.** -/
lemma laid_written (indent : Text) : Laid indent before raw (written indent s raw) := by
  have hstands := h.standsIn
  by_cases htext : modeAfter before = .textBlock
  · rw [htext] at hstands
    rw [hstands.written_textBlock]
    exact .textBlock htext
  have hnot : s.pending ≠ some textBlockQuote := hstands.pending_ne htext
  by_cases hblank : Text.allBlank raw
  · rw [written_of_blank hnot hblank]
    exact .blank htext hblank
  obtain ⟨gap, hgap, hwritten⟩ := exists_written indent hnot hblank
  rw [hwritten]
  rcases hstands.start_cases with hm | hm | hm
  · have hle := (h.unclamped hraw hclosed).leading
    rw [hm] at hstands
    rw [hstands.leading_scanned] at hle
    rw [hstands.laidLine_code]
    refine .code hm hblank hgap ?_
    have hdepth := h.depth
    omega
  · rw [hm] at hstands
    rw [hstands.laidLine_blockComment]
    exact .comment hm hblank hgap h.depth
  · exact absurd hm htext

end Fits

/-- The given lines with their places are laid out one by one, and no depth is cut off. -/
def LaysOut (s : LayoutState) (indent : Text) (placed : List (Text × Text)) : Prop :=
  ∃ blocks : List (List Text), layoutLines indent s (placed.map Prod.snd) = blocks.flatten ∧
    List.Forall₂ (fun place block => Laid indent place.1 place.2 block) placed blocks ∧
    s.NeverClamps (placed.map Prod.snd)

/-- No line is laid out to nothing. -/
lemma laysOut_nil (s : LayoutState) (indent : Text) : s.LaysOut indent [] :=
  ⟨[], rfl, .nil, trivial⟩

/-- A line is laid out, and then the lines after it. -/
lemma Fits.laysOut_cons {placed : List (Text × Text)} (h : s.Fits before)
    (hraw : Text.Unbroken raw)
    (hclosed : ∀ part, part <+: raw → 0 ≤ openBraces (before ++ part))
    (hrest : (s.past raw).LaysOut indent placed) : s.LaysOut indent ((before, raw) :: placed) := by
  obtain ⟨blocks, hlines, hlaid, hclamps⟩ := hrest
  refine ⟨written indent s raw :: blocks, ?_, .cons (h.laid_written hraw hclosed indent) hlaid,
    h.unclamped hraw hclosed, hclamps⟩
  rw [List.map_cons, layoutLines_cons, hlines, List.flatten_cons]

/-- **The lines of a source that never closes too much are laid out at their depths.**

**Proof sketch.** Induction along the lines of the source: what is written of a line is what is to
become of it, and the layout fits what stands before the next line. -/
lemma Fits.laysOut {rest : Text} {places : List (Text × Text)} (h : s.Fits before)
    (hplaced : Placed before rest places) (hclosed : NeverOverclosed (before ++ rest)) :
    s.LaysOut indent places := by
  induction hplaced generalizing s with
  | nil => exact s.laysOut_nil indent
  | last _ hline =>
    refine h.laysOut_cons hline (fun part hpart => ?_) (laysOut_nil _ indent)
    exact hclosed _ ((List.prefix_append_right_inj _).2 hpart)
  | @cons before line sep rest places hline hsep _ ih =>
    have hpart (part : Text) (hpart : part <+: line) : 0 ≤ openBraces (before ++ part) :=
      hclosed _ ((List.prefix_append_right_inj _).2 (hpart.trans (List.prefix_append _ _)))
    refine h.laysOut_cons hline hpart (ih (h.past hline hpart hsep) ?_)
    simpa using hclosed

/-- A layout begins where its source begins. -/
lemma fits_start : ({} : LayoutState).Fits [] where
  standsIn := ⟨rfl, rfl⟩
  depth := rfl

end LayoutState

/-! ## Formatting -/

/-- **Indentation is brace depth.** If no beginning of a source closes more braces of code than it
opens, then what the formatter writes of a line that starts in code is the line without the blanks
around it, indented once for each brace open at its start less the closing braces that stand before
any other code on it. A line that starts in a block comment is indented once for each brace open at
its start, and stands one blank further if it begins with a star. Of blank lines nothing is written
outside text blocks but perhaps one empty line before the next line, and in text blocks lines are
kept but for the blanks at their ends. No depth is ever cut off at zero. -/
theorem indentation_is_depth (check : Text → Option Int) (indent source : Text)
    (hsource : check source = none) (hclosed : NeverOverclosed source) :
    ∃ blocks : List (List Text),
      formatPlain check indent source = .ok (blocks.flatten.flatMap (· ++ ['\n'])) ∧
      List.Forall₂ (fun place block => Laid indent place.1 place.2 block)
        (placedLines source) blocks ∧
      ({} : LayoutState).NeverClamps (Text.lines source) := by
  have hlaid : ({} : LayoutState).LaysOut indent (placedLines source) :=
    LayoutState.fits_start.laysOut (placed_placedLines source) hclosed
  rw [LayoutState.LaysOut, map_snd_placedLines] at hlaid
  obtain ⟨blocks, hlines, hblocks, hclamps⟩ := hlaid
  refine ⟨blocks, ?_, hblocks, hclamps⟩
  rw [formatPlain, hsource, ← hlines]
  rfl

/-- A class with braces in a literal and in comments, and with a closing brace after a comment. -/
def bracedClass : Text :=
  Text.lit "class A \x7b\nchar c = '\x7d'; /* \x7b\n* \x7d\n\n*/ void f() \x7b // \x7b\n" ++
    Text.lit "/* f */ \x7d \x7d\n"

/-- The lines of the class are set at their depths. -/
theorem indentation_is_depth_class :
    NeverOverclosed bracedClass ∧
    ∃ blocks : List (List Text),
      formatPlain (fun _ => none) standardIndent bracedClass =
        .ok (blocks.flatten.flatMap (· ++ ['\n'])) ∧
      List.Forall₂ (fun place block => Laid standardIndent place.1 place.2 block)
        (placedLines bracedClass) blocks ∧
      ({} : LayoutState).NeverClamps (Text.lines bracedClass) := by
  have hclosed : NeverOverclosed bracedClass := by decide +kernel
  exact ⟨hclosed, indentation_is_depth (fun _ => none) standardIndent bracedClass rfl hclosed⟩

/-- **A blank line in a block comment gets no indentation**: it starts at depth one, yet no line of
the formatted class consists of the indentation of that depth. -/
theorem blank_line_undented :
    let source := Text.lit "class A \x7b\n/*\n\n*/\n\x7d\n"
    let before := Text.lit "class A \x7b\n/*\n"
    let out := Text.lit "class A \x7b\n  /*\n\n   */\n\x7d\n"
    NeverOverclosed source ∧ (before, []) ∈ placedLines source ∧
      modeAfter before = .blockComment ∧ openBraces before = 1 ∧
      formatPlain (fun _ => none) standardIndent source = .ok out ∧
      Text.times 1 standardIndent ∉ Text.lines out := by
  refine ⟨?_, ?_, ?_, ?_, congrArg Except.ok ?_, ?_⟩
  all_goals decide +kernel

end UnitForge.Layout
