import UnitForge.Layout.Formatter
import UnitForge.Proofs.LineTally

set_option autoImplicit false

/-!
# The lines that are laid out

What laying out does to one line of a source: a line in a text block loses its blanks at the end,
a blank line only asks for a blank line before the next one, and any other line loses the blanks
around it and gets a margin.

## Main definitions

* `UnitForge.Layout.margin` — what stands before a line that is laid out.
* `UnitForge.Layout.laidLine` — a line that is laid out, from its margin on.
* `UnitForge.Layout.written`, `UnitForge.Layout.LayoutState.past` — what is written of a line, and
  the state after it.
* `UnitForge.Layout.LayoutState.StandsIn` — the mode that a line starts in.

## Main results

* `UnitForge.Layout.layoutLines_of_textBlock`, `UnitForge.Layout.layoutLines_of_blank`,
  `UnitForge.Layout.layoutLines_of_line` — what becomes of the first of several lines.
* `UnitForge.Layout.layoutLines_cons` — lines are laid out one after the other.
* `UnitForge.Layout.LayoutState.StandsIn.past` — the layout follows the automaton from line to line.
* `UnitForge.Layout.LayoutState.StandsIn.reading_written` — what is written of a line is read as
  that line is.
* `UnitForge.Layout.unbroken_of_mem_layoutLines` — no line that is laid out holds a separator.
-/

namespace UnitForge.Layout

variable {indent raw line : Text} {rest : List Text} {s : LayoutState} {scan : LineScan}

/-! ## Margins -/

/-- What stands before a line that is laid out. -/
def margin (indent : Text) (s : LayoutState) (scan : LineScan) (line : Text) : Text :=
  if s.pending = some blockCommentEnd then
    Text.times s.depth indent ++ (if line.head? = some '*' then [' '] else [])
  else Text.times (s.depth - scan.leading) indent

lemma indentLine_eq (indent : Text) (s : LayoutState) (scan : LineScan) (line : Text) :
    indentLine indent s scan line = margin indent s scan line ++ line := by
  unfold indentLine margin
  split <;> rfl

/-- A property of texts that concatenation keeps holds of a margin if it holds of the indentation
and of a space. -/
private lemma margin_induction {P : Text → Prop} (hnil : P []) (hspace : P [' '])
    (happend : ∀ front back, P front → P back → P (front ++ back)) (hindent : P indent) :
    P (margin indent s scan line) := by
  have htimes (n : Nat) : P (Text.times n indent) := by
    induction n with
    | zero => exact hnil
    | succ n ih => exact happend indent _ hindent ih
  unfold margin
  split
  · refine happend _ _ (htimes _) ?_
    split
    · exact hspace
    · exact hnil
  · exact htimes _

lemma allBlank_margin (h : Text.allBlank indent) : Text.allBlank (margin indent s scan line) :=
  margin_induction (P := (Text.allBlank ·)) rfl rfl (fun _ _ => Text.allBlank_append) h

lemma unbroken_margin (h : Text.Unbroken indent) : Text.Unbroken (margin indent s scan line) :=
  margin_induction Text.unbroken_nil (by decide) (fun _ _ => Text.Unbroken.append) h

/-- A line that is not blank and does not start in a text block, laid out. -/
def laidLine (indent : Text) (s : LayoutState) (raw : Text) : Text :=
  margin indent s (scanLine (Text.trim raw) s.pending) (Text.trim raw) ++ Text.trim raw

/-- The line is trimmed to what it is laid out from. -/
lemma trim_laidLine (h : Text.allBlank indent) :
    Text.trim (laidLine indent s raw) = Text.trim raw := by
  rw [laidLine, Text.trim_append_of_allBlank (allBlank_margin h), Text.trim_trim]

lemma unbroken_laidLine (h : Text.Unbroken indent) (hraw : Text.Unbroken raw) :
    Text.Unbroken (laidLine indent s raw) := (unbroken_margin h).append hraw.trim

/-- An indentation of spaces and tabs is blank and ends no line. -/
lemma blank_of_spaces (h : ∀ c ∈ indent, c = ' ' ∨ c = '\t') :
    Text.allBlank indent ∧ Text.Unbroken indent := by
  constructor
  · refine Text.allBlank_iff.2 fun c hc => ?_
    rcases h c hc with rfl | rfl <;> rfl
  · intro c hc
    rcases h c hc with rfl | rfl <;> rfl

/-! ## The first of several lines -/

/-- A line that starts in a text block is kept but for the blanks at its end. -/
lemma layoutLines_of_textBlock (h : s.pending = some textBlockQuote) :
    layoutLines indent s (raw :: rest) =
      Text.trimEnd raw :: layoutLines indent (s.next (scanLine raw s.pending) s.blankDue) rest := by
  rw [layoutLines, if_pos h]

/-- A blank line outside text blocks is left out, and a blank line is due if one can be. -/
lemma layoutLines_of_blank (h : s.pending ≠ some textBlockQuote) (hraw : Text.trim raw = []) :
    layoutLines indent s (raw :: rest) =
      layoutLines indent { s with blankDue := s.started } rest := by
  rw [layoutLines, if_neg h, hraw]
  rfl

/-- Any other line is trimmed and set at its margin, after a blank line if one is due. -/
lemma layoutLines_of_line (h : s.pending ≠ some textBlockQuote) (hraw : Text.trim raw ≠ []) :
    layoutLines indent s (raw :: rest) =
      (if s.blankDue then [[]] else []) ++ laidLine indent s raw ::
        layoutLines indent (s.next (scanLine (Text.trim raw) s.pending) false) rest := by
  have hempty : ¬(Text.trim raw).isEmpty := by rwa [List.isEmpty_iff]
  rw [layoutLines, if_neg h, laidLine]
  simp only [if_neg hempty, indentLine_eq]
  split <;> rfl

/-- What is written of a line. -/
def written (indent : Text) (s : LayoutState) (raw : Text) : List Text :=
  if s.pending = some textBlockQuote then [Text.trimEnd raw]
  else if Text.trim raw = [] then []
  else (if s.blankDue then [[]] else []) ++ [laidLine indent s raw]

/-- The state after a line. -/
def LayoutState.past (s : LayoutState) (raw : Text) : LayoutState :=
  if s.pending = some textBlockQuote then s.next (scanLine raw s.pending) s.blankDue
  else if Text.trim raw = [] then { s with blankDue := s.started }
  else s.next (scanLine (Text.trim raw) s.pending) false

/-- **Lines are laid out one after the other.** -/
lemma layoutLines_cons (indent : Text) (s : LayoutState) (raw : Text) (rest : List Text) :
    layoutLines indent s (raw :: rest) =
      written indent s raw ++ layoutLines indent (s.past raw) rest := by
  unfold written LayoutState.past
  by_cases htext : s.pending = some textBlockQuote
  · rw [if_pos htext, if_pos htext, layoutLines_of_textBlock htext, List.singleton_append]
  rw [if_neg htext, if_neg htext]
  by_cases hblank : Text.trim raw = []
  · rw [if_pos hblank, if_pos hblank, layoutLines_of_blank htext hblank, List.nil_append]
  · rw [if_neg hblank, if_neg hblank, layoutLines_of_line htext hblank, List.append_assoc,
      List.singleton_append]

/-- What is written of a line has the characters of that line, but for blanks around them. -/
lemma written_cases (indent : Text) (s : LayoutState) (raw : Text) :
    ∃ front core back, Text.allBlank front ∧ Text.allBlank back ∧ raw = front ++ (core ++ back) ∧
      (written indent s raw = [] ∧ core = [] ∨
        ∃ lead, (Text.allBlank indent → Text.allBlank lead) ∧
          (written indent s raw).flatMap (· ++ ['\n']) = lead ++ (core ++ ['\n'])) := by
  unfold written
  split
  next =>
    obtain ⟨back, hback, hraw⟩ := Text.exists_trimEnd raw
    exact ⟨[], Text.trimEnd raw, back, rfl, hback, hraw, .inr ⟨[], fun _ => rfl, by simp⟩⟩
  obtain ⟨front, back, hfront, hback, hraw⟩ := Text.exists_trim raw
  rw [List.append_assoc] at hraw
  refine ⟨front, Text.trim raw, back, hfront, hback, hraw, ?_⟩
  split
  next hblank => exact .inl ⟨rfl, hblank⟩
  next =>
    refine .inr ⟨(if s.blankDue then ['\n'] else []) ++
      margin indent s (scanLine (Text.trim raw) s.pending) (Text.trim raw), fun hindent => ?_, ?_⟩
    · refine Text.allBlank_append ?_ (allBlank_margin hindent)
      split <;> rfl
    · split <;> simp [laidLine]

/-! ## The mode that a line starts in -/

/-- The next line of a layout starts in the given mode. -/
structure LayoutState.StandsIn (s : LayoutState) (m : Mode) : Prop where
  /-- A line starts in that mode. -/
  start : m.endLine = m
  /-- The layout holds the terminator of what the mode leaves open. -/
  pending : s.pending = m.pending

variable {m : Mode}

lemma LayoutState.StandsIn.next {blankDue : Bool} (h : s.StandsIn m) :
    (s.next (scanLine line s.pending) blankDue).StandsIn (line.foldl Mode.next m).endLine where
  start := Mode.endLine_endLine _
  pending := by
    rw [LayoutState.next, h.pending, pending_scanLine h.start, Mode.pending_endLine]

/-- **The layout follows the automaton** from line to line. -/
lemma LayoutState.StandsIn.past (h : s.StandsIn m) (hraw : Text.Unbroken raw) :
    (s.past raw).StandsIn (m.after Text.isLineBreak raw).endLine := by
  unfold LayoutState.past
  split
  next =>
    rw [m.after_of_unbroken hraw]
    exact h.next
  obtain ⟨front, back, hfront, hback, htrim⟩ := Text.exists_trim raw
  rw [List.append_assoc] at htrim
  have hmode : (m.after Text.isLineBreak raw).endLine =
      ((Text.trim raw).foldl Mode.next m).endLine := by
    conv_lhs => rw [htrim]
    rw [Mode.endLine_after_padded _ _ h.start hfront hback, m.after_of_unbroken hraw.trim]
  rw [hmode]
  split
  next hblank =>
    rw [hblank, List.foldl_nil, h.start]
    exact ⟨h.start, h.pending⟩
  next => exact h.next

/-- In a text block is written what stands there, but for the blanks at the end. -/
lemma LayoutState.StandsIn.written_textBlock (h : s.StandsIn .textBlock) :
    written indent s raw = [Text.trimEnd raw] := if_pos h.pending

/-- **What is written of a line is read as that line is**, and so is what comes after it. -/
lemma LayoutState.StandsIn.reading_written (h : s.StandsIn m) (hindent : Text.allBlank indent)
    (raw : Text) :
    Mode.visible (m.reading Text.isLineBreak ((written indent s raw).flatMap (· ++ ['\n']))) =
        Mode.visible (m.reading Text.isLineBreak raw) ∧
      m.after Text.isLineBreak ((written indent s raw).flatMap (· ++ ['\n'])) =
        (m.after Text.isLineBreak raw).endLine := by
  obtain ⟨front, core, back, hfront, hback, hraw, hwritten⟩ := written_cases indent s raw
  have hvisible := Mode.visible_reading_padded Text.isLineBreak core h.start hfront hback
  have hafter := Mode.endLine_after_padded Text.isLineBreak core h.start hfront hback
  rw [← hraw] at hvisible hafter
  rw [hvisible, hafter]
  rcases hwritten with ⟨hnone, rfl⟩ | ⟨lead, hlead, hlines⟩
  · rw [hnone]
    exact ⟨rfl, h.start.symm⟩
  · have hend : Text.allBlank ['\n'] := rfl
    rw [hlines, Mode.visible_reading_padded _ core h.start (hlead hindent) hend]
    refine ⟨rfl, ?_⟩
    rw [Mode.after_append, Mode.after_of_allBlank (hlead hindent) h.start, Mode.after_append]
    rfl

/-! ## Separators -/

/-- No line that is written of a line holds a separator. -/
lemma unbroken_of_mem_written (hindent : Text.Unbroken indent) (hraw : Text.Unbroken raw) :
    ∀ line ∈ written indent s raw, Text.Unbroken line := by
  unfold written
  split
  · exact List.forall_mem_singleton.2 hraw.trimEnd
  split
  · exact fun _ hm => absurd hm List.not_mem_nil
  · have hlaid := List.forall_mem_singleton.2 (unbroken_laidLine (s := s) hindent hraw)
    refine List.forall_mem_append.2 ⟨?_, hlaid⟩
    split
    · exact List.forall_mem_singleton.2 Text.unbroken_nil
    · exact fun _ hm => absurd hm List.not_mem_nil

/-- **No line that is laid out holds a separator**, if neither the indentation nor the lines of the
source do. -/
lemma unbroken_of_mem_layoutLines (hindent : Text.Unbroken indent) {ls : List Text}
    (h : ∀ line ∈ ls, Text.Unbroken line) :
    ∀ line ∈ layoutLines indent s ls, Text.Unbroken line := by
  induction ls generalizing s with
  | nil => exact fun _ hm => absurd hm List.not_mem_nil
  | cons raw rest ih =>
    obtain ⟨hraw, hrest⟩ := List.forall_mem_cons.1 h
    rw [layoutLines_cons]
    exact List.forall_mem_append.2 ⟨unbroken_of_mem_written hindent hraw, ih hrest⟩

end UnitForge.Layout
