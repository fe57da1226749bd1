import UnitForge.Proofs.BraceDepth
import UnitForge.Proofs.LayoutIdempotence

set_option autoImplicit false

/-!
# Sources that differ in layout only

The layout of a source does not show in what it is formatted to. Two sources whose lines are the
same but for their layout take the formatter through the same states, so that it writes the same for
both; and if it writes the same for two sources, then they differ in layout only.

## Main definitions

* `UnitForge.Layout.Relaid` — certain lines are other lines with another layout.
* `UnitForge.Layout.LayoutState.afterGap` — the state after a run of blank lines.

## Main results

* `UnitForge.Layout.Relaid.layoutLines_eq` — lines that differ in layout only are laid out alike.
* `UnitForge.Layout.relaid_of_layoutLines_eq` — lines that are laid out alike differ in layout only.
* `UnitForge.Layout.layout_does_not_leak` — both for formatting.
-/

namespace UnitForge.Layout

variable {m : Mode} {first : Bool} {indent raw raw' : Text} {s : LayoutState}
  {gap gap' rest ls ls' : List Text}

/-- The lines of the second list are those of the first with another layout. The first list starts
in the mode `m`, and `first` tells whether no line but blank ones stands before it. -/
inductive Relaid : Mode → Bool → List Text → List Text → Prop where
  /-- There are no lines. -/
  | nil {m : Mode} {first : Bool} : Relaid m first [] []
  /-- Blank lines at the end come and go, unless they start in a text block. -/
  | ending {m : Mode} {first : Bool} {gap gap' : List Text} : m ≠ .textBlock →
      (∀ line ∈ gap, Text.allBlank line) → (∀ line ∈ gap', Text.allBlank line) →
      Relaid m first gap gap'
  /-- A line that starts in a text block may change in the blanks at its end. -/
  | textBlock {first : Bool} {raw raw' : Text} {rest rest' : List Text} :
      Text.trimEnd raw = Text.trimEnd raw' →
      Relaid (Mode.textBlock.after Text.isLineBreak raw).endLine false rest rest' →
      Relaid .textBlock first (raw :: rest) (raw' :: rest')
  /-- Any other line that is not blank may change in the blanks around it, and the run of blank
  lines before it in its length; at the start that run comes and goes. -/
  | line {m : Mode} {first : Bool} {gap gap' : List Text} {raw raw' : Text}
      {rest rest' : List Text} : m ≠ .textBlock →
      (∀ line ∈ gap, Text.allBlank line) → (∀ line ∈ gap', Text.allBlank line) →
      first = true ∨ (gap = [] ↔ gap' = []) →
      ¬Text.allBlank raw → Text.trim raw = Text.trim raw' →
      Relaid (m.after Text.isLineBreak raw).endLine false rest rest' →
      Relaid m first (gap ++ raw :: rest) (gap' ++ raw' :: rest')

/-! ## Runs of blank lines -/

/-- The state after a run of blank lines. -/
def LayoutState.afterGap (s : LayoutState) (gap : List Text) : LayoutState :=
  if gap = [] then s else { s with blankDue := s.started }

/-- Nothing is written of a run of blank lines outside of text blocks. -/
lemma layoutLines_gap (h : s.pending ≠ some textBlockQuote)
    (hgap : ∀ line ∈ gap, Text.allBlank line) (rest : List Text) :
    layoutLines indent s (gap ++ rest) = layoutLines indent (s.afterGap gap) rest := by
  induction gap generalizing s with
  | nil => rfl
  | cons raw gap ih =>
    obtain ⟨hraw, hgap⟩ := List.forall_mem_cons.1 hgap
    rw [List.cons_append, layoutLines_of_blank h (trim_eq_nil_iff.2 hraw),
      ih (s := { s with blankDue := s.started }) h hgap]
    have hstate : LayoutState.afterGap { s with blankDue := s.started } gap =
        s.afterGap (raw :: gap) := by
      unfold LayoutState.afterGap
      split <;> rfl
    rw [hstate]

/-- Nothing is laid out of blank lines outside of text blocks. -/
lemma layoutLines_of_allBlank (h : s.pending ≠ some textBlockQuote)
    (hgap : ∀ line ∈ gap, Text.allBlank line) : layoutLines indent s gap = [] := by
  have hlines : layoutLines indent s (gap ++ []) = layoutLines indent (s.afterGap gap) [] :=
    layoutLines_gap h hgap []
  rwa [List.append_nil] at hlines

/-- Lines are blank, or one of them is the first that is not. -/
lemma blank_or_line (ls : List Text) : (∀ line ∈ ls, Text.allBlank line) ∨
    ∃ gap raw rest, ls = gap ++ raw :: rest ∧ (∀ line ∈ gap, Text.allBlank line) ∧
      ¬Text.allBlank raw := by
  induction ls with
  | nil => exact .inl (List.forall_mem_nil _)
  | cons raw ls ih =>
    by_cases hraw : Text.allBlank raw
    · rcases ih with hall | ⟨gap, line, rest, rfl, hgap, hline⟩
      · exact .inl (List.forall_mem_cons.2 ⟨hraw, hall⟩)
      · exact .inr ⟨raw :: gap, line, rest, rfl, List.forall_mem_cons.2 ⟨hraw, hgap⟩, hline⟩
    · exact .inr ⟨[], raw, ls, rfl, List.forall_mem_nil _, hraw⟩

namespace LayoutState

/-- A blank line is due after a run of them if it is not the first thing in the source. -/
lemma blankDue_afterGap (hdue : s.blankDue = false) (gap : List Text) :
    (s.afterGap gap).blankDue = (s.started && !gap.isEmpty) := by
  unfold afterGap
  split
  next h => rw [h, hdue, List.isEmpty_nil, Bool.not_true, Bool.and_false]
  next h => simp [h]

lemma pending_afterGap (s : LayoutState) (gap : List Text) :
    (s.afterGap gap).pending = s.pending := by
  unfold afterGap
  split <;> rfl

/-- Blank lines change nothing about how the next line is laid out, and what comes after it. -/
lemma laidLine_afterGap (indent : Text) (s : LayoutState) (gap : List Text) (raw : Text) :
    laidLine indent (s.afterGap gap) raw = laidLine indent s raw ∧
      (s.afterGap gap).next (scanLine (Text.trim raw) s.pending) false =
        s.next (scanLine (Text.trim raw) s.pending) false := by
  unfold afterGap
  split <;> exact ⟨rfl, rfl⟩

end LayoutState

/-- **A run of blank lines and a line**: what is laid out of them, and then of the rest. -/
lemma layoutLines_gap_line (h : s.pending ≠ some textBlockQuote) (hdue : s.blankDue = false)
    (hgap : ∀ line ∈ gap, Text.allBlank line) (hraw : ¬Text.allBlank raw) (rest : List Text) :
    layoutLines indent s (gap ++ raw :: rest) =
      (if s.started && !gap.isEmpty then [[]] else []) ++ laidLine indent s raw ::
        layoutLines indent (s.next (scanLine (Text.trim raw) s.pending) false) rest := by
  obtain ⟨hlaid, hnext⟩ := LayoutState.laidLine_afterGap indent s gap raw
  have hpending := s.pending_afterGap gap
  rw [layoutLines_gap h hgap, layoutLines_of_line (hpending ▸ h) (mt trim_eq_nil_iff.1 hraw),
    hlaid, hpending, hnext, LayoutState.blankDue_afterGap hdue]

/-! ## From line to line -/

/-- The state after a line that is not blank and does not start in a text block. -/
lemma LayoutState.StandsIn.next_line (h : s.StandsIn m) (hm : m ≠ .textBlock)
    (hraw : ¬Text.allBlank raw) (hunbroken : Text.Unbroken raw) :
    (s.next (scanLine (Text.trim raw) s.pending) false).StandsIn
      (m.after Text.isLineBreak raw).endLine := by
  have hpast := h.past hunbroken
  rwa [LayoutState.past, if_neg (h.pending_ne hm), if_neg (mt trim_eq_nil_iff.1 hraw)] at hpast

/-- The state after a line that starts in a text block. -/
lemma LayoutState.StandsIn.next_textBlock (h : s.StandsIn .textBlock)
    (hunbroken : Text.Unbroken raw) (hdue : s.blankDue = false) :
    (s.next (scanLine raw s.pending) false).StandsIn
      (Mode.textBlock.after Text.isLineBreak raw).endLine := by
  have hpending : s.pending = some textBlockQuote := h.pending
  have hpast := h.past hunbroken
  rwa [LayoutState.past, if_pos hpending, hdue] at hpast

/-- **Lines that differ in layout only are laid out alike.** The two runs are in the same state
before each line that is kept.

**Proof sketch.** Induction on the relation. In a text block the blanks at the end of a line make no
difference to its scan (`next_scanLine_trimEnd`), and elsewhere a line is trimmed before it is
scanned. Of a run of blank lines only its presence matters, and at the start not even that
(`layoutLines_gap_line`). -/
theorem Relaid.layoutLines_eq (h : Relaid m first ls ls') (hs : s.StandsIn m)
    (hstarted : s.started = !first) (hdue : s.blankDue = false)
    (hunbroken : ∀ line ∈ ls, Text.Unbroken line) :
    layoutLines indent s ls = layoutLines indent s ls' := by
  induction h generalizing s with
  | nil => rfl
  | @ending m first gap gap' hm hgap hgap' =>
    have hpending := hs.pending_ne hm
    rw [layoutLines_of_allBlank hpending hgap, layoutLines_of_allBlank hpending hgap']
  | @textBlock first raw raw' rest rest' htrim _ ih =>
    obtain ⟨hraw, hrest⟩ := List.forall_mem_cons.1 hunbroken
    have hnext : s.next (scanLine raw s.pending) false =
        s.next (scanLine raw' s.pending) false := by
      rw [← next_scanLine_trimEnd hs.pending, htrim, next_scanLine_trimEnd hs.pending]
    rw [layoutLines_of_textBlock hs.pending, layoutLines_of_textBlock hs.pending, htrim, hdue,
      ih (hs.next_textBlock hraw hdue) rfl rfl hrest, hnext]
  | @line m first gap gap' raw raw' rest rest' hm hgap hgap' hruns hraw htrim _ ih =>
    obtain ⟨-, hlines⟩ := List.forall_mem_append.1 hunbroken
    obtain ⟨hline, hrest⟩ := List.forall_mem_cons.1 hlines
    have hpending := hs.pending_ne hm
    have hraw' : ¬Text.allBlank raw' := by
      rwa [← trim_eq_nil_iff, ← htrim, trim_eq_nil_iff]
    have hgaps : (s.started && !gap.isEmpty) = (s.started && !gap'.isEmpty) := by
      rcases hruns with rfl | hruns
      · rw [hstarted]
        rfl
      · rw [Bool.eq_iff_iff]
        simp [hruns]
    have hlaid : laidLine indent s raw = laidLine indent s raw' := by
      rw [laidLine, laidLine, htrim]
    rw [layoutLines_gap_line hpending hdue hgap hraw,
      layoutLines_gap_line hpending hdue hgap' hraw', hgaps, hlaid,
      ih (hs.next_line hm hraw hline) rfl rfl hrest, htrim]

/-- Something is laid out of a line that is not blank. -/
lemma laidLine_ne_nil (indent : Text) (s : LayoutState) (hraw : ¬Text.allBlank raw) :
    laidLine indent s raw ≠ [] :=
  List.append_ne_nil_of_right_ne_nil _ (mt trim_eq_nil_iff.1 hraw)

/-- It is seen in a layout whether a blank line comes before the first line that is not one. -/
private lemma separated_inj {due due' : Bool} {line line' : Text} {lines lines' : List Text}
    (hline : line ≠ []) (hline' : line' ≠ [])
    (h : (if due then [[]] else []) ++ line :: lines =
      (if due' then [[]] else []) ++ line' :: lines') :
    due = due' ∧ line = line' ∧ lines = lines' := by
  cases due <;> cases due' <;> simp_all

/-- In a text block, lines that are laid out alike start with the same line but for the blanks at
its end. -/
lemma textBlock_of_layoutLines_eq (hs : s.StandsIn .textBlock)
    (h : layoutLines indent s ls = layoutLines indent s ls') :
    ls = [] ∧ ls' = [] ∨ ∃ raw rest raw' rest', ls = raw :: rest ∧ ls' = raw' :: rest' ∧
      Text.trimEnd raw = Text.trimEnd raw' ∧
      layoutLines indent (s.next (scanLine raw s.pending) s.blankDue) rest =
        layoutLines indent (s.next (scanLine raw s.pending) s.blankDue) rest' := by
  have hpending : s.pending = some textBlockQuote := hs.pending
  cases ls with
  | nil =>
    cases ls' with
    | nil => exact .inl ⟨rfl, rfl⟩
    | cons raw' rest' =>
      rw [layoutLines_of_textBlock hpending] at h
      exact absurd h.symm (List.cons_ne_nil _ _)
  | cons raw rest =>
    rw [layoutLines_of_textBlock hpending] at h
    cases ls' with
    | nil => exact absurd h (List.cons_ne_nil _ _)
    | cons raw' rest' =>
      rw [layoutLines_of_textBlock hpending] at h
      obtain ⟨htrim, hlines⟩ := List.cons.inj h
      have hscan : s.next (scanLine raw' s.pending) s.blankDue =
          s.next (scanLine raw s.pending) s.blankDue := by
        rw [← next_scanLine_trimEnd hpending, ← htrim, next_scanLine_trimEnd hpending]
      rw [hscan] at hlines
      exact .inr ⟨raw, rest, raw', rest', rfl, rfl, htrim, hlines⟩

/-- Outside of text blocks, lines that are laid out alike are all blank, or the first of them that
are not are the same but for the blanks around them. -/
lemma line_of_layoutLines_eq (hindent : Text.allBlank indent)
    (hpending : s.pending ≠ some textBlockQuote) (hdue : s.blankDue = false)
    (h : layoutLines indent s ls = layoutLines indent s ls') :
    (∀ line ∈ ls, Text.allBlank line) ∧ (∀ line ∈ ls', Text.allBlank line) ∨
      ∃ gap raw rest gap' raw' rest', ls = gap ++ raw :: rest ∧ ls' = gap' ++ raw' :: rest' ∧
        (∀ line ∈ gap, Text.allBlank line) ∧ (∀ line ∈ gap', Text.allBlank line) ∧
        ¬Text.allBlank raw ∧ (s.started && !gap.isEmpty) = (s.started && !gap'.isEmpty) ∧
        Text.trim raw = Text.trim raw' ∧
        layoutLines indent (s.next (scanLine (Text.trim raw) s.pending) false) rest =
          layoutLines indent (s.next (scanLine (Text.trim raw) s.pending) false) rest' := by
  rcases blank_or_line ls with hgap | ⟨gap, raw, rest, rfl, hgap, hraw⟩
  · rcases blank_or_line ls' with hgap' | ⟨gap', raw', rest', rfl, hgap', hraw'⟩
    · exact .inl ⟨hgap, hgap'⟩
    · rw [layoutLines_of_allBlank hpending hgap,
        layoutLines_gap_line hpending hdue hgap' hraw'] at h
      exact absurd h.symm (List.append_ne_nil_of_right_ne_nil _ (List.cons_ne_nil _ _))
  · rw [layoutLines_gap_line hpending hdue hgap hraw] at h
    rcases blank_or_line ls' with hgap' | ⟨gap', raw', rest', rfl, hgap', hraw'⟩
    · rw [layoutLines_of_allBlank hpending hgap'] at h
      exact absurd h (List.append_ne_nil_of_right_ne_nil _ (List.cons_ne_nil _ _))
    · rw [layoutLines_gap_line hpending hdue hgap' hraw'] at h
      obtain ⟨hgaps, hlaid, hlines⟩ :=
        separated_inj (laidLine_ne_nil indent s hraw) (laidLine_ne_nil indent s hraw') h
      have htrim : Text.trim raw = Text.trim raw' := by
        rw [← trim_laidLine hindent (s := s), hlaid, trim_laidLine hindent]
      rw [← htrim] at hlines
      exact .inr ⟨gap, raw, rest, gap', raw', rest', rfl, rfl, hgap, hgap', hraw, hgaps, htrim,
        hlines⟩

/-- **Lines that are laid out alike differ in layout only**, if the indentation is blank.

**Proof sketch.** Induction on the number of lines of the first source. The first lines that are
kept are the same but for their layout (`textBlock_of_layoutLines_eq`, `line_of_layoutLines_eq`),
and the two runs are in the same state after them. -/
theorem relaid_of_layoutLines_eq (hindent : Text.allBlank indent) (hs : s.StandsIn m)
    (hstarted : s.started = !first) (hdue : s.blankDue = false)
    (hunbroken : ∀ line ∈ ls, Text.Unbroken line)
    (h : layoutLines indent s ls = layoutLines indent s ls') : Relaid m first ls ls' := by
  induction hlength : ls.length using Nat.strong_induction_on generalizing s m first ls ls' with
  | _ n ih =>
  by_cases hm : m = .textBlock
  · subst hm
    rcases textBlock_of_layoutLines_eq hs h with
      ⟨rfl, rfl⟩ | ⟨raw, rest, raw', rest', rfl, rfl, htrim, hlines⟩
    · exact .nil
    · obtain ⟨hraw, hrest⟩ := List.forall_mem_cons.1 hunbroken
      rw [hdue] at hlines
      have hlt : rest.length < n := by rw [← hlength, List.length_cons]; exact Nat.lt_succ_self _
      exact .textBlock htrim
        (ih _ hlt (hs.next_textBlock hraw hdue) rfl rfl hrest hlines rfl)
  · rcases line_of_layoutLines_eq hindent (hs.pending_ne hm) hdue h with ⟨hgap, hgap'⟩ |
      ⟨gap, raw, rest, gap', raw', rest', rfl, rfl, hgap, hgap', hraw, hgaps, htrim, hlines⟩
    · exact .ending hm hgap hgap'
    · obtain ⟨hline, hrest⟩ := List.forall_mem_cons.1 (List.forall_mem_append.1 hunbroken).2
      have hlt : rest.length < n := by
        rw [← hlength, List.length_append, List.length_cons]
        omega
      have hruns : first = true ∨ (gap = [] ↔ gap' = []) := by
        rw [hstarted] at hgaps
        cases first with
        | true => exact .inl rfl
        | false =>
          have hempty : gap.isEmpty = gap'.isEmpty := by simpa using hgaps
          exact .inr (by rw [← List.isEmpty_iff, hempty, List.isEmpty_iff])
      exact .line hm hgap hgap' hruns hraw htrim
        (ih _ hlt (hs.next_line hm hraw hline) rfl rfl hrest hlines rfl)

/-! ## Formatting -/

/-- **The layout of a source does not leak into what it is formatted to.** Let the check of the
syntax accept two sources. If the lines of the one are those of the other but for their layout, then
the formatter makes the same of both, whatever the indentation. That is: outside of text blocks the
blanks around lines and the lengths of runs of blank lines may differ, and so may blank lines at the
start and at the end; in text blocks only the blanks at the ends of lines. If the formatter makes
the same of both by an indentation of spaces and tabs, then nothing else differs.

**Proof sketch.** The two runs of the layout are in the same state before each line that is kept
(`Relaid.layoutLines_eq`). Conversely the lines of the layout are read back from the formatted text
(`Text.lines_flatMap_newline`), and lines that are laid out alike differ in layout only
(`relaid_of_layoutLines_eq`). -/
theorem layout_does_not_leak (check : Text → Option Int) (indent source other : Text)
    (hsource : check source = none) (hother : check other = none) :
    (Relaid .code true (Text.lines source) (Text.lines other) →
        ∃ out, formatPlain check indent source = .ok out ∧
          formatPlain check indent other = .ok out) ∧
      ((∀ c ∈ indent, c = ' ' ∨ c = '\t') →
        formatPlain check indent source = formatPlain check indent other →
        Relaid .code true (Text.lines source) (Text.lines other)) := by
  have hformat {text : Text} (h : check text = none) :
      formatPlain check indent text = .ok (reindent indent text) := by
    rw [formatPlain, h]
  have hunbroken (text : Text) : ∀ line ∈ Text.lines text, Text.Unbroken line :=
    (Text.lined_lines text).unbroken
  have hstart : ({} : LayoutState).StandsIn .code := ⟨rfl, rfl⟩
  refine ⟨fun h => ⟨reindent indent source, hformat hsource, ?_⟩, fun hindent h => ?_⟩
  · rw [hformat hother, reindent, reindent, h.layoutLines_eq hstart rfl rfl (hunbroken source)]
  · obtain ⟨hblank, hwhole⟩ := blank_of_spaces hindent
    rw [hformat hsource, hformat hother] at h
    have hread (text : Text) : Text.lines (reindent indent text) =
        layoutLines indent {} (Text.lines text) :=
      Text.lines_flatMap_newline (unbroken_of_mem_layoutLines hwhole (hunbroken text))
    refine relaid_of_layoutLines_eq hblank hstart rfl rfl (hunbroken source) ?_
    rw [← hread, ← hread, Except.ok.inj h]

/-- A class with blank lines, with blanks around its lines and with a text block. -/
def looseClass : Text :=
  Text.lit "\n class A \x7b \r\n\n\t\n s = \"\"\"\n b  \n\"\"\"; \x7d\n\n"

/-- The class with another layout. -/
def denseClass : Text := Text.lit "class A \x7b\r\rs = \"\"\"\u2028 b\n\"\"\"; \x7d"

/-- The two classes differ in layout only. -/
lemma relaid_looseClass : Relaid .code true (Text.lines looseClass) (Text.lines denseClass) := by
  have hloose : Text.lines looseClass = [[]] ++ Text.lit " class A \x7b " ::
      ([[], ['\t']] ++ Text.lit " s = \"\"\"" ::
        [Text.lit " b  ", Text.lit "\"\"\"; \x7d", []]) := by
    decide +kernel
  have hdense : Text.lines denseClass = [] ++ Text.lit "class A \x7b" ::
      ([[]] ++ Text.lit "s = \"\"\"" :: [Text.lit " b", Text.lit "\"\"\"; \x7d"]) := by
    decide +kernel
  rw [hloose, hdense]
  refine .line (by decide) (by decide) (by decide) (.inl rfl) (by decide) (by decide) ?_
  refine .line (by decide) (by decide) (by decide) (.inr (by decide)) (by decide) (by decide) ?_
  refine .textBlock (by decide) (.textBlock (by decide) ?_)
  exact .ending (by decide) (by decide) (by decide)

/-- The two classes are formatted alike, with tabs as well. -/
theorem layout_does_not_leak_class :
    Relaid .code true (Text.lines looseClass) (Text.lines denseClass) ∧
      ∃ out, formatPlain (fun _ => none) ['\t'] looseClass = .ok out ∧
        formatPlain (fun _ => none) ['\t'] denseClass = .ok out :=
  ⟨relaid_looseClass,
    (layout_does_not_leak (fun _ => none) ['\t'] looseClass denseClass rfl rfl).1 relaid_looseClass⟩

end UnitForge.Layout
