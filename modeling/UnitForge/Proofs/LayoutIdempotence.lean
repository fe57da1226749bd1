import UnitForge.Proofs.LaidOutLines

set_option autoImplicit false

/-!
# Laying out twice

A source that is laid out already is laid out as it stands. The second run meets newlines for the
separators of the first, other margins, fewer blank lines and no blanks at the ends of lines; none
of that makes a difference to what it reads in a line.

## Main results

* `UnitForge.Layout.layoutLines_layoutLines` — laying out lines that are laid out changes nothing.
* `UnitForge.Layout.reindent_reindent` — nor does laying out a source that is laid out.
* `UnitForge.Layout.format_idempotent` — formatting twice is formatting once, whatever the check of
  the syntax accepts.
-/

namespace UnitForge.Layout

variable {indent raw : Text} {s : LayoutState} {ls : List Text}

/-- In a text block the blanks at the end of a line make no difference to the next state. -/
lemma next_scanLine_trimEnd (h : s.pending = some textBlockQuote) (blankDue : Bool) :
    s.next (scanLine (Text.trimEnd raw) s.pending) blankDue =
      s.next (scanLine raw s.pending) blankDue := by
  obtain ⟨blanks, hblanks, hraw⟩ := Text.exists_trimEnd raw
  have hscan : (scanLine (Text.trimEnd raw) s.pending).outcome =
      (scanLine raw s.pending).outcome := by
    rw [h]
    conv_rhs => rw [hraw]
    exact (outcome_scanLine_append (m := .textBlock) rfl hblanks).symm
  simp only [LineScan.outcome, Prod.mk.injEq] at hscan
  obtain ⟨-, hnet, hpending⟩ := hscan
  rw [LayoutState.next, LayoutState.next, hnet, hpending]

/-- The state without a blank line that is due. -/
def LayoutState.undue (s : LayoutState) : LayoutState := { s with blankDue := false }

lemma LayoutState.undue_eq_self (h : s.blankDue = false) : s.undue = s := by
  rw [undue, ← h]

/-- A blank line brings about that a blank line is due again. -/
lemma layoutLines_undue_blank (h : s.pending ≠ some textBlockQuote) (hdue : s.blankDue = true)
    (hstarted : s.started = true) (rest : List Text) :
    layoutLines indent s.undue ([] :: rest) = layoutLines indent s rest := by
  have hs : { s.undue with blankDue := s.undue.started } = s := by
    rw [show s.undue.started = s.blankDue from hstarted.trans hdue.symm]
    rfl
  rw [layoutLines_of_blank (s := s.undue) h rfl, hs]

/-- **Laying out lines that are laid out changes nothing.** The first run may have had a blank line
due, which the second one reads as a line of its own.

**Proof sketch.** Induction on the lines, for any state that the first run can be in: a blank line
is due only after a line has been written, and never in a text block. In each of the three cases of
a line the second run reads the line that the first one wrote, comes to the same scan, and so to
the same state. -/
lemma layoutLines_layoutLines (hindent : Text.allBlank indent)
    (hstarted : s.blankDue = true → s.started = true)
    (htext : s.pending = some textBlockQuote → s.blankDue = false) :
    layoutLines indent s.undue (layoutLines indent s ls) = layoutLines indent s ls := by
  induction ls generalizing s with
  | nil => rfl
  | cons raw rest ih =>
    have hnext (scan : LineScan) : layoutLines indent (s.next scan false)
        (layoutLines indent (s.next scan false) rest) =
          layoutLines indent (s.next scan false) rest :=
      ih (s := s.next scan false) (fun h => absurd h Bool.false_ne_true) fun _ => rfl
    by_cases hpending : s.pending = some textBlockQuote
    · have hdue := htext hpending
      rw [layoutLines_of_textBlock hpending, LayoutState.undue_eq_self hdue,
        layoutLines_of_textBlock hpending, Text.trimEnd_trimEnd, next_scanLine_trimEnd hpending,
        hdue, hnext]
    by_cases hblank : Text.trim raw = []
    · rw [layoutLines_of_blank hpending hblank]
      exact ih (s := { s with blankDue := s.started }) id fun h => absurd h hpending
    · -- the line that the first run writes is trimmed to what it was trimmed to before
      have htrim : Text.trim (laidLine indent s raw) = Text.trim raw := trim_laidLine hindent
      have hlaid : laidLine indent s (laidLine indent s raw) = laidLine indent s raw := by
        rw [laidLine, htrim, laidLine]
      have hline : layoutLines indent s (laidLine indent s raw ::
            layoutLines indent (s.next (scanLine (Text.trim raw) s.pending) false) rest) =
          layoutLines indent s (raw :: rest) := by
        rw [layoutLines_of_line hpending (by rwa [htrim]), layoutLines_of_line hpending hblank,
          htrim, hlaid, hnext]
      cases hdue : s.blankDue with
      | false =>
        rw [LayoutState.undue_eq_self hdue]
        conv_lhs => rw [layoutLines_of_line hpending hblank, hdue]
        exact hline
      | true =>
        conv_lhs => rw [layoutLines_of_line hpending hblank, hdue]
        rw [if_pos rfl, List.singleton_append,
          layoutLines_undue_blank hpending hdue (hstarted hdue), hline]

/-- **Laying out a source that is laid out changes nothing**, if the indentation is of blanks that
end no line. -/
lemma reindent_reindent (hblank : Text.allBlank indent) (hunbroken : Text.Unbroken indent)
    (source : Text) : reindent indent (reindent indent source) = reindent indent source := by
  have hlines : Text.lines (reindent indent source) =
      layoutLines indent {} (Text.lines source) := by
    apply Text.lines_flatMap_newline
    exact unbroken_of_mem_layoutLines hunbroken (Text.lined_lines source).unbroken
  have htwice : layoutLines indent {} (layoutLines indent {} (Text.lines source)) =
      layoutLines indent {} (Text.lines source) :=
    layoutLines_layoutLines (s := {}) hblank (fun h => absurd h Bool.false_ne_true) fun _ => rfl
  conv_lhs => rw [reindent, hlines, htwice]
  rfl

/-- **Formatting is idempotent.** If the check of the syntax accepts a source, and also what the
source is formatted to by an indentation of spaces and tabs, then formatting that once more gives
it back. -/
theorem format_idempotent (check : Text → Option Int) (indent source : Text)
    (hindent : ∀ c ∈ indent, c = ' ' ∨ c = '\t') (hsource : check source = none)
    (hout : ∀ out, formatPlain check indent source = .ok out → check out = none) :
    ∃ out, formatPlain check indent source = .ok out ∧ formatPlain check indent out = .ok out := by
  have hformat {text : Text} (h : check text = none) :
      formatPlain check indent text = .ok (reindent indent text) := by
    rw [formatPlain, h]
  obtain ⟨hblank, hunbroken⟩ := blank_of_spaces hindent
  refine ⟨reindent indent source, hformat hsource, ?_⟩
  rw [hformat (hout _ (hformat hsource)), reindent_reindent hblank hunbroken]

/-- A class with a comment and a text block, with several kinds of line separators. -/
def unevenClass : Text :=
  Text.lit "class A \x7b\r\n/* \x7b\r* \x7d\n*/\n\n\n" ++
    Text.lit "String s = \"\"\"\n  \x7d  \n\n \"\"\";\n\x7d"

/-- The class laid out. -/
def evenClass : Text :=
  Text.lit "class A \x7b\n  /* \x7b\n   * \x7d\n   */\n\n" ++
    Text.lit "  String s = \"\"\"\n  \x7d\n\n \"\"\";\n\x7d\n"

/-- The class is formatted by a check of the syntax that accepts it and what becomes of it, and
nothing else. -/
theorem format_idempotent_class :
    let check := fun text => if text = unevenClass ∨ text = evenClass then none else some 1
    ∃ out, formatPlain check standardIndent unevenClass = .ok out ∧
      formatPlain check standardIndent out = .ok out := by
  intro check
  have hsource : check unevenClass = none := if_pos (.inl rfl)
  have hindent : ∀ c ∈ standardIndent, c = ' ' ∨ c = '\t' :=
    fun c hc => .inl (List.eq_of_mem_replicate (n := 2) hc)
  refine format_idempotent check standardIndent unevenClass hindent hsource fun out h => ?_
  rw [formatPlain, hsource] at h
  have hout : out = evenClass := (Except.ok.inj h).symm.trans (by decide +kernel)
  exact if_pos (.inr hout)

end UnitForge.Layout
