import UnitForge.Proofs.CodeBraces

set_option autoImplicit false

/-!
# Scanning line by line

The scan goes from line to line and passes on nothing but the terminator of what a line leaves open.
The automaton reads the text in which the lines are joined from its first character to its last, and
starts a new count of braces after each end of a line. Both tell the same of every line.

## Main definitions

* `UnitForge.Layout.scanLines` — the scans of several lines, one after the other.
* `UnitForge.Layout.Tally.closed` — the tallies of the lines of a text that is read in one go.

## Main results

* `UnitForge.Layout.Tally.closed_join` — reading the joined text tallies line after line.
* `UnitForge.Layout.outcome_scanLine_padded` — blanks around a line change nothing of its scan.
* `UnitForge.Layout.scan_agrees_with_reading` — the scans tell of each line what the automaton
  tells.
-/

namespace UnitForge.Layout

variable {m : Mode} {sep : Char} {line : Text} {lines : List Text}

/-- The scans of lines one after the other, where `opened` is the terminator of what was left open
before the first of them. -/
def scanLines (opened : Option Text) : List Text → List LineScan
  | [] => []
  | line :: rest => scanLine line opened :: scanLines (scanLine line opened).pending rest

namespace Tally

/-! ## A text read in one go -/

/-- The tally at the start of the next line. -/
def endLine (t : Tally) : Tally := ⟨t.mode.endLine, {}⟩

/-- The tallies of the lines of a text, each as it stands at the end of its line. The text is read
character by character; one that ends a line closes the tally of that line and begins another. -/
def closed (t : Tally) : Text → List Tally
  | [] => [t]
  | c :: rest => if Text.isLineBreak c then t :: t.endLine.closed rest else (t.next c).closed rest

/-- A text that ends no line is one line. -/
lemma closed_of_unbroken (t : Tally) (h : Text.Unbroken line) :
    t.closed line = [t.across line] := by
  induction line generalizing t with
  | nil => rfl
  | cons c rest ih =>
    obtain ⟨hc, hrest⟩ := List.forall_mem_cons.1 h
    rw [closed, hc, if_neg Bool.false_ne_true, ih _ hrest, across_cons]

/-- **The end of the first line** closes its tally, and the next one begins. -/
lemma closed_append_cons (t : Tally) (h : Text.Unbroken line) (hsep : Text.isLineBreak sep)
    (rest : Text) :
    t.closed (line ++ sep :: rest) = t.across line :: (t.across line).endLine.closed rest := by
  induction line generalizing t with
  | nil => rw [List.nil_append, closed, if_pos hsep, across_nil]
  | cons c line ih =>
    obtain ⟨hc, hline⟩ := List.forall_mem_cons.1 h
    rw [List.cons_append, closed, hc, if_neg Bool.false_ne_true, ih _ hline, across_cons]

/-- The tallies of lines one after the other, where each line starts as the one before it ends. -/
def each (t : Tally) : List Text → List Tally
  | [] => []
  | line :: rest => t.across line :: (t.across line).endLine.each rest

/-- **Reading the joined text tallies line after line.** -/
lemma closed_join (t : Tally) (h : ∀ line ∈ lines, Text.Unbroken line) (hne : lines ≠ [])
    (hsep : Text.isLineBreak sep) : t.closed (Text.join [sep] lines) = t.each lines := by
  induction lines generalizing t with
  | nil => exact absurd rfl hne
  | cons line rest ih =>
    obtain ⟨hline, hrest⟩ := List.forall_mem_cons.1 h
    by_cases hlast : rest = []
    · subst hlast
      rw [Text.join, closed_of_unbroken t hline, each, each]
    · rw [Text.join_cons hlast, closed_append_cons t hline hsep, ih _ hrest hlast, each]

end Tally

/-! ## The scans of lines -/

/-- A line is scanned as the automaton tallies it, and the next line starts in the same mode for
both. -/
lemma scanLine_step (hm : m.endLine = m) (line : Text) :
    (scanLine line m.pending).outcome = (Tally.across ⟨m, {}⟩ line).outcome ∧
      (scanLine line m.pending).pending = (Tally.across ⟨m, {}⟩ line).endLine.mode.pending := by
  have houtcome : (scanLine line m.pending).outcome = (Tally.across ⟨m, {}⟩ line).outcome :=
    outcome_scanLine hm
  refine ⟨houtcome, ?_⟩
  rw [Tally.endLine, Mode.pending_endLine]
  exact congrArg (·.2.2) houtcome

/-- **The scans of lines tell what their tallies tell**, where the first line starts in the given
mode. -/
lemma outcome_scanLines (hm : m.endLine = m) (lines : List Text) :
    (scanLines m.pending lines).map LineScan.outcome =
      (Tally.each ⟨m, {}⟩ lines).map Tally.outcome := by
  induction lines generalizing m with
  | nil => rfl
  | cons line rest ih =>
    obtain ⟨houtcome, hpending⟩ := scanLine_step hm line
    have hrest := ih (Mode.endLine_endLine (Tally.across ⟨m, {}⟩ line).mode)
    rw [scanLines, List.map_cons, houtcome, hpending, Tally.each, List.map_cons]
    exact congrArg (_ :: ·) hrest

/-- **Blanks around a line change nothing of its scan.** -/
lemma outcome_scanLine_padded {front back : Text} (hm : m.endLine = m)
    (hfront : Text.allBlank front) (hback : Text.allBlank back) (line : Text) :
    (scanLine (front ++ (line ++ back)) m.pending).outcome = (scanLine line m.pending).outcome := by
  rw [outcome_scanLine hm, outcome_scanLine hm, Tally.across_append,
    Tally.across_of_allBlank hm hfront, Tally.across_append,
    Tally.outcome_across_of_allBlank _ hback]

/-! ## The scan and the automaton -/

/-- **Scanning lines one by one agrees with reading their text in one go.** Let the first line start
in code, in a block comment or in a text block. Then the scans of the lines tell what the automaton
tells of each line when it reads the lines joined by some separator: the closing braces before any
other code, the change of the number of open braces, and what is left open for the next line. Blanks
at the two ends of a line change none of the three.

**Proof sketch.** A line is scanned as the automaton tallies it (`outcome_scanLine`), and what the
scan passes on is the terminator of what the automaton leaves open; so it is one induction on the
lines (`outcome_scanLines`). Reading the joined text closes one tally for each line
(`Tally.closed_join`). -/
theorem scan_agrees_with_reading (hm : m = .code ∨ m = .blockComment ∨ m = .textBlock)
    (hsep : Text.isLineBreak sep) (h : ∀ line ∈ lines, Text.Unbroken line) :
    (lines ≠ [] → (scanLines m.pending lines).map LineScan.outcome =
        (Tally.closed ⟨m, {}⟩ (Text.join [sep] lines)).map Tally.outcome) ∧
      ∀ line front back : Text, Text.allBlank front → Text.allBlank back →
        (scanLine (front ++ (line ++ back)) m.pending).outcome =
          (scanLine line m.pending).outcome := by
  have hstart : m.endLine = m := by
    rcases hm with rfl | rfl | rfl <;> rfl
  refine ⟨fun hne => ?_, fun line front back hfront hback => ?_⟩
  · rw [outcome_scanLines hstart, Tally.closed_join _ h hne hsep]
  · exact outcome_scanLine_padded hstart hfront hback line

/-- Lines with a comment, with a literal that ends in a backslash and with a text block that holds
an escaped delimiter. The first of them ends a block comment. -/
def tangledLines : List Text :=
  [Text.lit "\x7b */ \x7d \x7d // \x7b", Text.lit "char c = '\x7b\\", Text.lit "s = \"\"\" \x7b",
    Text.lit "\\\"\"\" \x7d \\", Text.lit "\"\"\"; \x7b /* \x7d"]

/-- The lines are scanned in a block comment as they are read in one go. -/
theorem scan_agrees_with_reading_tangled :
    (∀ line ∈ tangledLines, Text.Unbroken line) ∧
      (scanLines (some blockCommentEnd) tangledLines).map LineScan.outcome =
        (Tally.closed ⟨.blockComment, {}⟩ (Text.join ['\n'] tangledLines)).map Tally.outcome ∧
      (scanLines (some blockCommentEnd) tangledLines).map LineScan.outcome =
        [(2, -2, none), (0, 0, none), (0, 0, some textBlockQuote), (0, 0, some textBlockQuote),
          (0, 1, some blockCommentEnd)] := by
  have hlines : ∀ line ∈ tangledLines, Text.Unbroken line := by decide +kernel
  have hbreak : Text.isLineBreak '\n' = true := rfl
  have hagree := scan_agrees_with_reading (.inr (.inl (Eq.refl Mode.blockComment))) hbreak hlines
  exact ⟨hlines, hagree.1 (List.cons_ne_nil _ _), by decide +kernel⟩

end UnitForge.Layout
