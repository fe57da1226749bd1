import Mathlib.Data.List.Forall2
import UnitForge.Proofs.BraceDepth

set_option autoImplicit false

/-!
# The layout is canonical

The formatter keeps each line of a source that is not blank, and each line in a text block. Of the
lines left out between two kept ones it only remembers whether there were any. So a kept line and
what was left out before it make up one block of the layout, and the layout is these blocks in the
order of the lines.

## Main definitions

* `UnitForge.Layout.Kept` — the lines of a source that are kept.
* `UnitForge.Layout.keptLines` — these lines, with the number of lines left out before each.
* `UnitForge.Layout.LaidOut` — what is to be laid out of a line that is kept.
* `UnitForge.Layout.LayoutState.Owes` — the layout has a blank line due if lines were left out.

## Main results

* `UnitForge.Layout.map_snd_keptLines` — the kept lines are those that are not blank or start in a
  text block.
* `UnitForge.Layout.LayoutState.Owes.laidOut_written`, `UnitForge.Layout.LayoutState.Owes.past` —
  one line of a source.
* `UnitForge.Layout.LayoutState.Owes.laysOutKept` — all of its lines.
* `UnitForge.Layout.layout_is_canonical` — what the formatter makes of a source.
-/

namespace UnitForge.Layout

variable {indent before rest raw sep : Text} {places : List (Text × Text)} {gap : Option Nat}

/-! ## The lines that are kept -/

/-- A line of a source, given with what stands before it, is kept if it starts in a text block or is
not blank. -/
def Kept (place : Text × Text) : Prop :=
  modeAfter place.1 = .textBlock ∨ ¬Text.allBlank place.2

instance (place : Text × Text) : Decidable (Kept place) :=
  inferInstanceAs (Decidable (modeAfter place.1 = .textBlock ∨ ¬Text.allBlank place.2))

/-- The number of lines left out since the last line that was kept, if one was kept, where `gap` is
that number before the given line. -/
def gapAfter (gap : Option Nat) (place : Text × Text) : Option Nat :=
  if Kept place then some 0 else gap.map (· + 1)

/-- The lines that are kept, each with the number of lines left out between it and the line kept
before it, where `gap` is the number of lines left out before all these lines. -/
def keptFrom (gap : Option Nat) : List (Text × Text) → List (Option Nat × (Text × Text))
  | [] => []
  | place :: rest =>
    (if Kept place then [(gap, place)] else []) ++ keptFrom (gapAfter gap place) rest

/-- The lines of a source that are kept, each with the number of lines left out between it and the
line kept before it. For the first of them there is no such number. -/
def keptLines (source : Text) : List (Option Nat × (Text × Text)) :=
  keptFrom none (placedLines source)

private lemma map_snd_keptFrom (gap : Option Nat) (places : List (Text × Text)) :
    (keptFrom gap places).map Prod.snd = places.filter (Kept ·) := by
  induction places generalizing gap with
  | nil => rfl
  | cons place rest ih =>
    rw [keptFrom, List.map_append, ih]
    by_cases hkept : Kept place <;> simp [hkept]

/-- The kept lines are those that are not blank or start in a text block. -/
lemma map_snd_keptLines (source : Text) :
    (keptLines source).map Prod.snd = (placedLines source).filter (Kept ·) :=
  map_snd_keptFrom none _

/-- No number of lines belongs to the first line that is kept. -/
private lemma fst_of_mem_head?_keptFrom (places : List (Text × Text)) :
    ∀ kept ∈ (keptFrom none places).head?, kept.1 = none := by
  induction places with
  | nil => simp [keptFrom]
  | cons place rest ih =>
    by_cases hkept : Kept place
    · simp [keptFrom, hkept]
    · simpa [keptFrom, gapAfter, hkept] using ih

/-- A blank line opens and closes no text block. -/
lemma modeAfter_of_allBlank (hraw : Text.allBlank raw) (hsep : Text.IsSeparator sep) :
    modeAfter (before ++ (raw ++ sep)) = (modeAfter before).endLine := by
  rw [modeAfter, Mode.after_append, Mode.after_append, Mode.after_separator _ hsep,
    Mode.endLine_after_of_allBlank hraw]
  rfl

/-- A blank line is kept only in a text block. -/
lemma not_kept_of_allBlank (hmode : (modeAfter before).endLine ≠ .textBlock)
    (hraw : Text.allBlank raw) : ¬Kept (before, raw) := by
  rintro (htext | hnot)
  · exact hmode (congrArg Mode.endLine htext)
  · exact hnot hraw

namespace Placed

/-- **Of blank lines none is kept**, unless a text block is open before them. -/
lemma not_kept (h : Placed before rest places) (hmode : (modeAfter before).endLine ≠ .textBlock)
    (hblank : ∀ place ∈ places, Text.allBlank place.2) : ∀ place ∈ places, ¬Kept place := by
  induction h with
  | nil => exact fun _ hm => absurd hm List.not_mem_nil
  | last =>
    have hline := List.forall_mem_singleton.1 hblank
    exact List.forall_mem_singleton.2 (not_kept_of_allBlank hmode hline)
  | cons _ hsep _ ih =>
    obtain ⟨hline, hrest⟩ := List.forall_mem_cons.1 hblank
    refine List.forall_mem_cons.2 ⟨not_kept_of_allBlank hmode hline, ih ?_ hrest⟩
    rwa [modeAfter_of_allBlank hline hsep, Mode.endLine_endLine]

/-- If no line is kept after the start of a text block, then nothing stands there. -/
lemma eq_nil_of_not_kept (h : Placed before rest places) (hmode : modeAfter before = .textBlock)
    (hnone : places.filter (Kept ·) = []) : rest = [] := by
  have hkept (line : Text) : Kept (before, line) := .inl hmode
  cases h with
  | nil => rfl
  | last => simp [hkept] at hnone
  | cons => simp [hkept] at hnone

/-- **The last line that is kept is not blank**, unless the source ends in a text block.

**Proof sketch.** Induction along the lines of the source: a blank line that is kept stands in a
text block, which is still open after it, so that the next line is kept as well. -/
lemma last_kept (h : Placed before rest places)
    (hmode : (modeAfter (before ++ rest)).endLine ≠ .textBlock) :
    ∀ place ∈ (places.filter (Kept ·)).getLast?, ¬Text.allBlank place.2 := by
  induction h with
  | nil => simp
  | @last before line _ _ =>
    intro place hm hblank
    have hplace := List.mem_filter.1 (List.mem_of_mem_getLast? hm)
    obtain rfl := List.mem_singleton.1 hplace.1
    refine not_kept_of_allBlank ?_ hblank (of_decide_eq_true hplace.2)
    rwa [modeAfter, Mode.after_append, Mode.endLine_after_of_allBlank hblank] at hmode
  | @cons before line sep rest places hline hsep hrest ih =>
    have hrestMode : (modeAfter (before ++ (line ++ sep) ++ rest)).endLine ≠ .textBlock := by
      simpa using hmode
    intro place hm
    rw [← List.singleton_append, List.filter_append] at hm
    by_cases hnone : places.filter (Kept ·) = []
    · rw [hnone, List.append_nil] at hm
      obtain ⟨hplace, hkept⟩ := List.mem_filter.1 (List.mem_of_mem_getLast? hm)
      obtain rfl := List.mem_singleton.1 hplace
      intro hblank
      have htext : modeAfter before = .textBlock :=
        (of_decide_eq_true hkept).resolve_right (not_not_intro hblank)
      have hafter : modeAfter (before ++ (line ++ sep)) = .textBlock := by
        rw [modeAfter_of_allBlank hblank hsep, htext]
        rfl
      rw [hrest.eq_nil_of_not_kept hafter hnone, List.append_nil, hafter] at hrestMode
      exact hrestMode rfl
    · rw [List.getLast?_append_of_ne_nil _ hnone] at hm
      exact ih hrestMode place hm

end Placed

/-- **No line of a source is kept if all of them are blank**, and only then. -/
lemma keptLines_eq_nil_iff (source : Text) :
    keptLines source = [] ↔ ∀ line ∈ Text.lines source, Text.allBlank line := by
  rw [← List.map_eq_nil_iff, map_snd_keptLines, List.filter_eq_nil_iff, ← map_snd_placedLines,
    List.forall_mem_map]
  constructor
  · intro hnone place hplace
    by_contra hblank
    exact hnone place hplace (decide_eq_true (.inr hblank))
  · intro hblank place hplace hkept
    have hmode : (modeAfter []).endLine ≠ .textBlock := by decide
    exact (placed_placedLines source).not_kept hmode hblank place hplace (of_decide_eq_true hkept)

/-! ## What is laid out of a line -/

/-- One blank line is laid out before a line if any was left out since the line kept before. -/
def separators (gap : Option Nat) : List Text := if gap.any (0 < ·) then [[]] else []

/-- In a text block a line is laid out as it is, but for the blanks at its end; outside of text
blocks it is the same but for the blanks around it. -/
def SameText (place : Text × Text) (line : Text) : Prop :=
  if modeAfter place.1 = .textBlock then line = Text.trimEnd place.2
  else Text.trim line = Text.trim place.2

/-- What is laid out of a kept line: the line itself, after a blank line if one is due. -/
def LaidOut (kept : Option Nat × (Text × Text)) (block : List Text) : Prop :=
  ∃ line, block = separators kept.1 ++ [line] ∧ SameText kept.2 line

/-- Something is laid out of a line that is not blank. -/
lemma SameText.ne_nil {place : Text × Text} {line : Text} (h : SameText place line)
    (hplace : ¬Text.allBlank place.2) : line ≠ [] := by
  rintro rfl
  unfold SameText at h
  split at h
  · obtain ⟨back, hback, hraw⟩ := Text.exists_trimEnd place.2
    rw [← h, List.nil_append] at hraw
    exact hplace (hraw ▸ hback)
  · exact hplace (trim_eq_nil_iff.1 h.symm)

section Blocks

variable {kept : List (Option Nat × (Text × Text))} {blocks : List (List Text)}

/-- Nothing is laid out if no line is kept, and only then. -/
lemma flatten_laidOut_eq_nil_iff (h : List.Forall₂ LaidOut kept blocks) :
    blocks.flatten = [] ↔ kept = [] := by
  cases h with
  | nil => simp
  | cons hlaid _ =>
    obtain ⟨line, rfl, -⟩ := hlaid
    simp

/-- No blank line is laid out before the first line that is kept. -/
lemma first_laidOut (h : List.Forall₂ LaidOut (keptFrom none places) blocks) :
    ∀ block ∈ blocks.head?, ∃ line, block = [line] := by
  have hfirst := fst_of_mem_head?_keptFrom places
  intro block hblock
  cases h' : keptFrom none places with
  | nil =>
    rw [h'] at h
    cases h
    simp at hblock
  | cons kept others =>
    rw [h'] at h hfirst
    cases h with
    | cons hlaid _ =>
      obtain ⟨line, rfl, -⟩ := hlaid
      rw [← Option.some.inj hblock, hfirst kept rfl]
      exact ⟨line, rfl⟩

/-- The last line of the layout is laid out of the last line that is kept. -/
lemma last_laidOut (h : List.Forall₂ LaidOut kept blocks) (hne : blocks.flatten ≠ []) :
    ∃ front line, ∃ place ∈ (kept.map Prod.snd).getLast?,
      blocks.flatten = front ++ [line] ∧ SameText place line := by
  induction h with
  | nil => exact absurd rfl hne
  | @cons kept block others blocks hlaid hrest ih =>
    obtain ⟨line, rfl, hsame⟩ := hlaid
    cases hrest with
    | nil => exact ⟨separators kept.1, line, kept.2, rfl, by simp, hsame⟩
    | @cons next nextBlock others blocks hnext hrest =>
      have hothers : (nextBlock :: blocks).flatten ≠ [] := by
        obtain ⟨other, rfl, -⟩ := hnext
        simp
      obtain ⟨front, last, place, hplace, hflat, hlast⟩ := ih hothers
      refine ⟨separators kept.1 ++ [line] ++ front, last, place, ?_, ?_, hlast⟩
      · rwa [List.map_cons, List.map_cons, List.getLast?_cons_cons, ← List.map_cons]
      · rw [List.flatten_cons, hflat, List.append_assoc _ front]

end Blocks

/-- No line that is written of a line has a blank at its end. -/
lemma trimEnd_of_mem_written (indent : Text) (s : LayoutState) (raw : Text) :
    ∀ line ∈ written indent s raw, Text.trimEnd line = line := by
  unfold written
  split
  · simp
  split
  · simp
  next hraw =>
    have hlaid : Text.trimEnd (laidLine indent s raw) = laidLine indent s raw := by
      refine List.rdropWhile_eq_self_iff.2 fun hne => ?_
      have hlast : (laidLine indent s raw).getLast hne ∈ (Text.trim raw).getLast? := by
        rw [Option.mem_def, ← List.getLast?_append_of_ne_nil _ hraw]
        exact List.getLast?_eq_some_getLast hne
      rw [Text.isBlank_of_mem_getLast?_trimEnd hlast]
      decide
    split <;> simp [hlaid, show Text.trimEnd [] = [] from rfl]

/-- **No line that is laid out has a blank at its end.** -/
lemma trimEnd_of_mem_layoutLines (indent : Text) (s : LayoutState) (ls : List Text) :
    ∀ line ∈ layoutLines indent s ls, Text.trimEnd line = line := by
  induction ls generalizing s with
  | nil => exact fun _ hm => absurd hm List.not_mem_nil
  | cons raw rest ih =>
    rw [layoutLines_cons]
    exact List.forall_mem_append.2 ⟨trimEnd_of_mem_written indent s raw, ih _⟩

/-! ## From line to line -/

namespace LayoutState

variable {s : LayoutState}

/-- The layout is where the source is after a text, and a blank line is due if lines have been left
out since the last one that was kept. -/
structure Owes (s : LayoutState) (before : Text) (gap : Option Nat) : Prop where
  /-- The next line starts in the mode that the source is in. -/
  standsIn : s.StandsIn (modeAfter before)
  /-- A line has been written if one was kept. -/
  started : s.started = gap.isSome
  /-- A blank line is due if lines have been left out. -/
  blankDue : s.blankDue = gap.any (0 < ·)
  /-- None is due in a text block. -/
  textBlock : modeAfter before = .textBlock → s.blankDue = false

namespace Owes

variable (h : s.Owes before gap)

include h

/-- **A line that is kept is laid out**, after a blank line if lines were left out before it. -/
lemma laidOut_written (hindent : Text.allBlank indent) (hkept : Kept (before, raw)) :
    LaidOut (gap, (before, raw)) (written indent s raw) := by
  have hseparators : separators gap = if s.blankDue then [[]] else [] := by
    rw [h.blankDue, separators]
  rw [LaidOut, hseparators]
  by_cases htext : modeAfter before = .textBlock
  · have hstands := h.standsIn
    rw [htext] at hstands
    rw [hstands.written_textBlock, h.textBlock htext]
    refine ⟨Text.trimEnd raw, rfl, ?_⟩
    rw [SameText, if_pos htext]
  · have hraw : Text.trim raw ≠ [] := fun hnil =>
      hkept.elim htext fun hnot => hnot (trim_eq_nil_iff.1 hnil)
    rw [written, if_neg (h.standsIn.pending_ne htext), if_neg hraw]
    refine ⟨laidLine indent s raw, rfl, ?_⟩
    rw [SameText, if_neg htext]
    exact trim_laidLine hindent

/-- Of a line that is not kept nothing is laid out. -/
lemma written_of_not_kept (hkept : ¬Kept (before, raw)) : written indent s raw = [] := by
  rw [Kept, not_or, not_not] at hkept
  exact written_of_blank (h.standsIn.pending_ne hkept.1) hkept.2

/-- **The layout remembers after a line whether lines have been left out.** -/
lemma past (hraw : Text.Unbroken raw) (hsep : Text.IsSeparator sep) :
    (s.past raw).Owes (before ++ (raw ++ sep)) (gapAfter gap (before, raw)) := by
  have hstands := h.standsIn.past_separator hraw hsep
  by_cases htext : modeAfter before = .textBlock
  · have hkept : Kept (before, raw) := .inl htext
    have hpending : s.pending = some textBlockQuote := by
      rw [h.standsIn.pending, htext]
      rfl
    have hdue := h.textBlock htext
    rw [gapAfter, if_pos hkept]
    rw [LayoutState.past, if_pos hpending] at hstands ⊢
    exact ⟨hstands, rfl, hdue, fun _ => hdue⟩
  have hpending := h.standsIn.pending_ne htext
  by_cases hblank : Text.allBlank raw
  · have hkept : ¬Kept (before, raw) := by simp [Kept, htext, hblank]
    rw [gapAfter, if_neg hkept]
    rw [LayoutState.past, if_neg hpending, if_pos (trim_eq_nil_iff.2 hblank)] at hstands ⊢
    refine ⟨hstands, ?_, ?_, fun hafter => ?_⟩
    · rw [Option.isSome_map]
      exact h.started
    · rw [h.started]
      cases gap <;> simp
    · rw [modeAfter_of_allBlank hblank hsep, h.standsIn.start] at hafter
      exact absurd hafter htext
  · have hkept : Kept (before, raw) := .inr hblank
    rw [gapAfter, if_pos hkept]
    rw [LayoutState.past, if_neg hpending, if_neg (mt trim_eq_nil_iff.1 hblank)] at hstands ⊢
    exact ⟨hstands, rfl, rfl, fun _ => rfl⟩

end Owes

/-- Of the given lines those that are kept are laid out one by one. -/
def LaysOutKept (s : LayoutState) (indent : Text) (gap : Option Nat)
    (places : List (Text × Text)) : Prop :=
  ∃ blocks : List (List Text), layoutLines indent s (places.map Prod.snd) = blocks.flatten ∧
    List.Forall₂ LaidOut (keptFrom gap places) blocks

/-- No line is kept where there is none. -/
lemma laysOutKept_nil (s : LayoutState) (indent : Text) (gap : Option Nat) :
    s.LaysOutKept indent gap [] :=
  ⟨[], rfl, .nil⟩

/-- A line is laid out or left out, and then the lines after it. -/
lemma Owes.laysOutKept_cons (h : s.Owes before gap) (hindent : Text.allBlank indent)
    (hrest : (s.past raw).LaysOutKept indent (gapAfter gap (before, raw)) places) :
    s.LaysOutKept indent gap ((before, raw) :: places) := by
  obtain ⟨blocks, hlines, hblocks⟩ := hrest
  rw [LaysOutKept, List.map_cons, layoutLines_cons, hlines, keptFrom]
  by_cases hkept : Kept (before, raw)
  · rw [if_pos hkept]
    exact ⟨written indent s raw :: blocks, rfl, .cons (h.laidOut_written hindent hkept) hblocks⟩
  · rw [if_neg hkept, h.written_of_not_kept hkept]
    exact ⟨blocks, rfl, hblocks⟩

/-- **The lines that are kept are laid out one by one.** -/
lemma Owes.laysOutKept (h : s.Owes before gap) (hindent : Text.allBlank indent)
    (hplaced : Placed before rest places) : s.LaysOutKept indent gap places := by
  induction hplaced generalizing s gap with
  | nil => exact s.laysOutKept_nil indent gap
  | last => exact h.laysOutKept_cons hindent (laysOutKept_nil _ indent _)
  | cons hline hsep _ ih => exact h.laysOutKept_cons hindent (ih (h.past hline hsep))

/-- A layout begins with nothing kept and nothing due. -/
lemma owes_start : ({} : LayoutState).Owes [] none :=
  ⟨fits_start.standsIn, rfl, rfl, fun _ => rfl⟩

end LayoutState

/-! ## Formatting -/

/-- Lines that are each ended by a newline end with one newline if the last of them is not empty. -/
lemma exists_flatMap_newline {front : List Text} {line : Text} (hne : line ≠ [])
    (hline : Text.Unbroken line) :
    ∃ text c, (front ++ [line]).flatMap (· ++ ['\n']) = text ++ [c, '\n'] ∧ c ≠ '\n' := by
  obtain ⟨init, c, rfl⟩ := (List.eq_nil_or_concat' line).resolve_left hne
  refine ⟨front.flatMap (· ++ ['\n']) ++ init, c, ?_, ?_⟩
  · simp
  · rintro rfl
    exact absurd (hline '\n' (by simp)) (by decide)

/-- **The layout of a source is canonical.** The formatter lays out, one by one and in their order,
the lines of the source that are not blank or start in a text block. In a text block a line is kept
but for the blanks at its end, and elsewhere but for the blanks around it. Between two of these
lines stands one blank line if lines of the source were left out between them, and else none; no
blank line stands before the first of them. No line of the layout has a blank at its end. The layout
is empty if all lines of the source are blank, and only then; otherwise it ends with one newline,
unless the source ends in a text block. -/
theorem layout_is_canonical (check : Text → Option Int) (indent source : Text)
    (hindent : ∀ c ∈ indent, c = ' ' ∨ c = '\t') (hsource : check source = none) :
    ∃ (out : Text) (blocks : List (List Text)),
      formatPlain check indent source = .ok out ∧
      out = blocks.flatten.flatMap (· ++ ['\n']) ∧
      Text.lines out = blocks.flatten ∧
      (placedLines source).map Prod.snd = Text.lines source ∧
      (keptLines source).map Prod.snd = (placedLines source).filter (Kept ·) ∧
      List.Forall₂ LaidOut (keptLines source) blocks ∧
      (∀ block ∈ blocks.head?, ∃ line, block = [line]) ∧
      (∀ line ∈ Text.lines out, Text.trimEnd line = line) ∧
      (out = [] ↔ ∀ line ∈ Text.lines source, Text.allBlank line) ∧
      ((modeAfter source).endLine ≠ .textBlock → out ≠ [] →
        ∃ text c, out = text ++ [c, '\n'] ∧ c ≠ '\n') := by
  obtain ⟨hblank, hunbroken⟩ := blank_of_spaces hindent
  have hplaced := placed_placedLines source
  obtain ⟨blocks, hlines, hblocks⟩ := LayoutState.owes_start.laysOutKept hblank hplaced
  rw [map_snd_placedLines] at hlines
  have hout : reindent indent source = blocks.flatten.flatMap (· ++ ['\n']) := by
    rw [reindent, hlines]
  have hwhole : ∀ line ∈ blocks.flatten, Text.Unbroken line := by
    rw [← hlines]
    exact unbroken_of_mem_layoutLines hunbroken (Text.lined_lines source).unbroken
  have hread : Text.lines (reindent indent source) = blocks.flatten := by
    rw [hout, Text.lines_flatMap_newline hwhole]
  have hempty : reindent indent source = [] ↔ blocks.flatten = [] := by
    rw [hout]
    cases blocks.flatten <;> simp
  refine ⟨reindent indent source, blocks, by rw [formatPlain, hsource], hout, hread,
    map_snd_placedLines source, map_snd_keptLines source, hblocks, first_laidOut hblocks,
    ?_, ?_, ?_⟩
  · rw [hread, ← hlines]
    exact trimEnd_of_mem_layoutLines indent {} _
  · rw [hempty, flatten_laidOut_eq_nil_iff hblocks]
    exact keptLines_eq_nil_iff source
  · intro hmode hne
    obtain ⟨front, line, place, hplace, hflat, hsame⟩ := last_laidOut hblocks (mt hempty.2 hne)
    rw [map_snd_keptFrom] at hplace
    rw [hout, hflat]
    apply exists_flatMap_newline
    · exact hsame.ne_nil (hplaced.last_kept hmode place hplace)
    · exact hwhole line (hflat ▸ List.mem_concat_self)

/-- A class with blank lines before it, between its lines, in a block comment and in a text block,
and with several kinds of line separators. -/
def spacedClass : Text :=
  Text.lit " \n\nclass A \x7b \r\n\n\t\n/* \n\n*/\u2028String s = \"\"\"\n\n  a \n" ++
    Text.lit "\"\"\";\r\x7d\n\n"

/-- The class is laid out with one blank line for each run of them outside of the text block. -/
theorem layout_is_canonical_class :
    (keptLines spacedClass).map Prod.fst =
      [none, some 2, some 1, some 0, some 0, some 0, some 0, some 0] ∧
    ∃ (out : Text) (blocks : List (List Text)),
      formatPlain (fun _ => none) standardIndent spacedClass = .ok out ∧
      List.Forall₂ LaidOut (keptLines spacedClass) blocks ∧
      Text.lines out = blocks.flatten ∧
      ∃ text c, out = text ++ [c, '\n'] ∧ c ≠ '\n' := by
  have hindent : ∀ c ∈ standardIndent, c = ' ' ∨ c = '\t' :=
    fun c hc => .inl (List.eq_of_mem_replicate (n := 2) hc)
  obtain ⟨out, blocks, hformat, -, hread, -, -, hblocks, -, -, hempty, hend⟩ :=
    layout_is_canonical (fun _ => none) standardIndent spacedClass hindent rfl
  refine ⟨by decide +kernel, out, blocks, hformat, hblocks, hread, ?_⟩
  refine hend (by decide +kernel) (mt hempty.1 ?_)
  decide +kernel

end UnitForge.Layout
