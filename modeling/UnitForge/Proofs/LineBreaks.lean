import Mathlib.Data.List.DropRight
import UnitForge.Proofs.Segments
import UnitForge.Text.Lines

set_option autoImplicit false

/-!
# Lines and the blanks around them

Cutting a text into lines loses its separators and nothing else, and lines that are each ended by
a newline are read back as they were. Trimming takes blanks from the two ends of a text and
nothing else, so what stands in a line without a blank at its own ends still stands in the trimmed
line.

## Main definitions

* `UnitForge.Text.Unbroken` — no character of a text ends a line.
* `UnitForge.Text.Lined` — a text is certain lines with separators after them.

## Main results

* `UnitForge.Text.lined_lines` — a text is its lines with separators after them.
* `UnitForge.Text.lines_flatMap_newline` — lines that are each ended by a newline are read back.
* `UnitForge.Text.Lined.exists_line` — a piece that holds no separator stands in one line.
* `UnitForge.Text.infix_trim` — trimming a text keeps each piece with no blank at its ends.
-/

namespace UnitForge.Text

variable {text piece blanks front back : Text}

/-! ## Blanks at the ends of a text -/

/-- A blank is no other character. -/
lemma ne_of_isBlank {c d : Char} (hc : isBlank c) (hd : isBlank d = false) : c ≠ d := by
  rintro rfl
  exact absurd hc (Bool.eq_false_iff.1 hd)

lemma allBlank_iff : allBlank text = true ↔ ∀ c ∈ text, isBlank c = true := List.all_eq_true

lemma allBlank_append (hfront : allBlank front) (hback : allBlank back) :
    allBlank (front ++ back) := by
  rw [allBlank, List.all_append, Bool.and_eq_true]
  exact ⟨hfront, hback⟩

@[simp] lemma trimEnd_trimEnd (text : Text) : trimEnd (trimEnd text) = trimEnd text :=
  List.rdropWhile_idempotent isBlank text

/-- What trimming takes from the end of a text is blank. -/
lemma exists_trimEnd (text : Text) : ∃ back, allBlank back ∧ text = trimEnd text ++ back :=
  ⟨text.rtakeWhile isBlank, List.all_eq_true.2 fun _ => List.mem_rtakeWhile_imp,
    List.rdropWhile_append_rtakeWhile.symm⟩

/-- What trimming takes from the two ends of a text is blank. -/
lemma exists_trim (text : Text) :
    ∃ front back, allBlank front ∧ allBlank back ∧ text = front ++ trim text ++ back := by
  obtain ⟨back, hback, h⟩ := exists_trimEnd (trimStart text)
  refine ⟨text.takeWhile isBlank, back, List.all_eq_true.2 fun _ => List.mem_takeWhile_imp,
    hback, ?_⟩
  rw [List.append_assoc, trim, ← h, trimStart, List.takeWhile_append_dropWhile]

/-- Trimming a text takes blanks before it as well. -/
lemma trim_append_of_allBlank (h : allBlank front) : trim (front ++ text) = trim text := by
  rw [trim, trimStart, List.dropWhile_append_of_pos (allBlank_iff.1 h)]
  rfl

/-- A trimmed text has no blank at its end. -/
lemma isBlank_of_mem_getLast?_trimEnd {c : Char} (h : c ∈ (trimEnd text).getLast?) :
    isBlank c = false := by
  obtain ⟨hne, rfl⟩ := List.mem_getLast?_eq_getLast h
  exact Bool.eq_false_iff.2 (List.rdropWhile_last_not isBlank text hne)

/-- Trimming a text at its end keeps a first character that is no blank. -/
lemma mem_head?_trimEnd {c : Char} (hc : isBlank c = false) (h : c ∈ text.head?) :
    c ∈ (trimEnd text).head? := by
  obtain ⟨back, hback, htext⟩ := exists_trimEnd text
  rw [htext, List.head?_append, Option.mem_def] at h
  cases htrim : trimEnd text with
  | nil =>
    rw [htrim, List.head?_nil, Option.none_or] at h
    have hblank := allBlank_iff.1 hback c (List.mem_of_mem_head? h)
    exact absurd hblank (Bool.eq_false_iff.1 hc)
  | cons d rest =>
    rw [htrim, List.head?_cons, Option.some_or] at h
    exact h

/-- A trimmed text has no blank at its start. -/
lemma isBlank_of_mem_head?_trim {c : Char} (h : c ∈ (trim text).head?) : isBlank c = false := by
  obtain ⟨back, -, hback⟩ := exists_trimEnd (trimStart text)
  have hmem : c ∈ (trimStart text).head? := by
    rw [hback]
    exact List.mem_head?_append_of_mem_head? h
  have hnot := List.head?_dropWhile_not isBlank text
  rw [trimStart, Option.mem_def] at hmem
  rw [hmem] at hnot
  exact hnot

@[simp] lemma trim_trim (text : Text) : trim (trim text) = trim text :=
  trim_eq_self (fun _ => isBlank_of_mem_head?_trim) fun _ => isBlank_of_mem_getLast?_trimEnd

/-! ## Pieces of a text -/

/-- A text without a certain character stands on one side of it. -/
lemma infix_or_infix_of_append_cons {c : Char} (hc : c ∉ piece)
    (h : piece <:+: front ++ c :: back) : piece <:+: front ∨ piece <:+: back := by
  obtain ⟨before, after, h⟩ := h
  obtain ⟨rest, hfront, -⟩ | ⟨rest, hpiece, hafter⟩ := List.append_eq_append_iff.1 h
  · exact .inl ⟨before, rest, hfront.symm⟩
  · cases rest with
    | nil => exact .inl ⟨before, [], by simpa using hpiece⟩
    | cons d rest =>
      obtain ⟨rfl, hback⟩ := List.cons.inj hafter
      obtain ⟨start, -, hstart⟩ | ⟨start, -, hstart⟩ := List.append_eq_append_iff.1 hpiece
      · exact absurd (hstart ▸ List.mem_append_right _ List.mem_cons_self) hc
      · cases start with
        | nil =>
          rw [List.nil_append] at hstart
          exact absurd (hstart ▸ List.mem_cons_self) hc
        | cons e start =>
          obtain ⟨rfl, hrest⟩ := List.cons.inj hstart
          exact .inr ⟨start, after, (hback.trans (congrArg (· ++ after) hrest)).symm⟩

/-- Trimming a text at its start keeps each piece of it that does not start with a blank. -/
lemma infix_trimStart (hstart : ∀ c ∈ piece.head?, isBlank c = false) (h : piece <:+: text) :
    piece <:+: trimStart text := by
  obtain ⟨before, after, rfl⟩ := h
  rw [trimStart, List.append_assoc, List.dropWhile_append]
  split
  · cases piece with
    | nil => exact List.nil_infix
    | cons c rest =>
      have hc : ¬isBlank c = true := Bool.eq_false_iff.1 (hstart c rfl)
      rw [List.cons_append, List.dropWhile_cons_of_neg hc]
      exact (List.prefix_append (c :: rest) after).isInfix
  · exact ⟨_, after, by rw [List.append_assoc]⟩

/-- Trimming a text at its end keeps each piece of it that does not end with a blank. -/
lemma infix_trimEnd (hend : ∀ c ∈ piece.getLast?, isBlank c = false) (h : piece <:+: text) :
    piece <:+: trimEnd text := by
  have hreverse : piece.reverse <:+: trimStart text.reverse :=
    infix_trimStart (by rwa [List.head?_reverse]) (List.reverse_infix.2 h)
  rw [← List.reverse_infix, trimEnd, List.reverse_reverse]
  exact hreverse

/-- **Trimming keeps each piece** of a text that has no blank at its own two ends. -/
theorem infix_trim (hstart : ∀ c ∈ piece.head?, isBlank c = false)
    (hend : ∀ c ∈ piece.getLast?, isBlank c = false) (h : piece <:+: text) :
    piece <:+: trim text :=
  infix_trimEnd hend (infix_trimStart hstart h)

/-! ## Lines -/

/-- No character of the text ends a line. -/
def Unbroken (text : Text) : Prop := ∀ c ∈ text, isLineBreak c = false

instance (text : Text) : Decidable (Unbroken text) :=
  decidable_of_iff (text.all (!isLineBreak ·) = true) <| by
    simp only [List.all_eq_true, Bool.not_eq_true', Unbroken]

lemma unbroken_nil : Unbroken [] := fun _ hc => absurd hc List.not_mem_nil

lemma Unbroken.of_subset (h : Unbroken text) (hsub : piece ⊆ text) : Unbroken piece :=
  fun c hc => h c (hsub hc)

lemma Unbroken.append (hfront : Unbroken front) (hback : Unbroken back) :
    Unbroken (front ++ back) := by
  intro c hc
  rcases List.mem_append.1 hc with hc | hc
  · exact hfront c hc
  · exact hback c hc

lemma Unbroken.reverse (h : Unbroken text) : Unbroken text.reverse :=
  h.of_subset fun _ => List.mem_reverse.1

lemma Unbroken.trimEnd (h : Unbroken text) : Unbroken (trimEnd text) :=
  h.of_subset (List.rdropWhile_prefix isBlank text).subset

lemma Unbroken.trim (h : Unbroken text) : Unbroken (trim text) :=
  Unbroken.trimEnd (h.of_subset (List.dropWhile_sublist isBlank).subset)

/-- What ends a line is a blank. -/
lemma isBlank_of_isLineBreak {c : Char} (h : isLineBreak c) : isBlank c := by
  simp only [isLineBreak, isBlank, Bool.or_eq_true, Bool.and_eq_true, decide_eq_true_eq,
    beq_iff_eq] at h ⊢
  omega

/-- What stands after a line: a return with a newline, or one other separator. -/
def IsSeparator (sep : Text) : Prop := sep = ['\r', '\n'] ∨ ∃ c, isLineBreak c ∧ sep = [c]

lemma IsSeparator.allBlank {sep : Text} (h : IsSeparator sep) : allBlank sep := by
  rcases h with rfl | ⟨c, hc, rfl⟩
  · rfl
  · exact allBlank_iff.2 (List.forall_mem_singleton.2 (isBlank_of_isLineBreak hc))

/-- A text is certain lines with a separator after each, the last line perhaps excepted. -/
inductive Lined : Text → List Text → Prop where
  | nil : Lined [] []
  | last {line : Text} : line ≠ [] → Unbroken line → Lined line [line]
  | cons {line sep rest : Text} {ls : List Text} :
      Unbroken line → IsSeparator sep → Lined rest ls → Lined (line ++ (sep ++ rest)) (line :: ls)

private lemma lined_linesFrom (line text : Text) (hline : Unbroken line) :
    Lined (line.reverse ++ text) (linesFrom line text) := by
  fun_induction linesFrom line text with
  | case1 line h =>
    rw [List.isEmpty_iff.1 h]
    exact .nil
  | case2 line h =>
    rw [List.append_nil]
    refine .last ?_ hline.reverse
    rwa [Ne, List.reverse_eq_nil_iff, ← List.isEmpty_iff]
  | case3 line rest ih => exact .cons hline.reverse (.inl rfl) (ih unbroken_nil)
  | case4 line c rest _ hc ih => exact .cons hline.reverse (.inr ⟨c, hc, rfl⟩) (ih unbroken_nil)
  | case5 line c rest _ hc ih =>
    have hcons : Unbroken (c :: line) := by
      intro d hd
      rcases List.mem_cons.1 hd with rfl | hd
      · exact Bool.eq_false_iff.2 hc
      · exact hline d hd
    simpa using ih hcons

/-- **A text is its lines**, with separators after them. -/
theorem lined_lines (text : Text) : Lined text (lines text) :=
  lined_linesFrom [] text unbroken_nil

namespace Lined

variable {ls : List Text}

/-- No line holds a separator. -/
lemma unbroken (h : Lined text ls) : ∀ line ∈ ls, Unbroken line := by
  induction h with
  | nil => exact fun _ hm => absurd hm List.not_mem_nil
  | last _ hline =>
    intro line hm
    rwa [List.mem_singleton.1 hm]
  | cons hline _ _ ih =>
    intro line hm
    rcases List.mem_cons.1 hm with rfl | hm
    · exact hline
    · exact ih line hm

/-- **A piece of a text that holds no separator stands in one of its lines.** -/
theorem exists_line (h : Lined text ls) (hpiece : Unbroken piece) (hne : piece ≠ [])
    (hpart : piece <:+: text) : ∃ line ∈ ls, piece <:+: line := by
  have hnot {c : Char} (hc : isLineBreak c) : c ∉ piece := by
    intro hm
    exact absurd hc (Bool.eq_false_iff.1 (hpiece c hm))
  induction h with
  | nil => exact absurd (List.eq_nil_of_infix_nil hpart) hne
  | last => exact ⟨_, List.mem_singleton_self _, hpart⟩
  | @cons line sep rest ls _ hsep _ ih =>
    have hside : piece <:+: line ∨ piece <:+: rest := by
      rcases hsep with rfl | ⟨c, hc, rfl⟩
      · rcases infix_or_infix_of_append_cons (hnot (by decide)) hpart with h | h
        · exact .inl h
        · have h : piece <:+: [] ++ '\n' :: rest := h
          rcases infix_or_infix_of_append_cons (hnot (by decide)) h with h | h
          · exact absurd (List.eq_nil_of_infix_nil h) hne
          · exact .inr h
      · exact infix_or_infix_of_append_cons (hnot hc) hpart
    rcases hside with h | h
    · exact ⟨line, List.mem_cons_self, h⟩
    · obtain ⟨other, hm, hother⟩ := ih h
      exact ⟨other, List.mem_cons_of_mem line hm, hother⟩

end Lined

private lemma linesFrom_append_newline (line rest acc : Text) (hline : Unbroken line) :
    linesFrom acc (line ++ '\n' :: rest) = (acc.reverse ++ line) :: lines rest := by
  induction line generalizing acc with
  | nil =>
    rw [List.append_nil]
    rfl
  | cons c line ih =>
    have hc : isLineBreak c = false := hline c List.mem_cons_self
    have hne : c ≠ '\r' := by
      rintro rfl
      exact absurd hc (by decide)
    rw [List.cons_append, linesFrom, hc, if_neg Bool.false_ne_true,
      ih (c :: acc) (hline.of_subset (List.subset_cons_self c line)), List.reverse_cons,
      List.append_assoc, List.singleton_append]
    exact fun _ h => absurd h hne

/-- A line that is ended by a newline is the first line. -/
lemma lines_append_newline {line : Text} (rest : Text) (hline : Unbroken line) :
    lines (line ++ '\n' :: rest) = line :: lines rest :=
  linesFrom_append_newline line rest [] hline

/-- **Lines that are each ended by a newline are read back.** -/
theorem lines_flatMap_newline {ls : List Text} (h : ∀ line ∈ ls, Unbroken line) :
    lines (ls.flatMap (· ++ ['\n'])) = ls := by
  induction ls with
  | nil => rfl
  | cons line ls ih =>
    rw [List.flatMap_cons, List.append_assoc, List.singleton_append,
      lines_append_newline _ (h line List.mem_cons_self),
      ih fun other hm => h other (List.mem_cons_of_mem line hm)]

end UnitForge.Text
