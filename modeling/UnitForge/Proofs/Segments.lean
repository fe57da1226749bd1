import Mathlib.Data.List.Basic
import UnitForge.Text.Blank

set_option autoImplicit false

/-!
# Segments of texts

A text is cut into segments at a separator and put together again by joining. When no segment
holds the separator, nothing is lost on the way: splitting undoes joining.

## Main results

* `UnitForge.Text.split_join` — splitting at a separator undoes joining with it.
* `UnitForge.Text.cut_eq_none` — a text without a separator is not cut.
* `UnitForge.Text.trim_eq_self` — trimming leaves a text alone that has no blank at its two ends.
-/

namespace UnitForge.Text

variable {sep : Char}

/-! ## Splitting -/

/-- A text without separators is one segment. -/
lemma split_of_not_mem {text : Text} (h : sep ∉ text) : split sep text = [text] := by
  induction text with
  | nil => rfl
  | cons c rest ih =>
    have hc : c ≠ sep := fun e => h (e ▸ List.mem_cons_self)
    have hrest : sep ∉ rest := fun m => h (List.mem_cons_of_mem c m)
    rw [split, if_neg hc, ih hrest]

/-- The first separator ends the first segment. -/
lemma split_append_cons {first rest : Text} (h : sep ∉ first) :
    split sep (first ++ sep :: rest) = first :: split sep rest := by
  induction first with
  | nil => simp [split]
  | cons c first ih =>
    have hc : c ≠ sep := fun e => h (e ▸ List.mem_cons_self)
    have hfirst : sep ∉ first := fun m => h (List.mem_cons_of_mem c m)
    rw [List.cons_append, split, if_neg hc, ih hfirst]

/-! ## Joining -/

/-- Joining puts the separator after every segment but the last. -/
lemma join_cons {segment : Text} {others : List Text} (h : others ≠ []) :
    join [sep] (segment :: others) = segment ++ sep :: join [sep] others := by
  cases others with
  | nil => exact absurd rfl h
  | cons other others => simp [join]

/-- **Splitting undoes joining**, if there are segments and none of them holds the separator.

**Proof sketch.** Induction on the segments. A single segment is one by `split_of_not_mem`; in
front of others it is ended by the separator that joining puts after it. -/
theorem split_join {segments : List Text} (hne : segments ≠ [])
    (h : ∀ segment ∈ segments, sep ∉ segment) : split sep (join [sep] segments) = segments := by
  induction segments with
  | nil => exact absurd rfl hne
  | cons segment others ih =>
    have hsegment : sep ∉ segment := h segment List.mem_cons_self
    by_cases ho : others = []
    · subst ho
      exact split_of_not_mem hsegment
    · rw [join_cons ho, split_append_cons hsegment,
        ih ho fun other m => h other (List.mem_cons_of_mem segment m)]

/-- A character of a joined text is the separator or stands in a segment. -/
lemma mem_join {c : Char} {segments : List Text} (h : c ∈ join [sep] segments) :
    c = sep ∨ ∃ segment ∈ segments, c ∈ segment := by
  induction segments with
  | nil => simp [join] at h
  | cons segment others ih =>
    by_cases ho : others = []
    · subst ho
      exact .inr ⟨segment, List.mem_cons_self, h⟩
    · rw [join_cons ho, List.mem_append, List.mem_cons] at h
      rcases h with h | rfl | h
      · exact .inr ⟨segment, List.mem_cons_self, h⟩
      · exact .inl rfl
      · obtain rfl | ⟨other, m, hc⟩ := ih h
        · exact .inl rfl
        · exact .inr ⟨other, List.mem_cons_of_mem segment m, hc⟩

/-- A character of a segment stands in the joined text. -/
lemma mem_join_of_mem {c : Char} {segment : Text} {segments : List Text} (hc : c ∈ segment)
    (h : segment ∈ segments) : c ∈ join [sep] segments := by
  induction segments with
  | nil => simp at h
  | cons first others ih =>
    by_cases ho : others = []
    · subst ho
      rw [List.mem_singleton] at h
      exact h ▸ hc
    · rw [join_cons ho, List.mem_append, List.mem_cons]
      rcases List.mem_cons.mp h with rfl | h
      · exact .inl hc
      · exact .inr (.inr (ih h))

/-! ## Cutting and trimming -/

/-- A text without separators is not cut. -/
lemma cut_eq_none {text : Text} (h : sep ∉ text) : cut sep text = none := by
  induction text with
  | nil => rfl
  | cons c rest ih =>
    have hc : c ≠ sep := fun e => h (e ▸ List.mem_cons_self)
    have hrest : sep ∉ rest := fun m => h (List.mem_cons_of_mem c m)
    rw [cut, if_neg hc, ih hrest, Option.map_none]

/-- Trimming at the start leaves a text alone that does not start with a blank. -/
lemma dropBlank_eq_self {text : Text} (h : ∀ c ∈ text.head?, isBlank c = false) :
    text.dropWhile isBlank = text := by
  cases text with
  | nil => rfl
  | cons c rest =>
    have hc : isBlank c = false := h c rfl
    rw [List.dropWhile_cons, hc, if_neg Bool.false_ne_true]

/-- **Trimming leaves a text alone** that has no blank at its two ends. -/
theorem trim_eq_self {text : Text} (hstart : ∀ c ∈ text.head?, isBlank c = false)
    (hend : ∀ c ∈ text.getLast?, isBlank c = false) : trim text = text := by
  rw [trim, trimStart, dropBlank_eq_self hstart, trimEnd, dropBlank_eq_self, List.reverse_reverse]
  rwa [List.head?_reverse]

end UnitForge.Text
