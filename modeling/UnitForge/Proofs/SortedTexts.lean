import Mathlib.Data.Char
import Mathlib.Data.List.Lex
import Mathlib.Data.List.Perm.Basic
import UnitForge.Text.Basic

set_option autoImplicit false

/-!
# Sorted texts

The order by which texts are sorted is the lexicographic one by code points, which is linear. So a
list of texts has one sorted form, whatever the order in which the texts are given.

## Main results

* `UnitForge.Text.le_iff` — the order of texts is the lexicographic one.
* `UnitForge.Text.pairwise_sort` — sorting puts distinct texts into strictly ascending order.
* `UnitForge.Text.sort_eq_of_perm` — sorting forgets the order in which texts are given.
* `UnitForge.Text.eq_of_mem_iff` — texts in strictly ascending order can be listed in one way only.
-/

namespace UnitForge.Text

/-- The order by which texts are sorted is the lexicographic one by code points. -/
lemma le_iff (a b : Text) : le a b = true ↔ a ≤ b := by
  induction a generalizing b with
  | nil => simp only [le, ← not_lt, List.not_lt_nil, not_false_iff]
  | cons c a ih =>
    cases b with
    | nil => simp only [le, Bool.false_eq_true, false_iff, not_le, List.nil_lt_cons]
    | cons d b =>
      have hchar : c.toNat < d.toNat ↔ c < d := Iff.rfl
      rw [le, Bool.or_eq_true, decide_eq_true_iff, hchar, Bool.and_eq_true, beq_iff_eq, ih,
        le_iff_lt_or_eq, le_iff_lt_or_eq, List.cons_lt_cons_iff, List.cons.injEq, and_or_left,
        or_assoc]

/-- The order of texts is transitive. -/
lemma trans_le (a b c : Text) (hab : le a b = true) (hbc : le b c = true) : le a c = true := by
  rw [le_iff] at *
  exact le_trans hab hbc

/-- Of two texts one is at most the other. -/
lemma total_le (a b : Text) : (le a b || le b a) = true := by
  rw [Bool.or_eq_true, le_iff, le_iff]
  exact le_total a b

/-- Sorting puts texts into ascending order. -/
lemma pairwise_le_sort (texts : List Text) : (sort texts).Pairwise (· ≤ ·) := by
  have hle : (sort texts).Pairwise fun a b => le a b = true :=
    List.pairwise_mergeSort trans_le total_le texts
  exact hle.imp fun {a b} => (le_iff a b).mp

/-- **Sorting puts texts into strictly ascending order**, if no two of them are equal. -/
theorem pairwise_sort {texts : List Text} (h : texts.Nodup) : (sort texts).Pairwise (· < ·) := by
  have hne : (sort texts).Nodup := (List.mergeSort_perm texts le).nodup_iff.mpr h
  refine (List.Pairwise.and (pairwise_le_sort texts) hne).imp ?_
  rintro a b ⟨hab, hne⟩
  exact lt_of_le_of_ne hab hne

/-- Sorting keeps the texts. -/
lemma mem_sort {texts : List Text} {text : Text} : text ∈ sort texts ↔ text ∈ texts :=
  List.mem_mergeSort

/-- **Sorting forgets the order in which texts are given.** -/
theorem sort_eq_of_perm {texts texts' : List Text} (h : texts.Perm texts') :
    sort texts = sort texts' := by
  have hperm : (sort texts).Perm (sort texts') :=
    (List.mergeSort_perm texts le).trans (h.trans (List.mergeSort_perm texts' le).symm)
  exact hperm.eq_of_pairwise (fun _ _ _ _ => le_antisymm) (pairwise_le_sort _) (pairwise_le_sort _)

/-- Texts in strictly ascending order can be listed in one way only. -/
theorem eq_of_mem_iff {texts texts' : List Text} (h : texts.Pairwise (· < ·))
    (h' : texts'.Pairwise (· < ·)) (hmem : ∀ text, text ∈ texts ↔ text ∈ texts') :
    texts = texts' := by
  have hperm : texts.Perm texts' :=
    (List.perm_ext_iff_of_nodup (h.imp ne_of_lt) (h'.imp ne_of_lt)).mpr hmem
  exact hperm.eq_of_pairwise (fun _ _ _ _ hlt hgt => absurd hgt hlt.asymm) h h'

end UnitForge.Text
