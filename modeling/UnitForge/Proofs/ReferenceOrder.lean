import Mathlib.Data.List.Nodup
import UnitForge.Proofs.SortedTexts
import UnitForge.Proofs.StableReferences

set_option autoImplicit false

/-!
# The order of references

The first reference to a type of a simple name decides which type the simple name stands for, so
that the order of the references matters as soon as two types compete for one simple name. It
matters only then: if no two references do, every order of them gives the same bindings, the same
imports and the same answers, whatever has been declared before.

## Main definitions

* `UnitForge.Offline.Uncontested` — no two types of a list compete for a simple name.

## Main results

* `UnitForge.Scope.answers_refer_eq` — every reference of a list is answered as it would be at the
  end.
* `UnitForge.Scope.find?_run_perm` — the bindings after references in another order.
* `UnitForge.Offline.order_irrelevant` — declarations and then references in another order.
-/

namespace UnitForge

namespace Offline

/-- No two of the types have different outermost types of the same simple name. -/
def Uncontested (references : List QualifiedName) : Prop :=
  ∀ m ∈ references, ∀ n ∈ references, m.topLevelName = n.topLevelName → m.topLevel = n.topLevel

instance (references : List QualifiedName) : Decidable (Uncontested references) :=
  inferInstanceAs (Decidable (∀ m ∈ references, ∀ n ∈ references, _ → _))

end Offline

/-- Types with the same outermost type claim their simple name alike. -/
lemma QualifiedName.claim_congr {m n : QualifiedName} (h : m.topLevel = n.topLevel) :
    m.claim = n.claim := by
  have hname : m.topLevelName = n.topLevelName := by
    rw [← m.topLevel_simpleName, ← n.topLevel_simpleName, h]
  have hpackage : m.package = n.package := by simpa using congrArg QualifiedName.package h
  rw [claim, claim, hname, h, hpackage]

namespace Scope

variable {s t : Scope} {n : QualifiedName} {key : Text} {b : Binding}
  {references permuted : List QualifiedName}

/-! ## Scopes with the same bindings -/

/-- A binding is found under its simple name, as no simple name is bound twice. -/
lemma WellFormed.find?_eq_some (h : s.WellFormed) :
    s.find? key = some b ↔ b ∈ s.bindings ∧ b.key = key := by
  constructor
  · intro hfind
    exact ⟨List.mem_of_find?_eq_some hfind, by simpa using List.find?_some hfind⟩
  · rintro ⟨hb, rfl⟩
    cases hfind : s.find? b.key with
    | none => exact absurd rfl (find?_eq_none.mp hfind b hb)
    | some c =>
      have hkey : c.key = b.key := by simpa using List.find?_some hfind
      exact congrArg some
        (List.inj_on_of_nodup_map h.distinct (List.mem_of_find?_eq_some hfind) hb hkey)

/-- Scopes in which each simple name is bound in the same way have the same bindings, perhaps in
another order. -/
lemma WellFormed.bindings_perm (hs : s.WellFormed) (ht : t.WellFormed)
    (hfind : ∀ key, s.find? key = t.find? key) : s.bindings.Perm t.bindings := by
  rw [List.perm_ext_iff_of_nodup (.of_map _ hs.distinct) (.of_map _ ht.distinct)]
  intro b
  have hb := hfind b.key
  calc
    b ∈ s.bindings ↔ s.find? b.key = some b := by rw [hs.find?_eq_some, and_iff_left rfl]
    _ ↔ t.find? b.key = some b := by rw [hb]
    _ ↔ b ∈ t.bindings := by rw [ht.find?_eq_some, and_iff_left rfl]

/-- The imports do not depend on the order of the bindings. -/
lemma imports_eq_of_perm (h : s.bindings.Perm t.bindings) : s.imports = t.imports :=
  Text.sort_eq_of_perm ((h.filter _).map _)

/-- What a reference is answered depends on the bindings by simple name only. -/
lemma answer_congr (hfind : ∀ key, s.find? key = t.find? key) (hfrozen : s.frozen = t.frozen)
    (hbuiltin : s.builtinPackages = t.builtinPackages) (n : QualifiedName) :
    s.answer n = t.answer n := by
  rw [answer, answer, refer, refer, hfrozen, hfind, hbuiltin]
  dsimp only
  rw [hfind]
  split
  · rfl
  split
  · rfl
  split
  next => split <;> [rfl; (split <;> rfl)]
  next => split <;> [rfl; (split <;> rfl)]

/-! ## Other orders -/

/-- **Every reference of a list is answered as it would be at the end**, with the same text or the
same failure. -/
theorem answers_refer_eq (hs : s.frozen = false) (references : List QualifiedName) :
    s.answers (references.map .refer) =
      references.map fun n => (n, (s.run (references.map .refer)).answer n) := by
  induction references generalizing s with
  | nil => rfl
  | cons n references ih =>
    have hstep : (s.step (.refer n)).frozen = false :=
      (s.frozen_step (.refer n) (by simp)).trans hs
    have hfirst := answer_run_refer hs n references
    rw [List.map_cons, answers, ih hstep, List.map_cons, ← run_cons, ← List.map_cons, hfirst]

/-- **The bindings after references in another order**: if no two references compete for a simple
name, each simple name is bound in the same way.

**Proof sketch.** A free simple name is bound by the first reference that claims it. In another
order that may be another reference, but one to a type with the same outermost type. -/
theorem find?_run_perm (hs : s.frozen = false) (hsame : Offline.Uncontested references)
    (hperm : permuted.Perm references) (key : Text) :
    (s.run (permuted.map .refer)).find? key = (s.run (references.map .refer)).find? key := by
  rw [find?_run_refer hs, find?_run_refer hs]
  congr 1
  cases hfirst : references.find? (s.Claims key ·) with
  | none =>
    have hnone : permuted.find? (s.Claims key ·) = none := by
      rw [List.find?_eq_none] at hfirst ⊢
      exact fun n hn => hfirst n (hperm.mem_iff.mp hn)
    rw [hnone]
  | some n =>
    have hn : s.Claims key n := by simpa using List.find?_some hfirst
    have hmem : n ∈ references := List.mem_of_find?_eq_some hfirst
    cases hother : permuted.find? (s.Claims key ·) with
    | none =>
      rw [List.find?_eq_none] at hother
      exact absurd (decide_eq_true hn) (hother n (hperm.mem_iff.mpr hmem))
    | some m =>
      have hm : s.Claims key m := by simpa using List.find?_some hother
      have hmem' : m ∈ references := hperm.mem_iff.mp (List.mem_of_find?_eq_some hother)
      rw [Option.map_some, Option.map_some,
        QualifiedName.claim_congr (hsame m hmem' n hmem (hm.1.trans hn.1.symm))]

end Scope

namespace Offline

open Scope

/-- **Without competition the order of references does not matter.** After declarations, references
to types of which no two compete for a simple name are made in one order and in another. Each type
gets the same answer in both, the same text or the same failure; and in the end the bindings are the
same, perhaps in another order, and so are the imports.

**Proof sketch.** Each simple name is bound in the same way (`find?_run_perm`). An answer is the one
that the bindings at the end would give (`answers_refer_eq`). -/
theorem order_irrelevant (builtinPackages : List Text) (seeds : List QualifiedName)
    {references permuted : List QualifiedName} (hsame : Uncontested references)
    (hperm : permuted.Perm references) :
    let start := Scope.new builtinPackages
    let final := start.run (calls seeds references)
    let final' := start.run (calls seeds permuted)
    (∃ outcome : QualifiedName → Except ScopeError Text,
      start.answers (calls seeds references) = references.map (fun n => (n, outcome n)) ∧
      start.answers (calls seeds permuted) = permuted.map (fun n => (n, outcome n))) ∧
    (∀ key, final'.find? key = final.find? key) ∧
    final'.bindings.Perm final.bindings ∧ final'.imports = final.imports := by
  intro start final final'
  set seeded := start.run (seeds.map .declare) with hseeded
  have hopen : seeded.frozen = false := frozen_run rfl (by simp)
  have hfinal : final = seeded.run (references.map .refer) := run_append _ _ _
  have hfinal' : final' = seeded.run (permuted.map .refer) := run_append _ _ _
  have hfind : ∀ key, final'.find? key = final.find? key := by
    intro key
    rw [hfinal, hfinal', find?_run_perm hopen hsame hperm]
  have hbindings : final'.bindings.Perm final.bindings :=
    (wellFormed_run (wellFormed_new _) _).bindings_perm (wellFormed_run (wellFormed_new _) _) hfind
  refine ⟨⟨final.answer, ?_, ?_⟩, hfind, hbindings, imports_eq_of_perm hbindings⟩
  · rw [calls, answers_declare, answers_refer_eq hopen, hfinal]
  · have hanswer : final'.answer = final.answer := by
      funext n
      have hfrozen : final'.frozen = false := by rw [hfinal', frozen_run hopen (by simp)]
      have hfrozen' : final.frozen = false := by rw [hfinal, frozen_run hopen (by simp)]
      exact answer_congr hfind (hfrozen.trans hfrozen'.symm)
        ((start.grows_run _).builtinPackages.trans (start.grows_run _).builtinPackages.symm) n
    rw [calls, answers_declare, answers_refer_eq hopen, ← hfinal', hanswer]

/-- The declarations of a unit `com.Pond` with a nested type `Reed`. -/
def pondSeeds : List QualifiedName :=
  [⟨[Text.lit "com"], [Text.lit "Pond"], by decide, by decide⟩,
    ⟨[Text.lit "com"], [Text.lit "Pond", Text.lit "Reed"], by decide, by decide⟩]

/-- References that do not compete: one that fails, one that loses to the nested type, one to a type
without a package, one to a built-in type, and two to a type and to one nested in it. -/
def pondReferences : List QualifiedName :=
  [⟨[], [Text.lit "Pond"], by decide, by decide⟩,
    ⟨[Text.lit "org"], [Text.lit "Reed"], by decide, by decide⟩,
    ⟨[], [Text.lit "Lily"], by decide, by decide⟩,
    ⟨[Text.lit "java", Text.lit "lang"], [Text.lit "Long"], by decide, by decide⟩,
    ⟨[Text.lit "org"], [Text.lit "Otter", Text.lit "Fur"], by decide, by decide⟩,
    ⟨[Text.lit "org"], [Text.lit "Otter"], by decide, by decide⟩]

/-- The references are made from the last to the first, and bind the same types in another order. -/
theorem order_irrelevant_pond :
    let start := Scope.new [Text.lit "java.lang"]
    let final := start.run (calls pondSeeds pondReferences)
    let final' := start.run (calls pondSeeds pondReferences.reverse)
    Uncontested pondReferences ∧ pondReferences.reverse.Perm pondReferences ∧
      final'.bindings.Perm final.bindings ∧ final'.bindings ≠ final.bindings ∧
      final'.imports = final.imports ∧ final.imports = [Text.lit "org.Otter"] ∧
      ∃ outcome : QualifiedName → Except ScopeError Text,
        start.answers (calls pondSeeds pondReferences) =
            pondReferences.map (fun n => (n, outcome n)) ∧
          start.answers (calls pondSeeds pondReferences.reverse) =
            pondReferences.reverse.map (fun n => (n, outcome n)) := by
  have hsame : Uncontested pondReferences := by decide +kernel
  have hperm : pondReferences.reverse.Perm pondReferences := List.reverse_perm _
  obtain ⟨houtcome, -, hbindings, himports⟩ :=
    order_irrelevant [Text.lit "java.lang"] pondSeeds hsame hperm
  exact ⟨hsame, hperm, hbindings, by decide +kernel, himports, by decide +kernel, houtcome⟩

end Offline

end UnitForge
