import Mathlib.Data.List.Nodup
import UnitForge.Output.Scripted
import UnitForge.Proofs.OfflineScope
import UnitForge.Proofs.SortedTexts
import UnitForge.Proofs.UnitScope

set_option autoImplicit false

/-!
# Hygiene of imports

The imports of a scope are its explicit bindings, printed in full and sorted. In every scope that
calls lead to, no two imports and no import and implicit binding compete for a simple name, and
nothing is imported that needs no import. A unit seeds its scope with the types that are visible in
it anyway, so that none of its imports hides one of them.

## Main definitions

* `UnitForge.Text.lastSegment` — the last segment of a dotted text.
* `UnitForge.QualifiedName.Undotted` — a name without dots in its segments.
* `UnitForge.Scope.Hygienic` — what is asked of the imports of a scope.

## Main results

* `UnitForge.Scope.hygienic_run` — the imports after every run of calls.
* `UnitForge.imports_hygienic` — the imports of every scope and of every unit.
-/

namespace UnitForge

namespace Text

/-- The last segment of a dotted text. -/
def lastSegment (text : Text) : Text := (split '.' text).getLast (split_ne_nil '.' text)

end Text

namespace QualifiedName

/-- No segment of the name holds a dot. -/
def Undotted (n : QualifiedName) : Prop := ∀ segment ∈ n.package ++ n.simpleNames, '.' ∉ segment

instance (n : QualifiedName) : Decidable n.Undotted :=
  inferInstanceAs (Decidable (∀ segment ∈ n.package ++ n.simpleNames, '.' ∉ segment))

namespace Undotted

variable {n : QualifiedName}

/-- The outermost type of a name without dots has a name without dots. -/
lemma topLevel (h : n.Undotted) : n.topLevel.Undotted := by
  intro segment hs
  apply h segment
  rw [topLevel_package, topLevel_simpleNames, List.mem_append, List.mem_singleton] at hs
  rcases hs with hs | rfl
  · exact List.mem_append_left _ hs
  · exact List.mem_append_right _ n.topLevelName_mem

/-- The full text of a name without dots ends in its simple name. -/
lemma lastSegment_toText (h : n.Undotted) : Text.lastSegment n.toText = n.simpleName := by
  have hsplit : Text.split '.' n.toText = n.package ++ n.simpleNames := split_toText h
  simp only [Text.lastSegment, hsplit]
  rw [List.getLast_append_of_ne_nil _ n.simpleNames_ne_nil]
  rfl

end Undotted

end QualifiedName

namespace Scope

variable {s : Scope} {builtinPackages : List Text} {calls : List Call}

/-! ## The imports of a scope -/

/-- What is asked of the imports of a scope. -/
structure Hygienic (builtinPackages : List Text) (s : Scope) : Prop where
  /-- The imports are in strictly ascending order of their code points. -/
  ascending : s.imports.Pairwise (· < ·)
  /-- No two imports end in the same simple name. -/
  distinct : (s.imports.map Text.lastSegment).Nodup
  /-- No import ends in a simple name that is in scope without an import. -/
  unclaimed : ∀ x ∈ s.imports, ∀ b ∈ s.bindings, b.kind = .implicit → b.key ≠ Text.lastSegment x
  /-- An import is for an outermost type of a package that has a name and is not built in. -/
  importable : ∀ x ∈ s.imports, ∃ n : QualifiedName, x = n.toText ∧ n.Undotted ∧
    n.isTopLevel = true ∧ n.package ≠ [] ∧ n.packageName ∉ builtinPackages
  /-- A type is bound under its own simple name. -/
  keyed : ∀ b ∈ s.bindings, b.key = b.name.simpleName

/-- The types that are to be imported have names without dots. -/
def ImportsUndotted (s : Scope) : Prop :=
  ∀ b ∈ s.bindings, b.kind = .explicit → b.name.Undotted

/-- A call keeps the types to import without dots, if it does not refer to a name with dots. -/
lemma ImportsUndotted.step (h : s.ImportsUndotted) {call : Call}
    (hcall : ∀ n, call = .refer n → n.Undotted) : (s.step call).ImportsUndotted := by
  have hchange := s.change_step call
  generalize s.step call = t at hchange ⊢
  cases hchange with
  | kept => exact h
  | frozen => exact h
  | declared hfree =>
    intro b hb hkind
    rcases List.mem_append.mp hb with hb | hb
    · exact h b hb hkind
    · rw [List.mem_singleton.mp hb] at hkind
      simp at hkind
  | @claimed n hfree hclaim =>
    intro b hb hkind
    rcases List.mem_append.mp hb with hb | hb
    · exact h b hb hkind
    · rw [List.mem_singleton.mp hb]
      exact (hcall n rfl).topLevel

/-- An import is the full text of an explicit binding. -/
lemma mem_imports {x : Text} :
    x ∈ s.imports ↔ ∃ b ∈ s.bindings, b.kind = .explicit ∧ b.name.toText = x := by
  simp [imports, Text.sort, and_assoc]

namespace WellFormed

variable (h : s.WellFormed) (hdot : s.ImportsUndotted)
include h hdot

/-- An import ends in the simple name that it makes usable. -/
lemma lastSegment_import {b : Binding} (hb : b ∈ s.bindings) (hkind : b.kind = .explicit) :
    Text.lastSegment b.name.toText = b.key := by
  rw [(hdot b hb hkind).lastSegment_toText, h.keyed b hb]

/-- The imports, before they are sorted, end in simple names of which no two are equal. -/
lemma nodup_lastSegment :
    (((s.bindings.filter (·.kind = .explicit)).map (·.name.toText)).map
      Text.lastSegment).Nodup := by
  have hkeys : ((s.bindings.filter (·.kind = .explicit)).map (·.name.toText)).map
      Text.lastSegment = (s.bindings.filter (·.kind = .explicit)).map (·.key) := by
    rw [List.map_map]
    apply List.map_congr_left
    intro b hb
    rw [List.mem_filter, decide_eq_true_iff] at hb
    exact h.lastSegment_import hdot hb.1 hb.2
  rw [hkeys]
  exact (List.filter_sublist.map _).nodup h.distinct

/-- **The imports of a well-formed scope are hygienic.**

**Proof sketch.** Imports end in the keys of explicit bindings, and no key is bound twice. So their
last segments are distinct, and the more so the imports; and none of them is the key of another
binding. -/
theorem hygienic (hbuiltin : s.builtinPackages = builtinPackages) :
    s.Hygienic builtinPackages where
  ascending := Text.pairwise_sort (.of_map _ (h.nodup_lastSegment hdot))
  distinct :=
    ((List.mergeSort_perm _ Text.le).map Text.lastSegment).nodup_iff.mpr (h.nodup_lastSegment hdot)
  unclaimed x hx b hb hkind hkey := by
    obtain ⟨c, hc, hexplicit, rfl⟩ := mem_imports.mp hx
    rw [h.lastSegment_import hdot hc hexplicit] at hkey
    have hsame : b = c := List.inj_on_of_nodup_map h.distinct hb hc hkey
    rw [hsame, hexplicit] at hkind
    simp at hkind
  importable x hx := by
    obtain ⟨b, hb, hkind, rfl⟩ := mem_imports.mp hx
    refine ⟨b.name, rfl, hdot b hb hkind, ?_, h.packaged b hb hkind, ?_⟩
    · rw [← h.outermost b hb hkind]
      rfl
    · rw [← hbuiltin]
      exact h.foreign b hb hkind
  keyed := h.keyed

end WellFormed

/-- **The imports are hygienic after every run of calls** that does not refer to names with dots. -/
theorem hygienic_run (builtinPackages : List Text)
    (hcalls : ∀ n, .refer n ∈ calls → n.Undotted) :
    ((Scope.new builtinPackages).run calls).Hygienic builtinPackages := by
  have hnew : (Scope.new builtinPackages).ImportsUndotted := by simp [Scope.new, ImportsUndotted]
  have hdot : ((Scope.new builtinPackages).run calls).ImportsUndotted :=
    run_induction hnew fun t ht call hc => ht.step fun n hn => hcalls n (hn ▸ hc)
  exact (wellFormed_run (wellFormed_new builtinPackages) calls).hygienic hdot
    ((Scope.new builtinPackages).grows_run calls).builtinPackages

/-- A type that is declared has its simple name in scope without an import, whether it is the type
that the simple name stands for or not. -/
lemma exists_implicit {seeds : List QualifiedName} {n : QualifiedName} (hn : n ∈ seeds)
    (later : List Call) :
    ∃ b ∈ ((Scope.new builtinPackages).run (seeds.map .declare ++ later)).bindings,
      b.key = n.simpleName ∧ b.kind = .implicit := by
  have hwinner : (Offline.winner seeds n.simpleName).isSome = true :=
    List.find?_isSome.mpr ⟨n, hn, by simp⟩
  obtain ⟨w, hw⟩ := Option.isSome_iff_exists.mp hwinner
  have hseeded : ((Scope.new builtinPackages).run (seeds.map .declare)).find? n.simpleName =
      some ⟨n.simpleName, w, .implicit⟩ := by
    rw [find?_run_declare rfl, hw]
    rfl
  refine ⟨⟨n.simpleName, w, .implicit⟩, ?_, rfl, rfl⟩
  rw [run_append]
  exact List.mem_of_find?_eq_some ((grows_run _ later).find? hseeded)

end Scope

/-! ## The imports of a unit -/

/-- The line that imports a type. -/
def importLine (x : Text) : Text := Text.lit "import " ++ x ++ Text.lit ";\n"

/-- A line of the import block is for one of the imports. -/
lemma mem_of_importLine_mem {imports : List Text} {x : Text}
    (h : importLine x ∈ importChunks imports) : x ∈ imports := by
  rw [importChunks] at h
  split at h
  · simp at h
  · rcases List.mem_append.mp h with h | h
    · obtain ⟨y, hy, hline⟩ := List.mem_map.mp h
      have hxy : y = x := List.append_cancel_left (List.append_cancel_right hline)
      rwa [← hxy]
    · have hhead : (importLine x).head? = some 'i' := rfl
      rw [List.mem_singleton.mp h] at hhead
      simp at hhead

/-- **The imports of a unit are hygienic**, and no line of its import block is for a type with the
simple name of one of its seeds.

**Proof sketch.** The scope of the unit is one that the declarations of its seeds and then other
calls lead to, and what was declared first stays bound without an import. -/
theorem GeneratedUnit.hygienic_scope {σ : Type} {F : Filer σ} {p : UnitPlan} {u : GeneratedUnit}
    {s t : σ} (hbegin : begin F p s = (.ok u, t)) {calls : List UnitCall}
    (hcalls : ∀ c ∈ calls, ∀ n ∈ c.references, n.Undotted) :
    (u.run F t calls).1.manuscript.scope.Hygienic p.builtinPackages ∧
    ∃ seeds, p.Knows seeds ∧ ∀ x, importLine x ∈ importChunks (u.run F t calls).1.imports →
      ∀ n ∈ seeds, n.simpleName ≠ Text.lastSegment x := by
  obtain ⟨-, -, -, -, hseeded⟩ := begin_eq_ok hbegin
  obtain ⟨seeds, hknows, hscope⟩ := UnitPlan.seededScope_eq_ok_iff.mp hseeded
  obtain ⟨made, hrun, hmade⟩ := scope_run F u t calls
  rw [hscope, ← Scope.run_append] at hrun
  have hygienic : (u.run F t calls).1.manuscript.scope.Hygienic p.builtinPackages := by
    rw [hrun]
    apply Scope.hygienic_run
    intro n hn
    rcases List.mem_append.mp hn with hn | hn
    · simp at hn
    · obtain ⟨c, hc, hn⟩ := hmade n hn
      exact hcalls c hc n hn
  refine ⟨hygienic, seeds, hknows, fun x hx n hn => ?_⟩
  obtain ⟨b, hb, hkey, hkind⟩ :
      ∃ b ∈ ((Scope.new p.builtinPackages).run (seeds.map .declare ++ made)).bindings,
        b.key = n.simpleName ∧ b.kind = .implicit := Scope.exists_implicit hn made
  rw [← hrun] at hb
  rw [← hkey]
  exact hygienic.unclaimed x (mem_of_importLine_mem hx) b hb hkind

/-- **Imports are hygienic**, in every scope that calls lead to and in every unit. As long as no
reference is to a name with dots in its segments, the imports are in strictly ascending order, no
two of them end in the same simple name, none ends in a simple name that is bound without an import,
and each is for an outermost type of a named package that is not built in. No line of the import
block of a unit ends in the simple name of the unit, of a type nested in it, or of a type that the
look-up of its package reported. -/
theorem imports_hygienic (builtinPackages : List Text) :
    (∀ calls : List Scope.Call, (∀ n, .refer n ∈ calls → n.Undotted) →
      ((Scope.new builtinPackages).run calls).Hygienic builtinPackages) ∧
    ∀ {σ : Type} (F : Filer σ) (p : UnitPlan) (s t : σ) (u : GeneratedUnit) (calls : List UnitCall),
      p.builtinPackages = builtinPackages → GeneratedUnit.begin F p s = (.ok u, t) →
      (∀ c ∈ calls, ∀ n ∈ c.references, n.Undotted) →
      (u.run F t calls).1.manuscript.scope.Hygienic builtinPackages ∧
      ∀ x, importLine x ∈ importChunks (u.run F t calls).1.imports →
        Text.lastSegment x ≠ p.name.simpleName ∧
        (∀ n ∈ p.nested, Text.lastSegment x ≠ n.simpleName) ∧
        ∀ lookup names, p.siblings = some lookup → lookup p.name.packageName = .ok names →
          Text.lastSegment x ∉ names := by
  refine ⟨fun calls hcalls => Scope.hygienic_run builtinPackages hcalls, ?_⟩
  rintro σ F p s t u calls rfl hbegin hcalls
  obtain ⟨hygienic, seeds, hknows, hseeds⟩ := GeneratedUnit.hygienic_scope hbegin hcalls
  refine ⟨hygienic, fun x hx => ⟨?_, fun n hn => ?_, fun lookup names hlookup hnames hmem => ?_⟩⟩
  · exact (hseeds x hx _ (hknows.own_mem List.mem_cons_self)).symm
  · exact (hseeds x hx n (hknows.own_mem (List.mem_cons_of_mem _ hn))).symm
  · obtain ⟨n, hn, hname⟩ := hknows.sibling_mem hlookup hnames hmem
    exact hseeds x hx n hn hname

/-- A type of the package `org`. -/
def orgType (simpleName : Text) (h : simpleName ≠ []) : QualifiedName :=
  ⟨[Text.lit "org"], [simpleName], by simp, by simpa using h⟩

/-- A unit `com.Tree` with a nested `com.Tree.Node` and a sibling `com.Bar`. -/
def nodePlan : UnitPlan where
  name := ⟨[Text.lit "com"], [Text.lit "Tree"], by decide, by decide⟩
  nested := [⟨[Text.lit "com"], [Text.lit "Tree", Text.lit "Node"], by decide, by decide⟩]
  siblings := some fun _ => .ok [Text.lit "Bar"]
  formatter := .ok

/-- A draft that refers to three types of another package, two of which lose their simple names to
seeds of the unit. -/
def orgCalls : List UnitCall :=
  [.draft (.append .main (.add (Text.lit "%s %s %s")
    [.type (orgType (Text.lit "Bar") (by decide)), .type (orgType (Text.lit "Node") (by decide)),
      .type (orgType (Text.lit "Set") (by decide))]))]

/-- Only the third of the types is imported, and its import competes with no seed. -/
theorem imports_hygienic_org :
    let builtinPackages := nodePlan.builtinPackages
    let calls : List Scope.Call := [.refer (orgType (Text.lit "Set") (by decide)), .freeze]
    (∀ n, .refer n ∈ calls → n.Undotted) ∧
    ((Scope.new builtinPackages).run calls).Hygienic builtinPackages ∧
    ∃ u t, GeneratedUnit.begin (scriptedFiler {}) nodePlan {} = (.ok u, t) ∧
      (∀ c ∈ orgCalls, ∀ n ∈ c.references, n.Undotted) ∧
      let v := (u.run (scriptedFiler {}) t orgCalls).1
      v.imports = [Text.lit "org.Set"] ∧ v.manuscript.scope.Hygienic builtinPackages ∧
        Text.lastSegment (Text.lit "org.Set") ≠ nodePlan.name.simpleName ∧
        Text.lastSegment (Text.lit "org.Set") ∉ [Text.lit "Bar"] := by
  intro builtinPackages calls
  have hcalls : ∀ n, .refer n ∈ calls → n.Undotted := by
    intro n hn
    obtain rfl : n = orgType (Text.lit "Set") (by decide) := by simpa [calls] using hn
    decide
  have hnames : ∀ c ∈ orgCalls, ∀ n ∈ c.references, n.Undotted := by decide
  have hbegin : GeneratedUnit.begin (scriptedFiler {}) nodePlan {} = (.ok _, _) := rfl
  obtain ⟨hygienic, hlines⟩ :=
    (imports_hygienic builtinPackages).2 (scriptedFiler {}) nodePlan {} _ _ orgCalls rfl hbegin
      hnames
  obtain ⟨hself, -, hsiblings⟩ := hlines (Text.lit "org.Set") (by decide +kernel)
  exact ⟨hcalls, (imports_hygienic builtinPackages).1 calls hcalls, _, _, hbegin, hnames,
    by decide +kernel, hygienic, hself, hsiblings _ _ rfl rfl⟩

end UnitForge
