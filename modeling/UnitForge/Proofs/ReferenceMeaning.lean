import UnitForge.Proofs.ScopeRuns

set_option autoImplicit false

/-!
# The meaning of references

A text printed for a reference is read when the unit is complete: its first segment is looked up
among the bindings of the scope, and only if it is not bound, the text is read as a full name. A
reference is answered long before that, and later calls may bind further simple names. Over
conventional names the answer stays right: a short form starts with a simple name that is bound
already and stays so, and a full form starts with a segment of a package, which is never bound.

## Main definitions

* `UnitForge.Scope.meaning` — the type that a text denotes under the bindings of a scope.
* `UnitForge.Scope.Call.Conventional` — a call for a type of conventional name.

## Main results

* `UnitForge.Scope.references_denote` — every text that a reference of a run was answered denotes
  its type at the end of the run, and every import can be read back.
-/

namespace UnitForge.Scope

variable {s t : Scope} {n : QualifiedName} {b : Binding}

/-- The type that a text denotes under the bindings of a scope. A bound first segment stands for
its type, in which the remaining segments are nested; any other text is a full name. -/
def meaning (s : Scope) (text : Text) : Except NameError QualifiedName :=
  let segments := Text.split '.' text
  match s.holder? (segments.headD []) with
  | some holder => QualifiedName.make holder.package (holder.simpleNames ++ segments.tail)
  | none => QualifiedName.parse text

/-- Whether a call is for a type of conventional name. -/
def Call.Conventional : Call → Prop
  | .declare n => n.Conventional
  | .refer n => n.Conventional
  | .freeze => True

instance (call : Call) : Decidable call.Conventional :=
  match call with
  | .declare n => inferInstanceAs (Decidable n.Conventional)
  | .refer n => inferInstanceAs (Decidable n.Conventional)
  | .freeze => .isTrue trivial

/-! ## Scopes of conventional names -/

/-- All types that a scope binds have conventional names, and are bound under their own simple
names. -/
def Conventional (s : Scope) : Prop :=
  ∀ b ∈ s.bindings, b.key = b.name.simpleName ∧ b.name.Conventional

/-- A binding of a conventional name under its own simple name keeps the convention. -/
lemma Conventional.bind (h : s.Conventional) (hkey : b.key = b.name.simpleName)
    (hname : b.name.Conventional) : (s.bind b).Conventional := by
  intro c hc
  rcases List.mem_append.mp hc with hc | hc
  · exact h c hc
  · rw [List.mem_singleton.mp hc]
    exact ⟨hkey, hname⟩

/-- A call for a conventional name keeps the convention. -/
lemma Conventional.step (h : s.Conventional) {call : Call} (hcall : call.Conventional) :
    (s.step call).Conventional := by
  have hchange := s.change_step call
  generalize s.step call = t at hchange ⊢
  cases hchange with
  | kept => exact h
  | frozen => exact h
  | declared => exact h.bind rfl hcall
  | claimed => exact h.bind rfl (QualifiedName.Conventional.topLevel hcall)

/-- Calls for conventional names keep the convention. -/
lemma Conventional.run (h : s.Conventional) {calls : List Call}
    (hcalls : ∀ call ∈ calls, call.Conventional) : (s.run calls).Conventional :=
  run_induction h fun _ ht call hc => ht.step (hcalls call hc)

/-- A simple name that is bound starts with an upper-case letter. -/
lemma Conventional.startsUpper_key (h : s.Conventional) (hb : b ∈ s.bindings) :
    QualifiedName.startsUpper b.key = true := by
  obtain ⟨hkey, hname⟩ := h b hb
  rw [hkey]
  exact hname.upper _ b.name.simpleName_mem

/-! ## What the three forms denote -/

/-- A text whose first segment is bound denotes a type nested in the one that it is bound to. -/
lemma meaning_of_holder {text first : Text} {others : List Text} {holder : QualifiedName}
    (hsplit : Text.split '.' text = first :: others) (h : s.holder? first = some holder) :
    s.meaning text = QualifiedName.make holder.package (holder.simpleNames ++ others) := by
  simp only [meaning, hsplit, List.headD_cons, h, List.tail_cons]

/-- A text whose first segment is not bound is a full name. -/
lemma meaning_of_free {text first : Text} {others : List Text}
    (hsplit : Text.split '.' text = first :: others) (h : s.holder? first = none) :
    s.meaning text = QualifiedName.parse text := by
  simp only [meaning, hsplit, List.headD_cons, h]

/-- The simple name of a type that is bound itself denotes the type. -/
lemma meaning_simpleName (hn : n.Conventional) (h : s.holder? n.simpleName = some n) :
    s.meaning n.simpleName = .ok n := by
  have hsplit : Text.split '.' n.simpleName = [n.simpleName] :=
    Text.split_of_not_mem (hn.dot_not_mem _ (List.mem_append_right _ n.simpleName_mem))
  rw [meaning_of_holder hsplit h, List.append_nil]
  exact n.make_segments

/-- The nested path of a type whose outermost type is bound denotes the type. -/
lemma meaning_nestedPath (hn : n.Conventional)
    (h : s.holder? n.topLevelName = some n.topLevel) : s.meaning n.nestedPath = .ok n := by
  have hsplit : Text.split '.' n.nestedPath = n.topLevelName :: n.simpleNames.tail := by
    rw [n.topLevelName_cons]
    exact QualifiedName.split_nestedPath fun segment hs =>
      hn.dot_not_mem segment (List.mem_append_right _ hs)
  rw [meaning_of_holder hsplit h, QualifiedName.topLevel_package,
    QualifiedName.topLevel_simpleNames, List.singleton_append, n.topLevelName_cons]
  exact n.make_segments

/-- The full name of a type in a package denotes the type: its first segment belongs to the
package, and no such segment is bound. -/
lemma meaning_toText (hs : s.Conventional) (hn : n.Conventional) (hpackage : n.package ≠ []) :
    s.meaning n.toText = .ok n := by
  obtain ⟨first, others, hp⟩ := List.exists_cons_of_ne_nil hpackage
  have hsplit : Text.split '.' n.toText = first :: (others ++ n.simpleNames) := by
    rw [QualifiedName.split_toText hn.dot_not_mem, hp, List.cons_append]
  have hlower : QualifiedName.startsUpper first = false :=
    hn.lower first (hp ▸ List.mem_cons_self)
  have hfree : s.holder? first = none := by
    rw [holder?, Option.map_eq_none_iff, find?_eq_none]
    rintro b hb rfl
    exact absurd (hs.startsUpper_key hb) (by rw [hlower]; exact Bool.false_ne_true)
  rw [meaning_of_free hsplit hfree]
  exact hn.parse_toText

/-- **An answer denotes its type from then on**: in every scope that the scope after the reference
grows into by calls for conventional names.

**Proof sketch.** By cases on the way of answering. A simple name or nested path starts with a
simple name that is bound when the answer is given, and stays bound. A full name is printed only
for a type in a package. -/
lemma meaning_of_refer {text : Text} {s' : Scope} (hn : n.Conventional)
    (hrefer : s.refer n = .ok (text, s')) (hgrows : s'.Grows t) (ht : t.Conventional) :
    t.meaning text = .ok n := by
  have h := s.answers_refer n
  rw [hrefer] at h
  cases h with
  | itself hfrozen hself => exact meaning_simpleName hn (hgrows.holder? hself)
  | nested hfrozen hself htop => exact meaning_nestedPath hn (hgrows.holder? htop)
  | taken hfrozen hself hfind hother hpackage => exact meaning_toText ht hn hpackage
  | builtin hfrozen hself hfree hpackage => exact meaning_toText ht hn hpackage
  | claimed hfrozen hself hfree hclaim =>
    apply meaning_nestedPath hn
    apply hgrows.holder?
    exact holder?_eq_some.mpr ⟨n.claim, by rw [find?_bind, hfree]; simp [QualifiedName.claim], rfl⟩

/-- Every import of a conventional type can be read back from the list of imports. -/
lemma exists_import (hwell : s.WellFormed) (hs : s.Conventional) (hb : b ∈ s.bindings)
    (hkind : b.kind = .explicit) :
    ∃ entry ∈ s.imports, QualifiedName.parse entry = .ok b.name.topLevel := by
  refine ⟨b.name.toText, ?_, ?_⟩
  · rw [imports, Text.sort, List.mem_mergeSort]
    exact List.mem_map.mpr ⟨b, List.mem_filter.mpr ⟨hb, by simpa using hkind⟩, rfl⟩
  · rw [hwell.outermost b hb hkind]
    exact (hs b hb).2.parse_toText

/-! ## Whole runs -/

/-- **References mean what they were made for.** After any run of calls for types of conventional
name on a new scope, every text that a reference was answered during the run denotes the type of
that reference, and every import can be read back from the list of imports.

**Proof sketch.** Split the run where the answer was given. The rest of the run only lets the scope
grow, and by convention every simple name bound in it starts with an upper-case letter. -/
theorem references_denote (builtinPackages : List Text) (calls : List Call)
    (hcalls : ∀ call ∈ calls, call.Conventional) :
    (∀ n text, (n, .ok text) ∈ (Scope.new builtinPackages).answers calls →
      ((Scope.new builtinPackages).run calls).meaning text = .ok n) ∧
    ∀ b ∈ ((Scope.new builtinPackages).run calls).bindings, b.kind = .explicit →
      ∃ entry ∈ ((Scope.new builtinPackages).run calls).imports,
        QualifiedName.parse entry = .ok b.name.topLevel := by
  have hnew : (Scope.new builtinPackages).Conventional := by simp [Scope.new, Scope.Conventional]
  refine ⟨fun n text h => ?_, fun b hb hkind => ?_⟩
  · obtain ⟨before, after, rfl, hanswer⟩ := exists_of_mem_answers h
    have hn : n.Conventional := hcalls (.refer n) (by simp)
    set s := (Scope.new builtinPackages).run before
    rw [answer] at hanswer
    cases hrefer : s.refer n with
    | error e =>
      rw [hrefer] at hanswer
      simp [Except.map] at hanswer
    | ok result =>
      obtain ⟨printed, s'⟩ := result
      rw [hrefer] at hanswer
      obtain rfl : printed = text := Except.ok.inj hanswer
      have hs' : s.step (.refer n) = s' := by rw [step, hrefer]
      have hgrows := s'.grows_run after
      rw [← hs', ← run_cons, ← run_append] at hgrows
      exact meaning_of_refer hn hrefer (hs' ▸ hgrows) (hnew.run hcalls)
  · exact exists_import (wellFormed_run (wellFormed_new builtinPackages) calls)
      (hnew.run hcalls) hb hkind

/-- A run in which three types compete for `Map`: the unit `com.Map`, `com.Map.Node` nested in it,
and `java.util.Map.Entry`; `java.util.List` finds its simple name free. -/
def mapCalls : List Call :=
  [.declare ⟨[Text.lit "com"], [Text.lit "Map"], by decide, by decide⟩,
    .refer ⟨[Text.lit "java", Text.lit "util"], [Text.lit "Map", Text.lit "Entry"], by decide,
      by decide⟩,
    .refer ⟨[Text.lit "com"], [Text.lit "Map", Text.lit "Node"], by decide, by decide⟩,
    .refer ⟨[Text.lit "java", Text.lit "util"], [Text.lit "List"], by decide, by decide⟩]

/-- The loser of the competition for `Map` is printed in full, and the text still denotes it when
all calls have been made. -/
theorem references_denote_map :
    (∀ call ∈ mapCalls, call.Conventional) ∧
    ((Scope.new []).run mapCalls).meaning (Text.lit "java.util.Map.Entry") =
      .ok ⟨[Text.lit "java", Text.lit "util"], [Text.lit "Map", Text.lit "Entry"], by decide,
        by decide⟩ ∧
    ∃ entry ∈ ((Scope.new []).run mapCalls).imports, QualifiedName.parse entry =
      .ok ⟨[Text.lit "java", Text.lit "util"], [Text.lit "List"], by decide, by decide⟩ := by
  have hcalls : ∀ call ∈ mapCalls, call.Conventional := by decide +kernel
  obtain ⟨hanswers, himports⟩ := references_denote [] mapCalls hcalls
  refine ⟨hcalls, hanswers _ _ (by decide +kernel), ?_⟩
  exact himports ⟨Text.lit "List", ⟨[Text.lit "java", Text.lit "util"], [Text.lit "List"],
    by decide, by decide⟩, .explicit⟩ (by decide +kernel) rfl

end UnitForge.Scope
