import UnitForge.Proofs.NameForms
import UnitForge.Proofs.ScopeRuns

set_option autoImplicit false

/-!
# Different types in one scope

The texts that a scope prints for references are simple names, nested paths and full texts, and all
of them live in one name space. Two short forms start with bound simple names, so that different
types never share one. A short form and a full text may meet: the nested path `Shop.Item` of a type
of any package reads like the full text of the type `Item` of a package called `Shop`. That is the
only way in which texts for different types coincide, and it takes a name that is written with a
colon.

## Main definitions

* `UnitForge.QualifiedName.Hides` — the nested path of a type reads like the full text of another.
* `UnitForge.Scope.Prints` — a text refers to a type under the bindings of a scope.

## Main results

* `UnitForge.Scope.prints_of_mem_answers` — what was answered refers to its type at the end of the
  run.
* `UnitForge.Scope.Prints.hides` — two types share a text only if one of them hides the other.
* `UnitForge.Scope.texts_apart` — which types may share a text in some run.
-/

namespace UnitForge

namespace QualifiedName

variable {a b : QualifiedName}

/-- The nested path of `a` reads like the full text of `b`, which is a type of a package. -/
def Hides (a b : QualifiedName) : Prop := b.package ≠ [] ∧ a.nestedPath = b.toText

/-- A type whose outermost type starts with an upper-case letter hides no type of a package that has
no such segment. -/
lemma not_hides (ha : ∀ segment ∈ a.simpleNames, '.' ∉ segment)
    (hb : ∀ segment ∈ b.package ++ b.simpleNames, '.' ∉ segment)
    (hupper : startsUpper a.topLevelName = true)
    (hlower : ∀ segment ∈ b.package, startsUpper segment = false) : ¬ a.Hides b := by
  rintro ⟨hpackage, hpath⟩
  obtain ⟨first, others, hp⟩ := List.exists_cons_of_ne_nil hpackage
  have hsegments : a.topLevelName :: a.simpleNames.tail = first :: (others ++ b.simpleNames) := by
    rw [a.topLevelName_cons, ← split_nestedPath ha, hpath, split_toText hb, hp, List.cons_append]
  have hfirst : a.topLevelName = first := (List.cons.inj hsegments).1
  rw [hfirst, hlower first (hp ▸ List.mem_cons_self)] at hupper
  simp at hupper

/-- A type with one simple name is its own outermost type. -/
lemma topLevel_eq_self {key : Text} (h : a.simpleNames = [key]) : a.topLevel = a := by
  obtain ⟨package, simpleNames, hne, hsegments⟩ := a
  subst h
  rfl

end QualifiedName

namespace Scope

variable {s : Scope} {a b n : QualifiedName} {text : Text}

/-- The ways in which a text refers to a type under the bindings of a scope. -/
inductive Prints (s : Scope) (n : QualifiedName) (text : Text) : Prop
  /-- The type itself is bound. -/
  | itself (htext : text = n.simpleName) (hself : s.holder? n.simpleName = some n)
  /-- The outermost type is bound. -/
  | nested (htext : text = n.nestedPath) (htop : s.holder? n.topLevelName = some n.topLevel)
  /-- The type is printed in full, which takes a package. -/
  | full (htext : text = n.toText) (hpackage : n.package ≠ [])

/-- What a text refers to, it goes on referring to. -/
lemma Prints.grows {t : Scope} (h : s.Prints n text) (hgrows : s.Grows t) : t.Prints n text := by
  cases h with
  | itself htext hself => exact .itself htext (hgrows.holder? hself)
  | nested htext htop => exact .nested htext (hgrows.holder? htop)
  | full htext hpackage => exact .full htext hpackage

/-- What a reference is answered refers to its type in the scope after it. -/
lemma prints_of_answer (h : s.answer n = .ok text) : (s.step (.refer n)).Prints n text := by
  have hanswers := s.answers_refer n
  rw [answer] at h
  rw [step]
  generalize s.refer n = r at hanswers h ⊢
  cases hanswers with
  | frozen => simp [Except.map] at h
  | unreachable => simp [Except.map] at h
  | itself _ hself => exact .itself (Except.ok.inj h).symm hself
  | nested _ _ htop => exact .nested (Except.ok.inj h).symm htop
  | taken _ _ _ _ hpackage => exact .full (Except.ok.inj h).symm hpackage
  | builtin _ _ _ hpackage _ => exact .full (Except.ok.inj h).symm hpackage
  | claimed _ _ hfree _ =>
    apply Prints.nested (Except.ok.inj h).symm
    have hkey : n.claim.key = n.topLevelName := rfl
    rw [holder?, find?_bind, hfree, Option.none_or, if_pos hkey]
    rfl

/-- **What a reference of a run was answered refers to its type at the end of the run.** -/
theorem prints_of_mem_answers {calls : List Call} (h : (n, .ok text) ∈ s.answers calls) :
    (s.run calls).Prints n text := by
  obtain ⟨before, after, rfl, hanswer⟩ := exists_of_mem_answers h
  rw [run_append, run_cons]
  exact (prints_of_answer hanswer).grows (grows_run _ after)

/-- A simple name without dots is no full text of a type of a package. -/
lemma simpleName_ne_toText (ha : '.' ∉ a.simpleName) (hb : b.package ≠ []) :
    a.simpleName ≠ b.toText := by
  intro h
  rw [h, QualifiedName.toText_of_packaged hb] at ha
  exact ha (List.mem_append_right _ List.mem_cons_self)

/-- A simple name that is bound to its type is no nested path of another type whose outermost type
is bound. -/
lemma eq_of_simpleName_eq_nestedPath (ha : '.' ∉ a.simpleName)
    (hb : ∀ segment ∈ b.simpleNames, '.' ∉ segment) (h : a.simpleName = b.nestedPath)
    (hself : s.holder? a.simpleName = some a)
    (htop : s.holder? b.topLevelName = some b.topLevel) : a = b := by
  have hnames : b.simpleNames = [a.simpleName] := by
    rw [← QualifiedName.split_nestedPath hb, ← h, Text.split_of_not_mem ha]
  have hkey : b.topLevelName = a.simpleName := by
    simp only [QualifiedName.topLevelName, hnames, List.head_cons]
  rw [hkey, hself, QualifiedName.topLevel_eq_self hnames] at htop
  exact Option.some.inj htop

/-- Two types with the same nested path have the same full text, if the outermost types of both are
bound. -/
lemma toText_eq_of_nestedPath_eq (ha : ∀ segment ∈ a.simpleNames, '.' ∉ segment)
    (hb : ∀ segment ∈ b.simpleNames, '.' ∉ segment) (h : a.nestedPath = b.nestedPath)
    (hatop : s.holder? a.topLevelName = some a.topLevel)
    (hbtop : s.holder? b.topLevelName = some b.topLevel) : a.toText = b.toText := by
  have hnames : a.simpleNames = b.simpleNames := by
    rw [← QualifiedName.split_nestedPath ha, h, QualifiedName.split_nestedPath hb]
  have hkey : a.topLevelName = b.topLevelName := by
    simp only [QualifiedName.topLevelName, hnames]
  rw [hkey, hbtop] at hatop
  have htop : b.topLevel = a.topLevel := Option.some.inj hatop
  have hpackage : b.package = a.package := by
    rw [← b.topLevel_package, htop, a.topLevel_package]
  rw [QualifiedName.toText, QualifiedName.toText, hpackage, hnames]

/-- **Two types share a text only if one of them hides the other**, or if their full texts are the
same.

**Proof sketch.** Two short forms that are the same text start with the same bound simple name,
which stands for one type. A full text has a dot, so that it is no simple name; and if it is a
nested path, then its type is hidden. -/
theorem Prints.hides (ha : s.Prints a text) (hb : s.Prints b text)
    (hadot : ∀ segment ∈ a.simpleNames, '.' ∉ segment)
    (hbdot : ∀ segment ∈ b.simpleNames, '.' ∉ segment) :
    a.toText = b.toText ∨ a.Hides b ∨ b.Hides a := by
  have hasimple : '.' ∉ a.simpleName := hadot _ a.simpleName_mem
  have hbsimple : '.' ∉ b.simpleName := hbdot _ b.simpleName_mem
  cases ha with
  | itself hta haself =>
    cases hb with
    | itself htb hbself =>
      rw [← hta, htb, hbself] at haself
      exact .inl (congrArg _ (Option.some.inj haself).symm)
    | nested htb hbtop =>
      have hsame := eq_of_simpleName_eq_nestedPath hasimple hbdot (hta.symm.trans htb) haself hbtop
      exact .inl (congrArg _ hsame)
    | full htb hbpackage =>
      exact absurd (hta.symm.trans htb) (simpleName_ne_toText hasimple hbpackage)
  | nested hta hatop =>
    cases hb with
    | itself htb hbself =>
      have hsame := eq_of_simpleName_eq_nestedPath hbsimple hadot (htb.symm.trans hta) hbself hatop
      exact .inl (congrArg _ hsame.symm)
    | nested htb hbtop =>
      exact .inl (toText_eq_of_nestedPath_eq hadot hbdot (hta.symm.trans htb) hatop hbtop)
    | full htb hbpackage => exact .inr (.inl ⟨hbpackage, hta.symm.trans htb⟩)
  | full hta hapackage =>
    cases hb with
    | itself htb _ =>
      exact absurd (htb.symm.trans hta) (simpleName_ne_toText hbsimple hapackage)
    | nested htb _ => exact .inr (.inr ⟨hapackage, htb.symm.trans hta⟩)
    | full htb _ => exact .inl (hta.symm.trans htb)

/-! ## Runs in which two types share a text -/

/-- Two types are printed alike in some run. -/
def Alike (a b : QualifiedName) : Prop :=
  ∃ builtinPackages calls text, (a, .ok text) ∈ (Scope.new builtinPackages).answers calls ∧
    (b, .ok text) ∈ (Scope.new builtinPackages).answers calls

lemma Alike.symm (h : Alike a b) : Alike b a := by
  obtain ⟨builtinPackages, calls, text, ha, hb⟩ := h
  exact ⟨builtinPackages, calls, text, hb, ha⟩

/-- A type of a built-in package is printed in full as long as nothing is bound. -/
lemma refer_builtin (h : n.package ≠ []) :
    (Scope.new [n.packageName]).refer n = .ok (n.toText, Scope.new [n.packageName]) := by
  simp [refer, Scope.new, find?, h]

/-- A type whose outermost type is bound is printed by its nested path, unless it is bound itself
and nested. -/
lemma answer_of_bound (hfrozen : s.frozen = false)
    (htop : s.holder? n.topLevelName = some n.topLevel)
    (hself : s.holder? n.simpleName = some n → n.topLevel = n) : s.answer n = .ok n.nestedPath := by
  obtain ⟨holder, hholder, hname⟩ := holder?_eq_some.mp htop
  have h := s.answers_refer n
  rw [answer]
  generalize s.refer n = r at h ⊢
  cases h with
  | frozen h => simp [hfrozen] at h
  | itself _ h =>
    have hnames : n.simpleNames = [n.topLevelName] :=
      congrArg QualifiedName.simpleNames (hself h).symm
    have hsimple : n.simpleName = n.topLevelName := congrArg QualifiedName.simpleName (hself h).symm
    rw [QualifiedName.nestedPath, hnames, hsimple]
    rfl
  | nested => rfl
  | unreachable _ _ hfind hother =>
    rw [hholder] at hfind
    exact absurd (Option.some.inj hfind ▸ hname) hother
  | taken _ _ hfind hother =>
    rw [hholder] at hfind
    exact absurd (Option.some.inj hfind ▸ hname) hother
  | builtin _ _ hfree => simp [hholder] at hfree
  | claimed _ _ hfree => simp [hholder] at hfree

/-- A type is printed like one that it hides, in a run that refers to that one first and then
declares the outermost type of this one. -/
lemma alike_of_hides (h : a.Hides b) : Alike a b := by
  obtain ⟨hpackage, hpath⟩ := h
  have hb : (Scope.new [b.packageName]).answer b = .ok b.toText := by
    rw [answer, refer_builtin hpackage]
    rfl
  -- the package of `b` is built in, so that `b` claims no simple name
  have hstep : (Scope.new [b.packageName]).step (.refer b) = Scope.new [b.packageName] := by
    rw [step, refer_builtin hpackage]
  have hholder : ∀ key, ((Scope.new [b.packageName]).step (.declare a.topLevel)).holder? key =
      if a.topLevelName = key then some a.topLevel else none := by
    intro key
    by_cases h : a.topLevelName = key <;>
      simp [step, declare, Scope.new, bind, holder?, find?, h]
  have ha : ((Scope.new [b.packageName]).step (.declare a.topLevel)).answer a =
      .ok b.toText := by
    rw [← hpath]
    apply answer_of_bound rfl
    · rw [hholder, if_pos rfl]
    · intro hself
      rw [hholder] at hself
      split at hself
      · exact Option.some.inj hself
      · simp at hself
  refine ⟨[b.packageName], [.refer b, .declare a.topLevel, .refer a], b.toText, ?_, ?_⟩
  · simp [answers, hstep, ha]
  · simp [answers, hb]

/-- **Which types may be printed alike.** Two types of names that can be read, with different full
texts, are printed alike in some run if and only if one of them hides the other. That never happens
if both are read back from their full texts.

**Proof sketch.** What was answered at two points of a run refers to both types at its end
(`prints_of_mem_answers`), so that `Prints.hides` applies. Conversely `alike_of_hides` is a run. -/
theorem texts_apart {x y : Text} (ha : QualifiedName.parse x = .ok a)
    (hb : QualifiedName.parse y = .ok b) (hne : a.toText ≠ b.toText) :
    (Alike a b ↔ a.Hides b ∨ b.Hides a) ∧ (a.ReadsBack → b.ReadsBack → ¬ Alike a b) := by
  have hadot := (QualifiedName.parse_eq_ok_iff.mp ha).1
  have hbdot := (QualifiedName.parse_eq_ok_iff.mp hb).1
  have hanames : ∀ segment ∈ a.simpleNames, '.' ∉ segment :=
    fun segment hs => hadot segment (List.mem_append_right _ hs)
  have hbnames : ∀ segment ∈ b.simpleNames, '.' ∉ segment :=
    fun segment hs => hbdot segment (List.mem_append_right _ hs)
  have halike : Alike a b ↔ a.Hides b ∨ b.Hides a := by
    constructor
    · rintro ⟨builtinPackages, calls, text, hta, htb⟩
      have hpa := prints_of_mem_answers hta
      have hpb := prints_of_mem_answers htb
      exact (hpa.hides hpb hanames hbnames).resolve_left hne
    · exact fun h => h.elim alike_of_hides fun h => (alike_of_hides h).symm
  refine ⟨halike, fun haback hbback => ?_⟩
  obtain ⟨-, haupper, halower⟩ := (QualifiedName.readsBack_iff ha).mp haback
  obtain ⟨-, hbupper, hblower⟩ := (QualifiedName.readsBack_iff hb).mp hbback
  rw [halike, not_or]
  exact ⟨QualifiedName.not_hides hanames hbdot haupper hblower,
    QualifiedName.not_hides hbnames hadot hbupper halower⟩

/-- The type `Item` nested in `Shop`, of the package `com.x`. -/
def shopItem : QualifiedName :=
  ⟨[Text.lit "com", Text.lit "x"], [Text.lit "Shop", Text.lit "Item"], by decide, by decide⟩

/-- The type `Item` of a package called `Shop`. -/
def itemOfShop : QualifiedName := ⟨[Text.lit "Shop"], [Text.lit "Item"], by decide, by decide⟩

/-- The type `Item` of the package `org`. -/
def orgItem : QualifiedName := ⟨[Text.lit "org"], [Text.lit "Item"], by decide, by decide⟩

/-- Two types called `Item` whose packages keep to the convention are never printed alike. -/
theorem texts_apart_item :
    QualifiedName.parse (Text.lit "com.x.Shop.Item") = .ok shopItem ∧
      QualifiedName.parse (Text.lit "org.Item") = .ok orgItem ∧ ¬ Alike shopItem orgItem := by
  have ha : QualifiedName.parse (Text.lit "com.x.Shop.Item") = .ok shopItem := by decide
  have hb : QualifiedName.parse (Text.lit "org.Item") = .ok orgItem := by decide
  exact ⟨ha, hb, (texts_apart ha hb (by decide)).2 (by unfold QualifiedName.ReadsBack; decide)
    (by unfold QualifiedName.ReadsBack; decide)⟩

/-- The types `Shop:Item` and `com.x.Shop.Item` are both printed `Shop.Item` in one run, although
their full texts differ. -/
theorem items_alike :
    QualifiedName.parse (Text.lit "Shop:Item") = .ok itemOfShop ∧
      QualifiedName.parse (Text.lit "com.x.Shop.Item") = .ok shopItem ∧
      itemOfShop.toText ≠ shopItem.toText ∧
      (Scope.new []).answers [.declare orgItem, .refer itemOfShop, .refer shopItem] =
        [(itemOfShop, .ok (Text.lit "Shop.Item")), (shopItem, .ok (Text.lit "Shop.Item"))] := by
  decide

end Scope

end UnitForge
