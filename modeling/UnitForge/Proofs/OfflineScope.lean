import UnitForge.Proofs.ScopeRuns

set_option autoImplicit false

/-!
# Scopes decided offline

A scope decides one call at a time and never looks back. If all declarations come before all
references, as they do in a unit, the same decisions can be read off the two lists: who binds a
simple name in a first pass, and from the bindings alone what every reference is answered in a
second.

## Main definitions

* `UnitForge.Offline.calls` — the run that is decided: declarations and then references.
* `UnitForge.Offline.winner`, `UnitForge.Offline.binding?` — the type declared under a simple name,
  and the binding of a simple name, found by searching the two lists.
* `UnitForge.Scope.verdict` — what the bindings of a scope alone say about a reference.

## Main results

* `UnitForge.Scope.find?_run_refer` — the binding of a simple name after a list of references.
* `UnitForge.Scope.answer_verdict` — an answer agrees with the verdict of every later scope.
* `UnitForge.Offline.run_eq_offline` — the decisions of a run are those of the two passes.

## Implementation notes

Whether a reference claims a simple name depends on whether its type is bound itself, and that may
change while references are made. It changes only for the simple names that are claimed, so it may
be decided at the start (`UnitForge.Scope.claims_step`).
-/

namespace UnitForge

namespace Offline

/-- The first of the declared types that has a simple name. -/
def winner (seeds : List QualifiedName) (key : Text) : Option QualifiedName :=
  seeds.find? (·.simpleName = key)

/-- Whether a reference claims a simple name, if that is free: it is the one of the outermost type,
the type itself is not bound by its declaration, and its package is not a built-in one. -/
def Claims (builtinPackages : List Text) (seeds : List QualifiedName) (key : Text)
    (n : QualifiedName) : Prop :=
  n.topLevelName = key ∧ winner seeds n.simpleName ≠ some n ∧
    (n.package = [] ∨ n.packageName ∉ builtinPackages)

instance (builtinPackages : List Text) (seeds : List QualifiedName) (key : Text)
    (n : QualifiedName) : Decidable (Claims builtinPackages seeds key n) :=
  inferInstanceAs (Decidable (_ ∧ _))

/-- The binding of a simple name after declarations and then references: that of the first type
declared under it, or else that of the outermost type of the first reference that claims it. -/
def binding? (builtinPackages : List Text) (seeds references : List QualifiedName) (key : Text) :
    Option Binding :=
  match winner seeds key with
  | some n => some ⟨key, n, .implicit⟩
  | none =>
    (references.find? (Claims builtinPackages seeds key ·)).map fun n =>
      ⟨key, n.topLevel, if n.package = [] then .implicit else .explicit⟩

end Offline

namespace Scope

variable {s t : Scope} {n m : QualifiedName} {key : Text}

/-- What the bindings of a scope alone say about a reference: the text that refers to the type, if
there is one. -/
def verdict (s : Scope) (n : QualifiedName) : Option Text :=
  if s.holder? n.simpleName = some n then some n.simpleName
  else if s.holder? n.topLevelName = some n.topLevel then some n.nestedPath
  else if n.package = [] then none
  else some n.toText

/-! ## Declarations -/

/-- A declaration binds its simple name if that is free, and no other. -/
lemma find?_step_declare (hs : s.frozen = false) (n : QualifiedName) (key : Text) :
    (s.step (.declare n)).find? key =
      (s.find? key).or (if n.simpleName = key then some ⟨key, n, .implicit⟩ else none) := by
  rw [step, declare, hs, if_neg Bool.false_ne_true]
  cases hfind : s.find? n.simpleName with
  | none =>
    rw [find?_bind]
    by_cases h : n.simpleName = key
    · rw [if_pos h, if_pos h, h]
    · rw [if_neg h, if_neg h]
  | some b =>
    by_cases h : n.simpleName = key
    · rw [← h, hfind, Option.some_or]
    · rw [if_neg h, Option.or_none]

/-- Only freezing closes the unit of a scope. -/
lemma frozen_step (s : Scope) (call : Call) (hcall : call ≠ .freeze) :
    (s.step call).frozen = s.frozen := by
  have hchange := s.change_step call
  generalize s.step call = t at hchange ⊢
  cases hchange with
  | frozen => exact absurd rfl hcall
  | _ => rfl

/-- Declarations and references do not close the unit of a scope. -/
lemma frozen_run {calls : List Call} (hs : s.frozen = false)
    (hcalls : ∀ call ∈ calls, call ≠ .freeze) : (s.run calls).frozen = false :=
  run_induction (P := fun t => t.frozen = false) hs fun t ht call hc =>
    (t.frozen_step call (hcalls call hc)).trans ht

/-- **The bindings after declarations**: a free simple name is bound by the first declaration of a
type that has it. -/
theorem find?_run_declare (hs : s.frozen = false) (seeds : List QualifiedName) (key : Text) :
    (s.run (seeds.map .declare)).find? key =
      (s.find? key).or ((Offline.winner seeds key).map fun n => ⟨key, n, .implicit⟩) := by
  induction seeds generalizing s with
  | nil => exact Option.or_none.symm
  | cons n seeds ih =>
    have hstep : (s.step (.declare n)).frozen = false :=
      (s.frozen_step (.declare n) (by simp)).trans hs
    rw [List.map_cons, run_cons, ih hstep, find?_step_declare hs, Offline.winner, Offline.winner,
      List.find?_cons, Option.or_assoc]
    by_cases h : n.simpleName = key <;> simp [h]

/-! ## References -/

/-- Whether a reference claims a simple name, if that is free. -/
def Claims (s : Scope) (key : Text) (n : QualifiedName) : Prop :=
  n.topLevelName = key ∧ s.holder? n.simpleName ≠ some n ∧
    (n.package = [] ∨ n.packageName ∉ s.builtinPackages)

instance (s : Scope) (key : Text) (n : QualifiedName) : Decidable (s.Claims key n) :=
  inferInstanceAs (Decidable (_ ∧ _))

/-- A reference binds the simple name that it claims if that is free, and no other. -/
lemma find?_step_refer (hs : s.frozen = false) (n : QualifiedName) (key : Text) :
    (s.step (.refer n)).find? key =
      (s.find? key).or (if s.Claims key n then some n.claim else none) := by
  -- A simple name that is bound already stays as it is, whether the reference claims it or not.
  have bound : ∀ {b}, s.find? n.topLevelName = some b →
      s.find? key = (s.find? key).or (if s.Claims key n then some n.claim else none) := by
    intro b hfind
    by_cases h : s.Claims key n
    · rw [← h.1, hfind, Option.some_or]
    · rw [if_neg h, Option.or_none]
  have h := s.answers_refer n
  rw [step]
  generalize s.refer n = r at h ⊢
  cases h with
  | frozen hfrozen => exact absurd (hfrozen.symm.trans hs) (by decide)
  | itself hfrozen hself => rw [if_neg fun h => h.2.1 hself, Option.or_none]
  | nested hfrozen hself htop =>
    obtain ⟨b, hfind, -⟩ := holder?_eq_some.mp htop
    exact bound hfind
  | unreachable hfrozen hself hfind => exact bound hfind
  | taken hfrozen hself hfind => exact bound hfind
  | builtin hfrozen hself hfree hpackage hbuiltin =>
    rw [if_neg fun h => h.2.2.elim hpackage fun h => h hbuiltin, Option.or_none]
  | claimed hfrozen hself hfree hclaim =>
    have hkey : n.claim.key = n.topLevelName := rfl
    rw [find?_bind, hkey]
    by_cases h : n.topLevelName = key
    · rw [if_pos h, if_pos ⟨h, hself, hclaim⟩]
    · rw [if_neg h, if_neg fun hc => h hc.1]

/-- A reference does not change who claims a simple name that stays free.

**Proof sketch.** It matters only whether the claiming type is bound itself. If the reference binds
it, then to its own outermost simple name, which is the one that stays free. -/
lemma claims_step (hs : s.frozen = false) (hfree : (s.step (.refer n)).find? key = none) :
    (s.step (.refer n)).Claims key m ↔ s.Claims key m := by
  have hgrows := s.grows_step (.refer n)
  rw [Claims, Claims, hgrows.builtinPackages]
  refine and_congr_right fun htop => and_congr_left fun _ => not_congr ⟨fun h => ?_, hgrows.holder?⟩
  obtain ⟨b, hb, hname⟩ := holder?_eq_some.mp h
  rw [find?_step_refer hs] at hb
  cases hfind : s.find? m.simpleName with
  | some c =>
    rw [hfind, Option.some_or] at hb
    exact holder?_eq_some.mpr ⟨b, hfind.trans hb, hname⟩
  | none =>
    rw [hfind, Option.none_or, Option.ite_none_right_eq_some, Option.some.injEq] at hb
    obtain ⟨hclaims, rfl⟩ := hb
    have hkey : key = m.simpleName := calc
      key = m.topLevelName := htop.symm
      _ = n.topLevelName := by rw [← hname]; rfl
      _ = m.simpleName := hclaims.1
    rw [find?_step_refer hs, hkey, hfind, Option.none_or, if_pos hclaims] at hfree
    simp at hfree

/-- **The bindings after references**: a free simple name is bound by the first reference that
claims it.

**Proof sketch.** Induction on the references. A simple name that is bound stays as it is, and the
first reference binds the simple name that it claims. If the simple name stays free, the same
references claim it before and after (`claims_step`). -/
theorem find?_run_refer (hs : s.frozen = false) (references : List QualifiedName) (key : Text) :
    (s.run (references.map .refer)).find? key =
      (s.find? key).or ((references.find? (s.Claims key ·)).map (·.claim)) := by
  induction references generalizing s with
  | nil => exact Option.or_none.symm
  | cons n references ih =>
    have hstep : (s.step (.refer n)).frozen = false :=
      (s.frozen_step (.refer n) (by simp)).trans hs
    rw [List.map_cons, run_cons, ih hstep]
    cases hfree : (s.step (.refer n)).find? key with
    | some b =>
      rw [find?_step_refer hs] at hfree
      rw [Option.some_or]
      cases hfind : s.find? key with
      | some c =>
        rw [hfind] at hfree
        exact hfree.symm
      | none =>
        rw [hfind, Option.none_or, Option.ite_none_right_eq_some] at hfree
        obtain ⟨hclaims, hb⟩ := hfree
        rw [Option.none_or, List.find?_cons_of_pos (by simpa using hclaims), Option.map_some, hb]
    | none =>
      have hsame : (fun m => decide ((s.step (.refer n)).Claims key m)) =
          fun m => decide (s.Claims key m) := by
        funext m
        exact decide_eq_decide.mpr (claims_step hs hfree)
      rw [find?_step_refer hs, Option.or_eq_none_iff, ite_eq_right_iff] at hfree
      have hclaims : ¬ s.Claims key n := fun h => absurd (hfree.2 h) (by simp)
      rw [hsame, hfree.1, Option.none_or, Option.none_or,
        List.find?_cons_of_neg (by simpa using hclaims)]

/-- A type that references have bound is the outermost type of one of them. -/
lemma exists_claim (hs : s.frozen = false) {references : List QualifiedName}
    (hbefore : s.holder? key ≠ some n)
    (hafter : (s.run (references.map .refer)).holder? key = some n) :
    ∃ m, n = m.topLevel ∧ s.Claims key m := by
  obtain ⟨b, hb, hname⟩ := holder?_eq_some.mp hafter
  rw [find?_run_refer hs, Option.or_eq_some_iff] at hb
  rcases hb with hb | ⟨-, hb⟩
  · exact absurd (holder?_eq_some.mpr ⟨b, hb, hname⟩) hbefore
  · obtain ⟨m, hm, rfl⟩ := Option.map_eq_some_iff.mp hb
    exact ⟨m, hname.symm, by simpa using List.find?_some hm⟩

/-! ## Answers and verdicts -/

/-- A type whose outermost type is bound is printed by its nested path; if it is bound itself, it
is its own outermost type, and the path is its simple name. -/
lemma verdict_of_holder (htop : t.holder? n.topLevelName = some n.topLevel)
    (hself : t.holder? n.simpleName = some n → ∃ m : QualifiedName, n = m.topLevel) :
    t.verdict n = some n.nestedPath := by
  by_cases h : t.holder? n.simpleName = some n
  · obtain ⟨m, rfl⟩ := hself h
    rw [verdict, if_pos h]
    rfl
  · rw [verdict, if_neg h, if_pos htop]

/-- A type that is not bound, and whose outermost type is not bound, is printed in full, if it has
a package. -/
lemma verdict_of_not_holder (htop : t.holder? n.topLevelName ≠ some n.topLevel)
    (hself : t.holder? n.simpleName ≠ some n) :
    t.verdict n = if n.package = [] then none else some n.toText := by
  rw [verdict, if_neg hself, if_neg htop]

/-- **An answer is what all later bindings say.** Whatever references follow, the bindings after
them give the same text for the reference, or no text if it failed; a failure names the type that
is bound at the end.

**Proof sketch.** By cases on the way of answering. What was bound stays bound. If the type, or its
outermost type, becomes bound later, it is claimed by a reference, so that it is its own outermost
type and its package is not built in. -/
theorem answer_verdict (hs : s.frozen = false) (n : QualifiedName)
    (references : List QualifiedName) :
    (s.answer n).toOption = (s.run ((n :: references).map .refer)).verdict n ∧
    ∀ e, s.answer n = .error e →
      ∃ b, (s.run ((n :: references).map .refer)).find? n.topLevelName = some b ∧
        e = .unreachable n n.topLevelName b.name := by
  set final := s.run ((n :: references).map .refer) with hfinal
  have hgrows : s.Grows final := s.grows_run _
  have hlater : (s.step (.refer n)).Grows final := Scope.grows_run _ (references.map .refer)
  have claimed : ∀ {key m}, s.holder? key ≠ some m → final.holder? key = some m →
      ∃ m', m = m'.topLevel ∧ s.Claims key m' := exists_claim hs
  have h := s.answers_refer n
  rw [answer]
  rw [step] at hlater
  generalize s.refer n = r at h hlater ⊢
  -- Once a type other than the outermost one is bound under its simple name, neither is bound.
  have lost : ∀ {b}, s.holder? n.simpleName ≠ some n → s.find? n.topLevelName = some b →
      b.name ≠ n.topLevel → final.verdict n = if n.package = [] then none else some n.toText := by
    intro b hself hfind hother
    have htop : final.holder? n.topLevelName = some b.name :=
      holder?_eq_some.mpr ⟨b, hgrows.find? hfind, rfl⟩
    refine verdict_of_not_holder (fun h => ?_) fun h => ?_
    · exact hother (Option.some.inj (htop.symm.trans h))
    · obtain ⟨m, rfl, -⟩ := claimed hself h
      exact hother (Option.some.inj (htop.symm.trans h))
  cases h with
  | frozen hfrozen => exact absurd (hfrozen.symm.trans hs) (by decide)
  | itself hfrozen hself =>
    refine ⟨?_, by simp [Except.map]⟩
    rw [verdict, if_pos (hgrows.holder? hself)]
    rfl
  | nested hfrozen hself htop =>
    refine ⟨?_, by simp [Except.map]⟩
    rw [verdict_of_holder (hgrows.holder? htop) fun h =>
      (claimed hself h).imp fun _ => And.left]
    rfl
  | unreachable hfrozen hself hfind hother hpackage =>
    refine ⟨?_, fun e he => ?_⟩
    · rw [lost hself hfind hother, if_pos hpackage]
      rfl
    · exact ⟨_, hgrows.find? hfind, (Except.error.inj he).symm⟩
  | taken hfrozen hself hfind hother hpackage =>
    refine ⟨?_, by simp [Except.map]⟩
    rw [lost hself hfind hother, if_neg hpackage]
    rfl
  | builtin hfrozen hself hfree hpackage hbuiltin =>
    refine ⟨?_, by simp [Except.map]⟩
    have htop : final.holder? n.topLevelName ≠ some n.topLevel := by
      intro h
      obtain ⟨m, hm, -, -, hclaim⟩ :=
        claimed (by rw [holder?, hfree]; simp) h
      have hp : n.package = m.package := by simpa using congrArg QualifiedName.package hm
      have hname : n.packageName = m.packageName := by
        simpa using congrArg QualifiedName.packageName hm
      rw [← hp, ← hname] at hclaim
      exact hclaim.elim hpackage fun h => h hbuiltin
    have hself' : final.holder? n.simpleName ≠ some n := by
      intro h
      obtain ⟨m, rfl, -, -, hclaim⟩ := claimed hself h
      exact hclaim.elim hpackage fun h => h hbuiltin
    rw [verdict_of_not_holder htop hself', if_neg hpackage]
    rfl
  | claimed hfrozen hself hfree hclaim =>
    refine ⟨?_, by simp [Except.map]⟩
    have htop : (s.bind n.claim).holder? n.topLevelName = some n.topLevel :=
      holder?_eq_some.mpr ⟨n.claim, by rw [find?_bind, hfree]; exact if_pos rfl, rfl⟩
    rw [verdict_of_holder (hlater.holder? htop) fun h =>
      (claimed hself h).imp fun _ => And.left]
    rfl

/-- Declarations are answered nothing. -/
lemma answers_declare (s : Scope) (seeds : List QualifiedName) (calls : List Call) :
    s.answers (seeds.map .declare ++ calls) = (s.run (seeds.map .declare)).answers calls := by
  induction seeds generalizing s with
  | nil => rfl
  | cons n seeds ih => exact ih _

/-- **All answers of a list of references are what the bindings at the end say.** -/
theorem answers_verdict (hs : s.frozen = false) (references : List QualifiedName) :
    ((s.answers (references.map .refer)).map fun (n, a) => (n, a.toOption)) =
      references.map fun n => (n, (s.run (references.map .refer)).verdict n) := by
  induction references generalizing s with
  | nil => rfl
  | cons n references ih =>
    have hstep : (s.step (.refer n)).frozen = false :=
      (s.frozen_step (.refer n) (by simp)).trans hs
    have hhead := (answer_verdict hs n references).1
    rw [List.map_cons, answers, List.map_cons, List.map_cons, ih hstep]
    show (n, (s.answer n).toOption) :: _ = _
    rw [hhead]
    rfl

/-- A failed reference of a list names the type that is bound at the end. -/
lemma error_of_mem_answers (hs : s.frozen = false) {references : List QualifiedName}
    {e : ScopeError} (h : (n, .error e) ∈ s.answers (references.map .refer)) :
    ∃ b, (s.run (references.map .refer)).find? n.topLevelName = some b ∧
      e = .unreachable n n.topLevelName b.name := by
  induction references generalizing s with
  | nil => exact absurd h List.not_mem_nil
  | cons m references ih =>
    have hstep : (s.step (.refer m)).frozen = false :=
      (s.frozen_step (.refer m) (by simp)).trans hs
    rw [List.map_cons, answers, List.mem_cons, Prod.mk.injEq] at h
    rcases h with ⟨rfl, ha⟩ | h
    · exact (answer_verdict hs n references).2 e ha.symm
    · exact ih hstep h

end Scope

namespace Offline

open Scope

/-- Declarations and then references, as calls on a scope. -/
def calls (seeds references : List QualifiedName) : List Call :=
  seeds.map .declare ++ references.map .refer

section

variable (builtinPackages : List Text) (seeds references : List QualifiedName)

/-- After the declarations a type is bound itself if and only if it wins its simple name. -/
lemma holder?_run_declare (key : Text) :
    ((Scope.new builtinPackages).run (seeds.map .declare)).holder? key = winner seeds key := by
  rw [holder?, find?_run_declare rfl]
  cases winner seeds key <;> rfl

/-- Who claims a simple name by the lists claims it when the references start. -/
lemma claims_run_declare (key : Text) (n : QualifiedName) :
    ((Scope.new builtinPackages).run (seeds.map .declare)).Claims key n ↔
      Claims builtinPackages seeds key n := by
  have hgrows := (Scope.new builtinPackages).grows_run (seeds.map .declare)
  rw [Scope.Claims, holder?_run_declare, hgrows.builtinPackages]
  rfl

/-- The binding of a simple name after a run is the one found in the lists. -/
lemma find?_run (hfrozen : ((Scope.new builtinPackages).run (seeds.map .declare)).frozen = false)
    (key : Text) :
    ((Scope.new builtinPackages).run (calls seeds references)).find? key =
      binding? builtinPackages seeds references key := by
  have hclaims : (fun n => decide
      (((Scope.new builtinPackages).run (seeds.map .declare)).Claims key n)) =
      fun n => decide (Claims builtinPackages seeds key n) := by
    funext n
    exact decide_eq_decide.mpr (claims_run_declare builtinPackages seeds key n)
  rw [calls, run_append, find?_run_refer hfrozen, hclaims, find?_run_declare rfl, binding?]
  cases winner seeds key with
  | some n => rfl
  | none =>
    cases hfind : references.find? (Claims builtinPackages seeds key ·) with
    | none => rfl
    | some n =>
      have hn : Claims builtinPackages seeds key n := by simpa using List.find?_some hfind
      rw [← hn.1]
      rfl

end

/-- **Deciding online is deciding offline.** After declarations and then references, some of which
may fail, every simple name is bound as a search of the two lists says, no simple name is bound
twice, and every reference was answered what the bindings at the end say: a text, or a failure that
names the type bound in its place.

**Proof sketch.** The declarations come first, so that whether a type is bound itself when the
references start is told by `winner`. The rest is `find?_run_refer` and `answers_verdict`. -/
theorem run_eq_offline (builtinPackages : List Text) (seeds references : List QualifiedName) :
    let final := (Scope.new builtinPackages).run (calls seeds references)
    let answers := (Scope.new builtinPackages).answers (calls seeds references)
    (∀ key, final.find? key = binding? builtinPackages seeds references key) ∧
    (final.bindings.map (·.key)).Nodup ∧
    (answers.map fun (n, a) => (n, a.toOption)) = references.map (fun n => (n, final.verdict n)) ∧
    ∀ n e, (n, .error e) ∈ answers →
      ∃ b, final.find? n.topLevelName = some b ∧ e = .unreachable n n.topLevelName b.name := by
  have hfrozen : ((Scope.new builtinPackages).run (seeds.map .declare)).frozen = false := by
    apply frozen_run rfl
    rintro call hc rfl
    simp at hc
  intro final answers
  have hanswers : answers = ((Scope.new builtinPackages).run (seeds.map .declare)).answers
      (references.map .refer) := answers_declare _ seeds _
  have hfinal : final = ((Scope.new builtinPackages).run (seeds.map .declare)).run
      (references.map .refer) := run_append _ _ _
  refine ⟨find?_run builtinPackages seeds references hfrozen, ?_, ?_, fun n e h => ?_⟩
  · exact (wellFormed_run (wellFormed_new builtinPackages) _).distinct
  · rw [hanswers, hfinal]
    exact answers_verdict hfrozen references
  · rw [hanswers] at h
    rw [hfinal]
    exact error_of_mem_answers hfrozen h

end Offline

end UnitForge
