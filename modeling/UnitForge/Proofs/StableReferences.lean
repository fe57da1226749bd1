import UnitForge.Proofs.DraftScope
import UnitForge.Proofs.OfflineScope

set_option autoImplicit false

/-!
# References are stable

A scope that has once been asked for a type gives the same answer ever after, whatever types it is
asked for in between. A reference to a type of a built-in package claims nothing, so that another
type may claim its simple name later; and a type without a package may be refused. Neither changes
what is answered.

## Main results

* `UnitForge.Scope.step_refer_of_grows` — after a reference, a reference to the same type changes no
  later scope.
* `UnitForge.Scope.references_stable` — the same answer at the start and at the end of a list of
  references, and all bindings kept in between.
-/

namespace UnitForge.Scope

variable {s t : Scope} {n : QualifiedName} {key : Text}

/-- What is free in a later scope was free before. -/
lemma Grows.find?_eq_none (h : s.Grows t) (hfree : t.find? key = none) : s.find? key = none := by
  cases hfind : s.find? key with
  | none => rfl
  | some b => exact absurd ((h.find? hfind).symm.trans hfree) (by simp)

/-- A unit that is open in a later scope was open before. -/
lemma Grows.frozen_eq_false (h : s.Grows t) (hopen : t.frozen = false) : s.frozen = false := by
  rw [← Bool.not_eq_true] at hopen ⊢
  exact fun hfrozen => hopen (h.frozen hfrozen)

/-- **After a reference, a reference to the same type changes no later scope.**

**Proof sketch.** It could only claim the simple name of the outermost type. That would be free in
the later scope, so it was free when the type was referred to first; nothing but the claim itself
can have kept the first reference from claiming it. -/
lemma step_refer_of_grows (h : (s.step (.refer n)).Grows t) : t.step (.refer n) = t := by
  have hgrows : s.Grows t := (s.grows_step (.refer n)).trans h
  have hanswers := t.answers_refer n
  rw [step]
  generalize t.refer n = r at hanswers ⊢
  cases hanswers with
  | claimed hfrozen hself hfree hclaim =>
    have hclaims : s.Claims n.topLevelName n := by
      rw [hgrows.builtinPackages] at hclaim
      exact ⟨rfl, fun hbound => hself (hgrows.holder? hbound), hclaim⟩
    have hfirst := h.find?_eq_none hfree
    rw [find?_step_refer (hgrows.frozen_eq_false hfrozen), if_pos hclaims,
      hgrows.find?_eq_none hfree] at hfirst
    exact absurd hfirst (by simp)
  | _ => rfl

/-- The answer to a reference is the same before and after further references.

**Proof sketch.** Both answers agree with what the bindings at the end say about the type
(`answer_verdict`), as the last reference adds none. If both are failures, each names the type that
is bound at the end. -/
lemma answer_run_refer (hs : s.frozen = false) (n : QualifiedName) (names : List QualifiedName) :
    (s.run ((n :: names).map .refer)).answer n = s.answer n := by
  set final := s.run ((n :: names).map .refer) with hfinal
  have hopen : final.frozen = false := frozen_run hs (by simp)
  have hkept : final.run ([n].map .refer) = final := by
    apply step_refer_of_grows (s := s)
    exact Scope.grows_run _ (names.map .refer)
  obtain ⟨htext, hfailure⟩ := answer_verdict hs n names
  obtain ⟨htextAgain, hfailureAgain⟩ := answer_verdict hopen n []
  rw [hkept] at htextAgain hfailureAgain
  rw [← hfinal] at htext hfailure
  have hsame : (final.answer n).toOption = (s.answer n).toOption := htextAgain.trans htext.symm
  cases hfirst : s.answer n with
  | ok text =>
    rw [hfirst] at hsame
    cases hlast : final.answer n with
    | ok text' =>
      rw [hlast] at hsame
      exact congrArg Except.ok (Option.some.inj hsame)
    | error e =>
      rw [hlast] at hsame
      exact absurd hsame (by simp [Except.toOption])
  | error e =>
    rw [hfirst] at hsame
    cases hlast : final.answer n with
    | ok text =>
      rw [hlast] at hsame
      exact absurd hsame (by simp [Except.toOption])
    | error e' =>
      obtain ⟨b, hb, rfl⟩ := hfailure e hfirst
      obtain ⟨b', hb', rfl⟩ := hfailureAgain e' hlast
      rw [Option.some.inj (hb.symm.trans hb')]

/-- **References are stable.** Whatever a scope has been through, a reference to a type is answered
at the end of a list of references as it was at their start, with the same text or the same failure,
and the reference at the end changes nothing. At each point in between, every binding that there is
stays in its place to the end and goes on to be the one of its simple name, and a reference that
fails changes nothing. -/
theorem references_stable (s : Scope) (n : QualifiedName) (names : List QualifiedName) :
    let final := s.run ((n :: names).map .refer)
    final.answer n = s.answer n ∧ final.step (.refer n) = final ∧
    ∀ before after, n :: names = before ++ after →
      let t := s.run (before.map .refer)
      t.bindings <+: final.bindings ∧
      (∀ key b, t.find? key = some b → final.find? key = some b) ∧
      ∀ m e, t.answer m = .error e → t.step (.refer m) = t := by
  intro final
  refine ⟨?_, ?_, fun before after hnames => ?_⟩
  · cases hs : s.frozen with
    | false => exact answer_run_refer hs n names
    | true =>
      have hkept : final = s := Reaches.eq_of_frozen ⟨n :: names, rfl⟩ hs
      rw [hkept]
  · apply step_refer_of_grows (s := s)
    exact Scope.grows_run _ (names.map .refer)
  · have hgrows : (s.run (before.map .refer)).Grows final := by
      have hfinal : final = (s.run (before.map .refer)).run (after.map .refer) := by
        rw [← run_append, ← List.map_append, ← hnames]
      rw [hfinal]
      exact grows_run _ _
    refine ⟨hgrows.bindings, fun key b => hgrows.find?, fun m e hfails => ?_⟩
    rw [step]
    rw [answer] at hfails
    cases hrefer : (s.run (before.map .refer)).refer m with
    | error e => rfl
    | ok r =>
      rw [hrefer] at hfails
      exact absurd hfails (by simp [Except.map])

end UnitForge.Scope
