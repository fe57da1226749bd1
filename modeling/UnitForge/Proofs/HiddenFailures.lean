import UnitForge.Proofs.SurfacedFailures

set_option autoImplicit false

/-!
# Failures that the closing of a sink hides

When the scope of a unit cannot be seeded, and when work on an open unit fails, the sink of the unit
is closed before the failure is passed on. If the closing goes well, the failure reaches the caller
as it is, whatever it may be. If it fails too, only the failure to close is reported, and that of
the seeding or of the work is lost.

## Main definitions

* `UnitForge.UnitPlan.SeedingFailure` — why the scope of a unit cannot be seeded.

## Main results

* `UnitForge.UnitPlan.seededScope_eq_error_iff` — what seeding a scope fails with.
* `UnitForge.GeneratedUnit.closeAfter_of_error`, `UnitForge.GeneratedUnit.release_of_os` — a failure
  to close is all that is reported.
* `UnitForge.GeneratedUnit.closing_decides_failure` — which failures reach the caller.
-/

namespace UnitForge

/-! ## Seeding -/

/-- Declaring types in order fails for the first that is no name. -/
lemma Scope.declareAll_error {s : Scope} (hs : s.frozen = false) (front : List QualifiedName)
    (e : NameError) (back : List (Except NameError QualifiedName)) :
    (s.declareAll (front.map .ok ++ .error e :: back)).2 = some (.name e) := by
  induction front generalizing s with
  | nil => rfl
  | cons n front ih =>
    obtain ⟨hdeclare, hopen⟩ := declare_of_open hs n
    rw [List.map_cons, List.cons_append, declareAll, hdeclare]
    exact ih hopen

/-- No type of a package is called nothing. -/
lemma QualifiedName.sibling_nil (n : QualifiedName) :
    n.sibling [] = .error (.emptySegment n.package [[]]) := by
  have hempty : ¬ ∀ segment ∈ n.package ++ [[]], segment ≠ [] := fun h =>
    h [] (List.mem_append_right _ (List.mem_singleton_self _)) rfl
  rw [sibling, make, dif_pos (List.cons_ne_nil _ _), dif_neg hempty]

namespace UnitPlan

variable {p : UnitPlan} {e : Failure}

/-- Why the scope of a unit cannot be seeded. -/
inductive SeedingFailure (p : UnitPlan) : Failure → Prop
  /-- The types of its package cannot be told, for whatever reason. -/
  | untold {lookup : PackageLookup} {e : Failure} (hlookup : p.siblings = some lookup)
    (hfails : lookup p.name.packageName = .error e) : SeedingFailure p e
  /-- One of the types of its package is called nothing. -/
  | unnamed {lookup : PackageLookup} {names : List Text} (hlookup : p.siblings = some lookup)
    (hnames : lookup p.name.packageName = .ok names) (hempty : [] ∈ names) :
    SeedingFailure p (.name (.emptySegment p.name.package [[]]))

/-- Seeding a scope fails if there is a reason. -/
lemma SeedingFailure.seededScope (h : p.SeedingFailure e) : p.seededScope = .error e := by
  cases h with
  | untold hlookup hfails =>
    rw [UnitPlan.seededScope, seeds, hlookup]
    dsimp only
    rw [hfails]
    dsimp only
    rw [Scope.declareAll_ok rfl]
  | @unnamed lookup names hlookup hnames hempty =>
    obtain ⟨front, back, rfl, hfront⟩ := List.eq_append_cons_of_mem hempty
    obtain ⟨siblings, hsiblings⟩ :=
      p.name.exists_siblings fun x hx => ne_of_mem_of_not_mem hx hfront
    have hseeds : p.seeds = (((p.name :: p.nested) ++ siblings).map .ok ++
        .error (.emptySegment p.name.package [[]]) :: back.map p.name.sibling, none) := by
      rw [seeds, hlookup]
      dsimp only
      rw [hnames]
      dsimp only
      simp only [List.map_append, List.map_cons, hsiblings, p.name.sibling_nil, List.append_assoc]
    have hfails := Scope.declareAll_error (s := Scope.new p.builtinPackages) rfl
      ((p.name :: p.nested) ++ siblings) (.emptySegment p.name.package [[]])
      (back.map p.name.sibling)
    rw [UnitPlan.seededScope, hseeds]
    dsimp only
    generalize (Scope.new p.builtinPackages).declareAll _ = r at hfails ⊢
    obtain ⟨reached, stopped⟩ := r
    obtain rfl : stopped = _ := hfails
    rfl

/-- **What seeding a scope fails with.** -/
theorem seededScope_eq_error_iff : p.seededScope = .error e ↔ p.SeedingFailure e := by
  refine ⟨fun h => ?_, SeedingFailure.seededScope⟩
  by_contra hnone
  -- a reason for another failure would be a reason for this one
  have hnever : ∀ e', ¬ p.SeedingFailure e' := fun e' h' => by
    obtain rfl := Except.error.inj (h.symm.trans h'.seededScope)
    exact hnone h'
  obtain ⟨seeds, hknows⟩ : ∃ seeds, p.Knows seeds := by
    refine exists_knows fun lookup hlookup => ?_
    cases hnames : lookup p.name.packageName with
    | error e' => exact absurd (.untold hlookup hnames) (hnever e')
    | ok names =>
      refine ⟨names, rfl, fun x hx hempty => ?_⟩
      subst hempty
      exact hnever _ (.unnamed hlookup hnames hx)
  have hok := seededScope_eq_ok_iff.mpr ⟨seeds, hknows, rfl⟩
  simp [h] at hok

end UnitPlan

namespace GeneratedUnit

variable {σ : Type} {F : Filer σ} {u : GeneratedUnit} {p : UnitPlan} {s t : σ} {sink : SinkId}

/-! ## Closing after a failure -/

/-- A unit whose scope cannot be seeded fails with what closing its sink leaves of that failure. -/
lemma begin_of_seedingFailure {e : Failure}
    (hopen : F.openSink p.name p.originating s = (.ok sink, t)) (h : p.SeedingFailure e) :
    begin F p s = F.closeAfter sink e t := by
  rw [begin, hopen]
  dsimp only
  rw [h.seededScope]

/-- If a sink can be closed, the failure is passed on that it is closed for. -/
lemma closeAfter_of_ok {α : Type} {e : Failure} (h : (F.close sink t).1 = .ok ()) :
    F.closeAfter (α := α) sink e t = (.error e, (F.close sink t).2) := by
  rw [Filer.closeAfter]
  rcases hclose : F.close sink t with ⟨c | _, r⟩
  · simp [hclose] at h
  · rfl

/-- If a sink cannot be closed, that is all that is reported. -/
lemma closeAfter_of_error {α : Type} {e c : Failure} (h : (F.close sink t).1 = .error c) :
    F.closeAfter (α := α) sink e t = (.error c, (F.close sink t).2) := by
  rw [Filer.closeAfter]
  rcases hclose : F.close sink t with ⟨c' | _, r⟩
  · rw [hclose] at h
    rw [Except.error.inj h]
  · simp [hclose] at h

/-- If the sink of a unit can be closed, the outcome is the one before. -/
lemma release_of_ok {outcome : Except Failure Unit} (h : (F.close u.sink s).1 = .ok ()) :
    u.release F outcome s = (outcome, (F.close u.sink s).2) := by
  rw [release]
  rcases hclose : F.close u.sink s with ⟨c | _, r⟩
  · simp [hclose] at h
  · rfl

/-- If the operating system cannot close the sink of a unit, that is all that is reported. -/
lemma release_of_os {outcome : Except Failure Unit} {o : OsError}
    (h : (F.close u.sink s).1 = .error (.os o)) :
    u.release F outcome s =
      (.error (.generation (.cannotClose u.name.toText o)), (F.close u.sink s).2) := by
  rw [release]
  rcases hclose : F.close u.sink s with ⟨c | _, r⟩
  · rw [hclose] at h
    obtain rfl := Except.error.inj h
    rfl
  · simp [hclose] at h

/-- Work that fails on a unit that has been closed is all that is reported. -/
lemma within_error_of_closed (hclosed : u.closed = true) (e : Failure) :
    u.within F (.error e) s = (.error e, u, s) := by
  rw [within, abort, if_pos hclosed]

/-- **Whether a failure reaches the caller is decided by the closing of the sink.** Let the sink of
a unit be open. If its scope cannot be seeded because of some failure, the sink is closed, and
opening the unit fails with that failure if the closing goes well, and with the failure to close if
not. Let the unit be open after some calls on it, and let work on it fail. Then the sink is closed,
and leaving the work fails with that failure if the closing goes well, and with a `GenerationError`
because of the failure to close if not. If the unit is closed when the work fails, nothing is
closed, and leaving the work fails with the failure of the work.

**Proof sketch.** A failing seeding is passed to `closeAfter` (`begin_of_seedingFailure`), and
failing work on an open unit to `release` (`within_error_of_open`). Calls on a unit change neither
its name nor its sink (`evolves_run`). -/
theorem closing_decides_failure (F : Filer σ) (p : UnitPlan) (s : σ) :
    (∀ sink t e, F.openSink p.name p.originating s = (.ok sink, t) → p.SeedingFailure e →
      ((F.close sink t).1 = .ok () → begin F p s = (.error e, (F.close sink t).2)) ∧
      ∀ c, (F.close sink t).1 = .error c → begin F p s = (.error c, (F.close sink t).2)) ∧
    ∀ u t, begin F p s = (.ok u, t) → ∀ calls e,
      let v := (u.run F t calls).1
      let r := (u.run F t calls).2
      (v.closed = false →
        ((F.close u.sink r).1 = .ok () →
          v.call F r (.leave (.error e)) = (.error e, v.sealed, (F.close u.sink r).2)) ∧
        ∀ o, (F.close u.sink r).1 = .error (.os o) →
          v.call F r (.leave (.error e)) =
            (.error (.generation (.cannotClose p.name.toText o)), v.sealed,
              (F.close u.sink r).2)) ∧
      (v.closed = true → v.call F r (.leave (.error e)) = (.error e, v, r)) := by
  refine ⟨fun sink t e hopen hseeding => ?_, fun u t hbegin calls e => ?_⟩
  · rw [begin_of_seedingFailure hopen hseeding]
    exact ⟨closeAfter_of_ok, fun c => closeAfter_of_error⟩
  · intro v r
    obtain ⟨-, hname, -, -, -⟩ := begin_eq_ok hbegin
    have hkept : u.Evolves v := evolves_run F u t calls
    have hsink : v.sealed.sink = u.sink := hkept.sink
    have hsealedName : v.sealed.name = p.name := hkept.name.trans hname
    rw [call]
    refine ⟨fun hopen => ?_, fun hclosed => within_error_of_closed hclosed e⟩
    rw [within_error_of_open hopen, ← hsink, ← hsealedName]
    refine ⟨fun hclose => ?_, fun o hclose => ?_⟩
    · rw [release_of_ok hclose]
    · rw [release_of_os hclose]

/-- A unit `com.Twig` whose siblings cannot be told. -/
def untoldPlan : UnitPlan where
  name := ⟨[Text.lit "com"], [Text.lit "Twig"], by decide, by decide⟩
  siblings := some fun _ => .error (.foreign (Text.lit "lookup unavailable"))
  formatter := .ok

/-- The same unit without siblings. -/
def lonelyPlan : UnitPlan := { untoldPlan with siblings := none }

/-- Its scope cannot be seeded for what the look-up fails with. -/
lemma seedingFailure_untoldPlan :
    untoldPlan.SeedingFailure (.foreign (Text.lit "lookup unavailable")) :=
  .untold rfl rfl

/-- With a sink that can be closed, neither the failure of the look-up nor that of the work is lost;
work that fails after the unit has been finished does not close the sink again. -/
theorem closing_decides_failure_untold :
    let F := scriptedFiler {}
    let lost : Failure := .missingKey (Text.lit "body")
    untoldPlan.SeedingFailure (.foreign (Text.lit "lookup unavailable")) ∧
      (begin F untoldPlan {}).1 = .error (.foreign (Text.lit "lookup unavailable")) ∧
      ∃ u t, begin F lonelyPlan {} = (.ok u, t) ∧ u.closed = false ∧
        (u.call F t (.leave (.error lost))).1 = .error lost ∧
        ((u.run F t [.finish]).1.call F (u.run F t [.finish]).2 (.leave (.error lost))).1 =
          .error lost := by
  intro F lost
  obtain ⟨hseeding, -⟩ := closing_decides_failure F untoldPlan {}
  obtain ⟨hwell, -⟩ := hseeding 0 _ _ rfl seedingFailure_untoldPlan
  obtain ⟨-, hleaving⟩ := closing_decides_failure F lonelyPlan {}
  obtain ⟨hopen, -⟩ := hleaving _ _ rfl [] lost
  obtain ⟨-, hclosed⟩ := hleaving _ _ rfl [.finish] lost
  exact ⟨seedingFailure_untoldPlan, congrArg Prod.fst (hwell rfl), _, _, rfl, rfl,
    congrArg Prod.fst ((hopen rfl).1 rfl), congrArg Prod.fst (hclosed rfl)⟩

/-- **A failing closing hides the failure that the sink is closed for**, both that of the look-up
and that of the work. -/
theorem failure_hidden :
    let F := scriptedFiler { failClose := true }
    let c : OsError := .failed (Text.lit "close failed")
    untoldPlan.SeedingFailure (.foreign (Text.lit "lookup unavailable")) ∧
      (begin F untoldPlan {}).1 = .error (.os c) ∧
      ∃ u t, begin F lonelyPlan {} = (.ok u, t) ∧ u.closed = false ∧
        (u.call F t (.leave (.error (.missingKey (Text.lit "body"))))).1 =
          .error (.generation (.cannotClose (Text.lit "com.Twig") c)) := by
  intro F c
  exact ⟨seedingFailure_untoldPlan, rfl, _, _, rfl, rfl, rfl⟩

end GeneratedUnit

end UnitForge
