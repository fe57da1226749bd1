import UnitForge.Proofs.UnitRuns

set_option autoImplicit false

/-!
# The scope of a unit

A unit is opened with a scope that is seeded by declarations, and whatever is done to the unit
afterwards reaches the scope as references, further calls on it, or freezing. So the scope of a unit
is always one that a run of calls leads to, and what holds of all runs on a scope holds of units.

## Main definitions

* `UnitForge.UnitPlan.Knows` — the types that a unit is seeded with.
* `UnitForge.UnitCall.references` — the types that a call on a unit names.

## Main results

* `UnitForge.UnitPlan.seededScope_eq_ok_iff` — when the scope of a unit can be seeded, and what it
  is.
* `UnitForge.GeneratedUnit.scope_run` — the scope after a run of calls on a unit.
-/

namespace UnitForge

namespace Scope

variable {s : Scope}

/-- Declaring types goes well as long as the unit is open. -/
lemma declare_of_open (hs : s.frozen = false) (n : QualifiedName) :
    s.declare n = .ok (s.step (.declare n)) ∧ (s.step (.declare n)).frozen = false := by
  rw [step, declare, hs]
  cases s.find? n.simpleName with
  | none => exact ⟨rfl, hs⟩
  | some b => exact ⟨rfl, hs⟩

/-- **Declaring types in order is a run of declarations**, and nothing fails. -/
theorem declareAll_ok (hs : s.frozen = false) (seeds : List QualifiedName) :
    s.declareAll (seeds.map .ok) = (s.run (seeds.map .declare), none) := by
  induction seeds generalizing s with
  | nil => rfl
  | cons n seeds ih =>
    obtain ⟨hdeclare, hopen⟩ := declare_of_open hs n
    rw [List.map_cons, declareAll, hdeclare]
    exact ih hopen

/-- Declaring types in order goes well only if all of them are names. -/
lemma exists_of_declareAll {names : List (Except NameError QualifiedName)}
    (h : (s.declareAll names).2 = none) : ∃ seeds : List QualifiedName, names = seeds.map .ok := by
  induction names generalizing s with
  | nil => exact ⟨[], rfl⟩
  | cons name names ih =>
    rcases name with e | n
    · simp [declareAll] at h
    · rw [declareAll] at h
      cases hdeclare : s.declare n with
      | error e =>
        rw [hdeclare] at h
        simp at h
      | ok t =>
        rw [hdeclare] at h
        obtain ⟨seeds, rfl⟩ := ih h
        exact ⟨n :: seeds, rfl⟩

end Scope

namespace UnitPlan

variable {p : UnitPlan} {seeds : List QualifiedName}

/-- A unit is seeded with the given types: nothing keeps it from knowing them. -/
def Knows (p : UnitPlan) (seeds : List QualifiedName) : Prop := p.seeds = (seeds.map .ok, none)

/-- **The scope of a unit can be seeded if and only if its seeds are known**, and it is what
declaring them in order leads to. -/
theorem seededScope_eq_ok_iff {scope : Scope} :
    p.seededScope = .ok scope ↔
      ∃ seeds, p.Knows seeds ∧ scope = (Scope.new p.builtinPackages).run (seeds.map .declare) := by
  rw [seededScope]
  constructor
  · intro h
    rcases hseeds : p.seeds with ⟨names, failure⟩
    rw [hseeds] at h
    dsimp only at h
    rcases hall : (Scope.new p.builtinPackages).declareAll names with ⟨reached, stopped⟩
    rw [hall] at h
    cases stopped with
    | some e => simp at h
    | none =>
      cases failure with
      | some e => simp at h
      | none =>
        obtain ⟨seeds, rfl⟩ := Scope.exists_of_declareAll (congrArg Prod.snd hall)
        rw [Scope.declareAll_ok rfl] at hall
        refine ⟨seeds, hseeds, ?_⟩
        exact (Except.ok.inj h).symm.trans (congrArg Prod.fst hall).symm
  · rintro ⟨seeds, hseeds, rfl⟩
    rw [Knows] at hseeds
    rw [hseeds]
    dsimp only
    rw [Scope.declareAll_ok rfl]

namespace Knows

/-- The unit itself and the types nested in it are among its seeds. -/
lemma own_mem (h : p.Knows seeds) {n : QualifiedName} (hn : n ∈ p.name :: p.nested) :
    n ∈ seeds := by
  have hown : (.ok n : Except NameError QualifiedName) ∈ (p.name :: p.nested).map .ok :=
    List.mem_map_of_mem hn
  have hmem : .ok n ∈ p.seeds.1 := by
    rw [UnitPlan.seeds]
    cases p.siblings with
    | none => exact hown
    | some lookup =>
      dsimp only
      cases lookup p.name.packageName with
      | error e => exact hown
      | ok names => exact List.mem_append_left _ hown
  rw [h] at hmem
  simpa using hmem

/-- The other types of its package are among the seeds of a unit. -/
lemma sibling_mem (h : p.Knows seeds) {lookup : PackageLookup} {names : List Text} {x : Text}
    (hlookup : p.siblings = some lookup) (hnames : lookup p.name.packageName = .ok names)
    (hx : x ∈ names) : ∃ n ∈ seeds, n.simpleName = x := by
  have hmem : p.name.sibling x ∈ p.seeds.1 := by
    rw [UnitPlan.seeds, hlookup]
    dsimp only
    rw [hnames]
    exact List.mem_append_right _ (List.mem_map_of_mem hx)
  rw [h] at hmem
  obtain ⟨n, hn, hsibling⟩ := List.mem_map.mp hmem
  refine ⟨n, hn, ?_⟩
  rw [QualifiedName.sibling, QualifiedName.make] at hsibling
  split at hsibling
  · split at hsibling
    · rw [Except.ok.inj hsibling]
      rfl
    · simp at hsibling
  · simp at hsibling

end Knows

end UnitPlan

/-! ## Calls on a unit as calls on its scope -/

/-- The types that work on the drafts names. -/
def Drafting.references : Drafting → List QualifiedName
  | .append _ step => step.references
  | .scope (.refer n) => [n]
  | _ => []

/-- The types that a call on a unit names. -/
def UnitCall.references : UnitCall → List QualifiedName
  | .draft drafting => drafting.references
  | _ => []

namespace GeneratedUnit

variable {σ : Type} {F : Filer σ} {u : GeneratedUnit} {s : σ}

/-- Work on the drafts does to the scope what some calls on it do, and refers only to types that
the work names. -/
lemma scope_draft (u : GeneratedUnit) (drafting : Drafting) :
    ∃ made : List Scope.Call,
      (u.draft drafting).2.manuscript.scope = u.manuscript.scope.run made ∧
      ∀ n, .refer n ∈ made → n ∈ drafting.references := by
  cases drafting with
  | append id step =>
    rw [draft, append]
    split
    · refine ⟨[], ?_, by simp⟩
      cases fault? step <;> rfl
    · obtain ⟨names, hsub, hscope⟩ := u.manuscript.reaches_perform id step
      refine ⟨names.map .refer, hscope, fun n hn => ?_⟩
      obtain ⟨m, hm, hmn⟩ := List.mem_map.mp hn
      rw [← Scope.Call.refer.inj hmn]
      exact hsub hm
  | newDraft label => exact ⟨[], rfl, by simp⟩
  | scope call =>
    refine ⟨[call], rfl, fun n hn => ?_⟩
    rw [← List.mem_singleton.mp hn]
    exact List.mem_singleton_self n

/-- A call on a unit does to its scope what some calls on the scope do, and refers only to types
that the call names. -/
lemma scope_call (F : Filer σ) (u : GeneratedUnit) (s : σ) (c : UnitCall) :
    ∃ made : List Scope.Call,
      (u.call F s c).2.1.manuscript.scope = u.manuscript.scope.run made ∧
      ∀ n, .refer n ∈ made → n ∈ c.references := by
  have h := effect_call F u s c
  generalize u.call F s c = r at h ⊢
  cases h with
  | drafted drafting => exact u.scope_draft drafting
  | refused _ => exact ⟨[], rfl, by simp⟩
  | ignored _ _ => exact ⟨[], rfl, by simp⟩
  | finished _ _ => exact ⟨[.freeze], rfl, by simp⟩
  | aborted _ _ => exact ⟨[.freeze], rfl, by simp⟩

/-- **The scope of a unit is one that calls on a scope lead to**, and all references among them are
to types that the calls on the unit name.

**Proof sketch.** Induction on the calls; the calls that one of them comes to are put before those
of the others. -/
theorem scope_run (F : Filer σ) (u : GeneratedUnit) (s : σ) (calls : List UnitCall) :
    ∃ made : List Scope.Call,
      (u.run F s calls).1.manuscript.scope = u.manuscript.scope.run made ∧
      ∀ n, .refer n ∈ made → ∃ c ∈ calls, n ∈ c.references := by
  induction calls generalizing u s with
  | nil => exact ⟨[], rfl, by simp⟩
  | cons c calls ih =>
    obtain ⟨first, hfirst, hfirstNamed⟩ := scope_call F u s c
    obtain ⟨later, hlater, hlaterNamed⟩ := ih (u.call F s c).2.1 (u.call F s c).2.2
    refine ⟨first ++ later, ?_, fun n hn => ?_⟩
    · rw [run_cons, hlater, hfirst, Scope.run_append]
    · rcases List.mem_append.mp hn with hn | hn
      · exact ⟨c, List.mem_cons_self, hfirstNamed n hn⟩
      · obtain ⟨c', hc', hn⟩ := hlaterNamed n hn
        exact ⟨c', List.mem_cons_of_mem c hc', hn⟩

end GeneratedUnit

end UnitForge
