import UnitForge.GeneratedUnit
import UnitForge.Proofs.NameText

set_option autoImplicit false

/-!
# Runs of calls on a scope

A scope lives through declarations, references and freezing in any order. What one call can do is
said once: a reference is answered in one of seven ways (`Scope.Answers`), and a call adds at most
one binding, under a simple name that was free (`Scope.Change`). Every statement about whole runs
follows from these two.

## Main definitions

* `UnitForge.Scope.Call`, `UnitForge.Scope.step`, `UnitForge.Scope.run` — calls on a scope, and the
  scope after one of them and after all of them.
* `UnitForge.Scope.answers` — what the references of a run are answered, in order.
* `UnitForge.Scope.Grows` — a scope that another one may turn into.
* `UnitForge.Scope.WellFormed` — what all scopes that calls lead to have in common.

## Main results

* `UnitForge.Scope.answers_refer`, `UnitForge.Scope.change_step` — the two case analyses.
* `UnitForge.Scope.grows_run` — no binding is ever removed or replaced.
* `UnitForge.Scope.wellFormed_run` — the invariant of all runs.
-/

namespace UnitForge

/-- The binding that a reference makes when it claims a simple name: that of the outermost type,
without an import if the type has no package. -/
def QualifiedName.claim (n : QualifiedName) : Binding :=
  ⟨n.topLevelName, n.topLevel, if n.package = [] then .implicit else .explicit⟩

/-- A type without a package claims its simple name without an import. -/
lemma QualifiedName.claim_unpackaged {n : QualifiedName} (h : n.package = []) :
    n.claim = ⟨n.topLevelName, n.topLevel, .implicit⟩ := by
  rw [claim, if_pos h]

/-- A type of a package claims its simple name by an import. -/
lemma QualifiedName.claim_packaged {n : QualifiedName} (h : n.package ≠ []) :
    n.claim = ⟨n.topLevelName, n.topLevel, .explicit⟩ := by
  rw [claim, if_neg h]

namespace Scope

variable {s t u : Scope} {n : QualifiedName} {key : Text} {b : Binding}

/-! ## Looking simple names up -/

/-- The type that a simple name stands for. -/
def holder? (s : Scope) (key : Text) : Option QualifiedName := (s.find? key).map (·.name)

lemma holder?_eq_some : s.holder? key = some n ↔ ∃ b, s.find? key = some b ∧ b.name = n := by
  simp [holder?]

/-- A simple name is free if and only if no binding has it as its key. -/
lemma find?_eq_none : s.find? key = none ↔ ∀ b ∈ s.bindings, b.key ≠ key := by
  simp [find?]

/-- One binding more is found under its key, if that was free. -/
lemma find?_bind (s : Scope) (b : Binding) (key : Text) :
    (s.bind b).find? key = (s.find? key).or (if b.key = key then some b else none) := by
  rw [find?, find?, bind, List.find?_append]
  by_cases h : b.key = key <;> simp [h]

/-! ## What a reference is answered -/

/-- The ways in which a reference to `n` is answered in the scope `s`, with the scope after it. -/
inductive Answers (s : Scope) (n : QualifiedName) : Except ScopeError (Text × Scope) → Prop
  /-- The unit has been closed. -/
  | frozen (hfrozen : s.frozen = true) : Answers s n (.error (.frozen n))
  /-- The type itself is bound. -/
  | itself (hfrozen : s.frozen = false) (hself : s.holder? n.simpleName = some n) :
    Answers s n (.ok (n.simpleName, s))
  /-- The outermost type is bound. -/
  | nested (hfrozen : s.frozen = false) (hself : s.holder? n.simpleName ≠ some n)
    (htop : s.holder? n.topLevelName = some n.topLevel) : Answers s n (.ok (n.nestedPath, s))
  /-- The simple name of the outermost type belongs to another, and there is no full form. -/
  | unreachable {b : Binding} (hfrozen : s.frozen = false)
    (hself : s.holder? n.simpleName ≠ some n) (hfind : s.find? n.topLevelName = some b)
    (hother : b.name ≠ n.topLevel) (hpackage : n.package = []) :
    Answers s n (.error (.unreachable n n.topLevelName b.name))
  /-- The simple name of the outermost type belongs to another. -/
  | taken {b : Binding} (hfrozen : s.frozen = false)
    (hself : s.holder? n.simpleName ≠ some n) (hfind : s.find? n.topLevelName = some b)
    (hother : b.name ≠ n.topLevel) (hpackage : n.package ≠ []) : Answers s n (.ok (n.toText, s))
  /-- The types of the package are never imported. -/
  | builtin (hfrozen : s.frozen = false) (hself : s.holder? n.simpleName ≠ some n)
    (hfree : s.find? n.topLevelName = none) (hpackage : n.package ≠ [])
    (hbuiltin : n.packageName ∈ s.builtinPackages) : Answers s n (.ok (n.toText, s))
  /-- The outermost type claims its simple name. -/
  | claimed (hfrozen : s.frozen = false) (hself : s.holder? n.simpleName ≠ some n)
    (hfree : s.find? n.topLevelName = none)
    (hclaim : n.package = [] ∨ n.packageName ∉ s.builtinPackages) :
    Answers s n (.ok (n.nestedPath, s.bind n.claim))

/-- The test for a type that is bound itself. -/
lemma any_name_eq : (s.find? key).any (·.name = n) = true ↔ s.holder? key = some n := by
  simp [holder?, Option.any_eq_true]

/-- **Every reference is answered in one of these ways.** -/
theorem answers_refer (s : Scope) (n : QualifiedName) : s.Answers n (s.refer n) := by
  rw [refer]
  split
  next hfrozen => exact .frozen hfrozen
  next hfrozen =>
    rw [Bool.not_eq_true] at hfrozen
    split
    next hself => exact .itself hfrozen (any_name_eq.mp hself)
    next hself =>
      rw [any_name_eq] at hself
      dsimp only
      split
      next b hfind =>
        split
        next htop => exact .nested hfrozen hself (holder?_eq_some.mpr ⟨b, hfind, htop⟩)
        next hother =>
          split
          next hpackage => exact .unreachable hfrozen hself hfind hother hpackage
          next hpackage => exact .taken hfrozen hself hfind hother hpackage
      next hfree =>
        have hclaim := Answers.claimed hfrozen hself hfree
        split
        next hpackage =>
          rw [QualifiedName.claim_unpackaged (n := n) hpackage] at hclaim
          exact hclaim (.inl hpackage)
        next hpackage =>
          rw [QualifiedName.claim_packaged (n := n) hpackage] at hclaim
          split
          next hbuiltin =>
            exact .builtin hfrozen hself hfree hpackage (List.contains_iff_mem.mp hbuiltin)
          next hbuiltin => exact hclaim (.inr fun h => hbuiltin (List.contains_iff_mem.mpr h))

/-! ## Calls and runs -/

/-- A call on a scope. -/
inductive Call where
  /-- Makes a type usable by its simple name without an import. -/
  | declare (n : QualifiedName)
  /-- Asks for the text that refers to a type. -/
  | refer (n : QualifiedName)
  /-- Closes the unit of the scope. -/
  | freeze
  deriving DecidableEq

/-- The scope after a call. A call that fails leaves the scope as it was. -/
def step (s : Scope) : Call → Scope
  | .declare n =>
    match s.declare n with
    | .ok t => t
    | .error _ => s
  | .refer n =>
    match s.refer n with
    | .ok (_, t) => t
    | .error _ => s
  | .freeze => s.freeze

/-- The scope after calls in order. -/
def run (s : Scope) (calls : List Call) : Scope := calls.foldl step s

/-- What a reference is answered. -/
def answer (s : Scope) (n : QualifiedName) : Except ScopeError Text := (s.refer n).map (·.1)

/-- What the references of a run are answered, each with its type, in order. -/
def answers (s : Scope) : List Call → List (QualifiedName × Except ScopeError Text)
  | [] => []
  | .refer n :: calls => (n, s.answer n) :: (s.step (.refer n)).answers calls
  | call :: calls => (s.step call).answers calls

@[simp] lemma run_nil (s : Scope) : s.run [] = s := rfl

@[simp] lemma run_cons (s : Scope) (call : Call) (calls : List Call) :
    s.run (call :: calls) = (s.step call).run calls := rfl

lemma run_append (s : Scope) (before after : List Call) :
    s.run (before ++ after) = (s.run before).run after := List.foldl_append

/-- **Induction over a run**: what holds at its start and is kept by each of its calls holds at its
end. -/
theorem run_induction {P : Scope → Prop} {calls : List Call} (hs : P s)
    (hstep : ∀ t, P t → ∀ call ∈ calls, P (t.step call)) : P (s.run calls) := by
  induction calls generalizing s with
  | nil => exact hs
  | cons call calls ih =>
    apply ih (hstep s hs call List.mem_cons_self)
    exact fun t ht c hc => hstep t ht c (List.mem_cons_of_mem call hc)

/-- An answer of a run was given at some point of the run. -/
theorem exists_of_mem_answers {calls : List Call} {a : Except ScopeError Text}
    (h : (n, a) ∈ s.answers calls) :
    ∃ before after, calls = before ++ .refer n :: after ∧ (s.run before).answer n = a := by
  induction calls generalizing s with
  | nil => simp [answers] at h
  | cons call calls ih =>
    have later : (n, a) ∈ (s.step call).answers calls →
        ∃ before after, call :: calls = before ++ .refer n :: after ∧
          (s.run before).answer n = a := by
      intro h
      obtain ⟨before, after, rfl, ha⟩ := ih h
      exact ⟨call :: before, after, rfl, ha⟩
    cases call with
    | declare m => exact later h
    | freeze => exact later h
    | refer m =>
      rw [answers, List.mem_cons, Prod.mk.injEq] at h
      rcases h with ⟨rfl, rfl⟩ | h
      · exact ⟨[], calls, rfl, rfl⟩
      · exact later h

/-! ## What a call changes -/

/-- The ways in which a call changes a scope. -/
inductive Change (s : Scope) : Call → Scope → Prop
  /-- The call leaves the scope as it was. -/
  | kept (call : Call) : Change s call s
  /-- The unit is closed. -/
  | frozen : Change s .freeze s.freeze
  /-- A type is declared whose simple name was free. -/
  | declared {n : QualifiedName} (hfree : s.find? n.simpleName = none) :
    Change s (.declare n) (s.bind ⟨n.simpleName, n, .implicit⟩)
  /-- A reference claims a simple name that was free. -/
  | claimed {n : QualifiedName} (hfree : s.find? n.topLevelName = none)
    (hclaim : n.package = [] ∨ n.packageName ∉ s.builtinPackages) :
    Change s (.refer n) (s.bind n.claim)

/-- **Every call changes a scope in one of these ways.** -/
theorem change_step (s : Scope) (call : Call) : s.Change call (s.step call) := by
  cases call with
  | freeze => exact .frozen
  | declare n =>
    rw [step, declare]
    cases hfrozen : s.frozen with
    | true => exact .kept _
    | false =>
      cases hfind : s.find? n.simpleName with
      | some b => exact .kept _
      | none => exact .declared hfind
  | refer n =>
    have h := s.answers_refer n
    rw [step]
    generalize s.refer n = r at h
    cases h with
    | claimed hfrozen hself hfree hclaim => exact .claimed hfree hclaim
    | _ => exact .kept _

/-- The scope `t` has all bindings of `s` in their places, and possibly further ones after them. -/
structure Grows (s t : Scope) : Prop where
  /-- The earlier bindings come first. -/
  bindings : s.bindings <+: t.bindings
  /-- The built-in packages are the same. -/
  builtinPackages : t.builtinPackages = s.builtinPackages
  /-- A closed unit stays closed. -/
  frozen : s.frozen = true → t.frozen = true

namespace Grows

lemma refl (s : Scope) : s.Grows s := ⟨List.prefix_refl _, rfl, id⟩

lemma trans (h : s.Grows t) (h' : t.Grows u) : s.Grows u where
  bindings := h.bindings.trans h'.bindings
  builtinPackages := h'.builtinPackages.trans h.builtinPackages
  frozen := h'.frozen ∘ h.frozen

/-- **A simple name stays bound as it is.** -/
theorem find? (h : s.Grows t) (hb : s.find? key = some b) : t.find? key = some b := by
  obtain ⟨more, hmore⟩ := h.bindings
  rw [Scope.find?] at hb
  rw [Scope.find?, ← hmore, List.find?_append, hb, Option.some_or]

/-- A simple name goes on standing for the same type. -/
lemma holder? (h : s.Grows t) (hn : s.holder? key = some n) : t.holder? key = some n := by
  obtain ⟨b, hb, hname⟩ := holder?_eq_some.mp hn
  exact holder?_eq_some.mpr ⟨b, h.find? hb, hname⟩

end Grows

/-- Binding a further simple name lets a scope grow. -/
lemma grows_bind (s : Scope) (b : Binding) : s.Grows (s.bind b) := ⟨⟨[b], rfl⟩, rfl, id⟩

/-- A call lets a scope grow. -/
lemma grows_step (s : Scope) (call : Call) : s.Grows (s.step call) := by
  have h := s.change_step call
  generalize s.step call = t at h ⊢
  cases h with
  | kept => exact .refl s
  | frozen => exact ⟨List.prefix_refl _, rfl, fun _ => rfl⟩
  | declared => exact s.grows_bind _
  | claimed => exact s.grows_bind _

/-- **A run lets a scope grow**: no binding is ever removed, replaced or changed. -/
theorem grows_run (s : Scope) (calls : List Call) : s.Grows (s.run calls) :=
  run_induction (.refl s) fun t h call _ => h.trans (t.grows_step call)

/-! ## The invariant of all runs -/

/-- What the scopes have in common that calls lead to. -/
structure WellFormed (s : Scope) : Prop where
  /-- A type is bound under its own simple name. -/
  keyed : ∀ b ∈ s.bindings, b.key = b.name.simpleName
  /-- No simple name is bound twice. -/
  distinct : (s.bindings.map (·.key)).Nodup
  /-- An import is for an outermost type. -/
  outermost : ∀ b ∈ s.bindings, b.kind = .explicit → b.name.topLevel = b.name
  /-- An import is for a type in a package. -/
  packaged : ∀ b ∈ s.bindings, b.kind = .explicit → b.name.package ≠ []
  /-- No import is for a type of a built-in package. -/
  foreign : ∀ b ∈ s.bindings, b.kind = .explicit → b.name.packageName ∉ s.builtinPackages

/-- A new scope satisfies the invariant. -/
lemma wellFormed_new (builtinPackages : List Text) : (Scope.new builtinPackages).WellFormed where
  keyed := by simp [Scope.new]
  distinct := List.nodup_nil
  outermost := by simp [Scope.new]
  packaged := by simp [Scope.new]
  foreign := by simp [Scope.new]

/-- A binding under a free simple name keeps the invariant, if it satisfies the invariant itself. -/
lemma WellFormed.bind (h : s.WellFormed) (hfree : s.find? b.key = none)
    (hkey : b.key = b.name.simpleName)
    (hexplicit : b.kind = .explicit → b.name.topLevel = b.name ∧ b.name.package ≠ [] ∧
      b.name.packageName ∉ s.builtinPackages) : (s.bind b).WellFormed := by
  have all : ∀ {P : Binding → Prop}, (∀ c ∈ s.bindings, P c) → P b →
      ∀ c ∈ (s.bind b).bindings, P c := by
    intro P hs hb c hc
    rcases List.mem_append.mp hc with hc | hc
    · exact hs c hc
    · rwa [List.mem_singleton.mp hc]
  refine ⟨all h.keyed hkey, ?_, all h.outermost fun hk => (hexplicit hk).1,
    all h.packaged fun hk => (hexplicit hk).2.1, all h.foreign fun hk => (hexplicit hk).2.2⟩
  rw [Scope.bind, List.map_append, List.map_singleton, List.nodup_append]
  refine ⟨h.distinct, by simp, ?_⟩
  rintro _ hc _ hb rfl
  obtain ⟨c, hc, hcb⟩ := List.mem_map.mp hc
  exact find?_eq_none.mp hfree c hc (hcb.trans (List.mem_singleton.mp hb))

/-- A call keeps the invariant. -/
lemma WellFormed.step (h : s.WellFormed) (call : Call) : (s.step call).WellFormed := by
  have hchange := s.change_step call
  generalize s.step call = t at hchange ⊢
  cases hchange with
  | kept => exact h
  | frozen => exact ⟨h.keyed, h.distinct, h.outermost, h.packaged, h.foreign⟩
  | declared hfree => exact h.bind hfree rfl (by simp)
  | @claimed n hfree hclaim =>
    apply h.bind hfree rfl
    intro hkind
    have hpackage : n.package ≠ [] := by
      intro hp
      rw [QualifiedName.claim_unpackaged hp] at hkind
      simp at hkind
    exact ⟨n.topLevel_topLevel, hpackage, hclaim.resolve_left hpackage⟩

/-- **The invariant holds after every run.** -/
theorem wellFormed_run (h : s.WellFormed) (calls : List Call) : (s.run calls).WellFormed :=
  run_induction h fun _ ht call _ => ht.step call

end Scope

end UnitForge
