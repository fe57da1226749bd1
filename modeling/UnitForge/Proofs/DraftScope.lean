import UnitForge.Proofs.DraftTexts
import UnitForge.Proofs.ScopeRuns

set_option autoImplicit false

/-!
# What drafting does to a scope

The drafts of a unit share its scope, and steps on them touch it in one way only: they ask it for
types. Which types those are is said by going through a step: the arguments of a template from left
to right, the steps of an excerpt in its place, up to the first failure. The arguments of a template
have been converted by the time it turns out that it cannot be filled; the markers of a text are all
read before the first of them is referred to. Whether a step of an excerpt fails may depend on the
texts that it reads, so each is looked at where the steps before it have led.

## Main definitions

* `UnitForge.Scope.Reaches`, `UnitForge.Scope.ReachesBy` — a scope that references alone lead to,
  and one that references to some of the given types lead to.
* `UnitForge.Step.references` — the types that a step names.
* `UnitForge.Argument.asks`, `UnitForge.Step.asks` — the types that an argument or a step asks a
  scope for.

## Main results

* `UnitForge.Scope.Reaches.eq_of_frozen` — references to a scope whose unit is closed leave it as
  it was.
* `UnitForge.Step.scope_run` — the scope after a step.
* `UnitForge.Step.asks_named` — a step asks for the first types that it names, and for all of them
  if it goes well.
* `UnitForge.Step.reaches_run` — a step does nothing to the scope but refer to types that it names.
* `UnitForge.Manuscript.reaches_perform`, `UnitForge.Manuscript.perform_of_frozen` — what a step
  does to a manuscript, and how little that is once the scope is frozen.
-/

namespace UnitForge

namespace Scope

variable {s t : Scope}

/-- The scope `t` is what some references lead to from `s`. -/
def Reaches (s t : Scope) : Prop :=
  ∃ names : List QualifiedName, t = s.run (names.map .refer)

/-- References let a scope grow. -/
lemma Reaches.grows (h : s.Reaches t) : s.Grows t := by
  obtain ⟨names, rfl⟩ := h
  exact s.grows_run _

/-- The scope `t` is what references to some of the given types lead to from `s`. -/
def ReachesBy (names : List QualifiedName) (s t : Scope) : Prop :=
  ∃ made : List QualifiedName, made ⊆ names ∧ t = s.run (made.map .refer)

/-- References to some of the given types are references. -/
lemma ReachesBy.reaches {names : List QualifiedName} (h : s.ReachesBy names t) : s.Reaches t := by
  obtain ⟨made, -, rfl⟩ := h
  exact ⟨made, rfl⟩

/-- A call on a scope whose unit is closed leaves it as it was. -/
lemma step_of_frozen (hs : s.frozen = true) (call : Call) : s.step call = s := by
  cases call with
  | declare n => rw [step, declare, if_pos hs]
  | refer n => rw [step, refer, if_pos hs]
  | freeze =>
    show { s with frozen := true } = s
    rw [← hs]

/-- **References to a scope whose unit is closed leave it as it was.** -/
theorem Reaches.eq_of_frozen (h : s.Reaches t) (hs : s.frozen = true) : t = s := by
  obtain ⟨names, rfl⟩ := h
  refine run_induction (P := fun t => t = s) rfl ?_
  rintro t rfl call -
  exact step_of_frozen hs call

end Scope

/-! ## The types that a step names -/

/-- The types that the markers of a text name; none if there is a marker that names no type. -/
def Marker.named (text : Text) : List QualifiedName :=
  match Marker.compile text with
  | .error _ => []
  | .ok (_, names) => names

mutual

/-- The types that an argument names. -/
def Argument.references : Argument → List QualifiedName
  | .value _ => []
  | .type n => [n]
  | .draft _ => []
  | .enclosing _ => []
  | .excerpt steps => Step.allReferences steps

/-- The types that arguments name, from left to right. -/
def Argument.allReferences : List Argument → List QualifiedName
  | [] => []
  | argument :: arguments => argument.references ++ Argument.allReferences arguments

/-- The types that a step names. -/
def Step.references : Step → List QualifiedName
  | .add _ arguments => Argument.allReferences arguments
  | .addLine _ arguments => Argument.allReferences arguments
  | .excerpt steps => Step.allReferences steps
  | .render text => Marker.named text
  | .misnamed _ => []

/-- The types that steps name, in order. -/
def Step.allReferences : List Step → List QualifiedName
  | [] => []
  | step :: steps => step.references ++ Step.allReferences steps

end

/-! ## The types that a step asks for -/

namespace Scope

variable (s : Scope)

/-- The scope after it has been asked for types in order. -/
def askedFor (names : List QualifiedName) : Scope := s.run (names.map .refer)

@[simp] lemma askedFor_append (front back : List QualifiedName) :
    s.askedFor (front ++ back) = (s.askedFor front).askedFor back := by
  rw [askedFor, List.map_append, run_append]
  rfl

/-- The types that are asked for when they are to be referred to in order: all up to the first that
cannot be. -/
def asks (s : Scope) : List QualifiedName → List QualifiedName
  | [] => []
  | n :: names =>
    match (s.referValue n).1 with
    | .error _ => [n]
    | .ok _ => [n] ++ (s.askedFor [n]).asks names

end Scope

mutual

/-- The types that the scope is asked for when an argument is converted, in order. -/
def Argument.asks (around : Surroundings) (d : Desk) : Argument → List QualifiedName
  | .value _ => []
  | .type n => [n]
  | .draft _ => []
  | .enclosing _ => []
  | .excerpt steps => Step.allAsk (around.inside d.text) ⟨[], d.scope⟩ steps

/-- The types that the scope is asked for when arguments are converted from left to right. -/
def Argument.allAsk (around : Surroundings) (d : Desk) : List Argument → List QualifiedName
  | [] => []
  | argument :: arguments =>
    match argument.convert around d with
    | (.error _, _) => argument.asks around d
    | (.ok _, s) => argument.asks around d ++ Argument.allAsk around ⟨d.text, s⟩ arguments

/-- The types that the scope is asked for when a step is performed, in order. -/
def Step.asks (around : Surroundings) (d : Desk) : Step → List QualifiedName
  | .add _ arguments => Argument.allAsk around d arguments
  | .addLine _ arguments => Argument.allAsk around d arguments
  | .excerpt steps => Step.allAsk around d steps
  | .render text => d.scope.asks (Marker.named text)
  | .misnamed _ => []

/-- The types that the scope is asked for when steps are performed in order. -/
def Step.allAsk (around : Surroundings) (d : Desk) : List Step → List QualifiedName
  | [] => []
  | step :: steps =>
    match (step.run around d).error with
    | some _ => step.asks around d
    | none => step.asks around d ++ Step.allAsk around (step.run around d).desk steps

end

/-! ## The scope after a step -/

/-- Appending a filled template leaves the scope that the values of the template left. -/
@[simp] lemma Desk.append_scope (d : Desk) (template : Text)
    (values : Except DraftError (List Value) × Scope) (finish : RawText → RawText) :
    (d.append template values finish).desk.scope = values.2 := by
  obtain ⟨_ | values, s⟩ := values
  · rfl
  · rw [Desk.append]
    dsimp only
    cases Template.fill template values <;> rfl

/-- A value that refers to a type asks the scope for it. -/
lemma Scope.scope_referValue (s : Scope) (n : QualifiedName) :
    (s.referValue n).2 = s.askedFor [n] := by
  rw [askedFor, List.map_singleton, run_cons, run_nil, step, referValue]
  cases s.refer n <;> rfl

/-- Values that refer to types ask the scope for them, up to the first that fails. -/
lemma Scope.scope_referAll (s : Scope) (names : List QualifiedName) :
    (s.referAll names).2 = s.askedFor (s.asks names) := by
  induction names generalizing s with
  | nil => rfl
  | cons n names ih =>
    have hn := s.scope_referValue n
    rw [referAll, asks]
    generalize s.referValue n = r at hn ⊢
    obtain ⟨e | value, t⟩ := r
    · exact hn
    · obtain rfl : t = s.askedFor [n] := hn
      rw [askedFor_append]
      exact ih _

mutual

/-- Converting an argument asks the scope for types. -/
theorem Argument.scope_convert (around : Surroundings) (d : Desk) : (argument : Argument) →
    (argument.convert around d).2 = d.scope.askedFor (argument.asks around d)
  | .value _ => rfl
  | .type n => d.scope.scope_referValue n
  | .draft _ => rfl
  | .enclosing _ => rfl
  | .excerpt steps => by
    have h := Step.scope_runAll (around.inside d.text) ⟨[], d.scope⟩ steps
    rw [Argument.convert, Argument.asks]
    cases (Step.runAll (around.inside d.text) ⟨[], d.scope⟩ steps).error <;> exact h

/-- Converting arguments asks the scope for types, up to the first failure. -/
theorem Argument.scope_convertAll (around : Surroundings) (d : Desk) :
    (arguments : List Argument) →
    (Argument.convertAll around d arguments).2 =
      d.scope.askedFor (Argument.allAsk around d arguments)
  | [] => rfl
  | argument :: arguments => by
    have h := Argument.scope_convert around d argument
    rw [Argument.convertAll, Argument.allAsk]
    generalize argument.convert around d = r at h ⊢
    obtain ⟨e | value, t⟩ := r
    · exact h
    · have hrest := Argument.scope_convertAll around ⟨d.text, t⟩ arguments
      obtain rfl : t = d.scope.askedFor (argument.asks around d) := h
      rw [Scope.askedFor_append]
      exact hrest

/-- **The scope after a step** is the one before it, asked for the types that the step comes to. -/
theorem Step.scope_run (around : Surroundings) (d : Desk) : (step : Step) →
    (step.run around d).desk.scope = d.scope.askedFor (step.asks around d)
  | .add _ arguments => by
    rw [Step.run, Desk.append_scope]
    exact Argument.scope_convertAll around d arguments
  | .addLine _ arguments => by
    rw [Step.run, Desk.append_scope]
    exact Argument.scope_convertAll around d arguments
  | .excerpt steps => by
    rw [Step.run]
    exact Step.scope_runAll around d steps
  | .render text => by
    rw [Step.run, Step.asks, Desk.render, Marker.named]
    rcases Marker.compile text with e | ⟨template, names⟩
    · rfl
    · dsimp only
      rw [Desk.append_scope]
      exact d.scope.scope_referAll names
  | .misnamed _ => rfl

/-- The scope after steps is the one before them, asked for types up to the first failure. -/
theorem Step.scope_runAll (around : Surroundings) (d : Desk) : (steps : List Step) →
    (Step.runAll around d steps).desk.scope = d.scope.askedFor (Step.allAsk around d steps)
  | [] => rfl
  | step :: steps => by
    have h := Step.scope_run around d step
    rw [Step.runAll, Step.allAsk]
    cases (step.run around d).error with
    | some e => exact h
    | none =>
      have hrest := Step.scope_runAll around (step.run around d).desk steps
      rw [h] at hrest
      rw [Scope.askedFor_append]
      exact hrest

end

/-! ## The first of the types named -/

/-- The types that are asked for are the first of those that are named, and all of them if all goes
well. -/
structure AskedOf (named asked : List QualifiedName) (well : Prop) : Prop where
  /-- They come first. -/
  first : asked <+: named
  /-- There are no others if all goes well. -/
  all : well → asked = named

namespace AskedOf

variable {named asked others more : List QualifiedName} {well : Prop}

lemma refl (named : List QualifiedName) (well : Prop) : AskedOf named named well :=
  ⟨List.prefix_rfl, fun _ => rfl⟩

/-- All goes well only if something else does. -/
lemma imp (h : AskedOf named asked well) {well' : Prop} (himp : well' → well) :
    AskedOf named asked well' := ⟨h.first, fun hwell => h.all (himp hwell)⟩

/-- Nothing more is asked for after a failure. -/
lemma stop (h : AskedOf named asked well) (others : List QualifiedName) {well' : Prop}
    (hfails : ¬well') : AskedOf (named ++ others) asked well' :=
  ⟨h.first.trans (List.prefix_append _ _), fun hwell => absurd hwell hfails⟩

/-- After all has gone well, the next types are asked for. -/
lemma append (h : AskedOf named asked well) (hwell : well) {well' : Prop}
    (hmore : AskedOf others more well') : AskedOf (named ++ others) (asked ++ more) well' := by
  rw [h.all hwell]
  refine ⟨(List.prefix_append_right_inj named).mpr hmore.first, fun hwell' => ?_⟩
  rw [hmore.all hwell']

end AskedOf

/-- More values than those that can be made cannot be made. -/
lemma isOk_of_isOk_map {ε α β : Type} {r : Except ε α} {f : α → β} (h : (r.map f).isOk) :
    r.isOk := by
  cases r with
  | error e => exact h
  | ok a => rfl

/-- A template is filled only if its values can be made. -/
lemma Desk.isOk_of_append {d : Desk} {template : Text}
    {values : Except DraftError (List Value) × Scope} {finish : RawText → RawText}
    (h : (d.append template values finish).error = none) : values.1.isOk := by
  obtain ⟨e | values, s⟩ := values
  · exact absurd h (by simp [append])
  · rfl

/-- Values that refer to types ask for the first of them, and for all if each can be referred to. -/
lemma Scope.asks_named (s : Scope) (names : List QualifiedName) :
    AskedOf names (s.asks names) (s.referAll names).1.isOk := by
  induction names generalizing s with
  | nil => exact .refl [] _
  | cons n names ih =>
    have hn := s.scope_referValue n
    rw [asks, referAll]
    generalize s.referValue n = r at hn ⊢
    obtain ⟨e | value, t⟩ := r
    · exact (AskedOf.refl [n] True).stop names Bool.false_ne_true
    · obtain rfl : t = s.askedFor [n] := hn
      exact (AskedOf.refl [n] True).append trivial ((ih (s.askedFor [n])).imp isOk_of_isOk_map)

mutual

/-- An argument asks for the first types that it names, and for all of them if it is converted. -/
theorem Argument.asks_named (around : Surroundings) (d : Desk) : (argument : Argument) →
    AskedOf argument.references (argument.asks around d) (argument.convert around d).1.isOk
  | .value _ => .refl [] _
  | .type n => .refl [n] _
  | .draft _ => .refl [] _
  | .enclosing _ => .refl [] _
  | .excerpt steps => by
    have h := Step.allAsk_named (around.inside d.text) ⟨[], d.scope⟩ steps
    rw [Argument.references, Argument.asks, Argument.convert]
    cases herror : (Step.runAll (around.inside d.text) ⟨[], d.scope⟩ steps).error with
    | some e => exact h.imp fun hok => absurd hok Bool.false_ne_true
    | none => exact h.imp fun _ => herror

/-- Arguments ask for the first types that they name, and for all of them if all are converted. -/
theorem Argument.allAsk_named (around : Surroundings) (d : Desk) : (arguments : List Argument) →
    AskedOf (Argument.allReferences arguments) (Argument.allAsk around d arguments)
      (Argument.convertAll around d arguments).1.isOk
  | [] => .refl [] _
  | argument :: arguments => by
    have h := Argument.asks_named around d argument
    rw [Argument.allReferences, Argument.allAsk, Argument.convertAll]
    generalize argument.convert around d = r at h ⊢
    obtain ⟨e | value, t⟩ := r
    · exact h.stop _ Bool.false_ne_true
    · exact h.append rfl
        ((Argument.allAsk_named around ⟨d.text, t⟩ arguments).imp isOk_of_isOk_map)

/-- **A step asks for the first types that it names**, and for all of them if it goes well. -/
theorem Step.asks_named (around : Surroundings) (d : Desk) : (step : Step) →
    AskedOf step.references (step.asks around d) ((step.run around d).error = none)
  | .add _ arguments => by
    rw [Step.references, Step.asks, Step.run]
    exact (Argument.allAsk_named around d arguments).imp Desk.isOk_of_append
  | .addLine _ arguments => by
    rw [Step.references, Step.asks, Step.run]
    exact (Argument.allAsk_named around d arguments).imp Desk.isOk_of_append
  | .excerpt steps => by
    rw [Step.references, Step.asks, Step.run]
    exact Step.allAsk_named around d steps
  | .render text => by
    rw [Step.references, Step.asks, Step.run, Desk.render, Marker.named]
    rcases Marker.compile text with e | ⟨template, names⟩
    · exact .refl [] _
    · exact (d.scope.asks_named names).imp Desk.isOk_of_append
  | .misnamed _ => .refl [] _

/-- Steps ask for the first types that they name, and for all of them if all go well. -/
theorem Step.allAsk_named (around : Surroundings) (d : Desk) : (steps : List Step) →
    AskedOf (Step.allReferences steps) (Step.allAsk around d steps)
      ((Step.runAll around d steps).error = none)
  | [] => .refl [] _
  | step :: steps => by
    have h := Step.asks_named around d step
    rw [Step.allReferences, Step.allAsk, Step.runAll]
    cases herror : (step.run around d).error with
    | some e =>
      rw [herror] at h
      exact h.stop _ (by simp [herror])
    | none => exact h.append herror (Step.allAsk_named around (step.run around d).desk steps)

end

/-- An argument does nothing to the scope but refer to types that it names. -/
theorem Argument.reaches_convert (around : Surroundings) (d : Desk) (argument : Argument) :
    d.scope.ReachesBy argument.references (argument.convert around d).2 :=
  ⟨argument.asks around d, (argument.asks_named around d).first.subset,
    argument.scope_convert around d⟩

/-- **A step does nothing to the scope but refer to types that it names.** -/
theorem Step.reaches_run (around : Surroundings) (d : Desk) (step : Step) :
    d.scope.ReachesBy step.references (step.run around d).desk.scope :=
  ⟨step.asks around d, (step.asks_named around d).first.subset, step.scope_run around d⟩

/-! ## Manuscripts -/

namespace Manuscript

/-- A step does nothing to the scope of a manuscript but refer to types that it names. -/
theorem reaches_perform (m : Manuscript) (id : DraftId) (step : Step) :
    m.scope.ReachesBy step.references (m.perform id step).1.scope :=
  Step.reaches_run (m.around id) (m.desk id) step

/-- **Once the scope is frozen, a step on a further draft changes at most the further drafts.** -/
theorem perform_of_frozen (m : Manuscript) (hm : m.scope.frozen = true) (label : Text)
    (step : Step) : ∃ parts, (m.perform (.part label) step).1 = { m with parts } := by
  have hscope : (m.perform (.part label) step).1.scope = m.scope :=
    (m.reaches_perform (.part label) step).reaches.eq_of_frozen hm
  refine ⟨(m.perform (.part label) step).1.parts, ?_⟩
  calc (m.perform (.part label) step).1
      = { m with
          scope := (m.perform (.part label) step).1.scope
          parts := (m.perform (.part label) step).1.parts } := rfl
    _ = { m with parts := (m.perform (.part label) step).1.parts } := by rw [hscope]

end Manuscript

end UnitForge
