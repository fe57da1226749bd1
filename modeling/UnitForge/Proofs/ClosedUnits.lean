import UnitForge.Output.Scripted
import UnitForge.Proofs.UnitRuns

set_option autoImplicit false

/-!
# Closed units are final

A closed unit shares its scope with drafts that live on. Steps on them may still append text, but
the scope is frozen, and a step that comes to refer to a type fails at that point, however deeply
the reference is nested in excerpts. Nothing that is done to a closed unit reaches its sink, its
scope or its main draft.

Whether a step comes to a reference is said beside the evaluation of the step: what stands before
the reference has to go well first. A step that fails earlier, for want of a value for a directive
say, does not come to it.

## Main definitions

* `UnitForge.Argument.ComesTo`, `UnitForge.Step.ComesTo` — performing an argument or a step comes to
  a reference.
* `UnitForge.GeneratedUnit.Inert` — every call on a unit fails or does nothing.

## Main results

* `UnitForge.Step.run_of_frozen` — a step fails at the frozen scope if and only if it comes to a
  reference.
* `UnitForge.GeneratedUnit.inert_of_closed` — what calls on a closed unit come to.
* `UnitForge.GeneratedUnit.closed_is_final` — a closed unit throughout the rest of its life.
-/

namespace UnitForge

/-! ## Coming to a reference -/

/-- Making the values that refer to types, from left to right, comes to a reference to `n`. -/
def Scope.ComesTo (s : Scope) (n : QualifiedName) : List QualifiedName → Prop
  | [] => False
  | m :: names => m = n ∨ ∃ value t, s.referValue m = (.ok value, t) ∧ t.ComesTo n names

mutual

/-- Converting an argument comes to a reference to `n`. -/
def Argument.ComesTo (around : Surroundings) (d : Desk) (n : QualifiedName) : Argument → Prop
  | .value _ => False
  | .type m => m = n
  | .draft _ => False
  | .enclosing _ => False
  | .excerpt steps => Step.SomeComesTo (around.inside d.text) ⟨[], d.scope⟩ n steps

/-- Converting arguments, from left to right, comes to a reference to `n`. -/
def Argument.SomeComesTo (around : Surroundings) (d : Desk) (n : QualifiedName) :
    List Argument → Prop
  | [] => False
  | argument :: arguments =>
    argument.ComesTo around d n ∨
      ∃ value t, argument.convert around d = (.ok value, t) ∧
        Argument.SomeComesTo around ⟨d.text, t⟩ n arguments

/-- Performing a step comes to a reference to `n`. -/
def Step.ComesTo (around : Surroundings) (d : Desk) (n : QualifiedName) : Step → Prop
  | .add _ arguments => Argument.SomeComesTo around d n arguments
  | .addLine _ arguments => Argument.SomeComesTo around d n arguments
  | .excerpt steps => Step.SomeComesTo around d n steps
  | .render text => d.scope.ComesTo n (Marker.named text)
  | .misnamed _ => False

/-- Performing steps in order comes to a reference to `n`. -/
def Step.SomeComesTo (around : Surroundings) (d : Desk) (n : QualifiedName) : List Step → Prop
  | [] => False
  | step :: steps =>
    step.ComesTo around d n ∨
      (step.run around d).error = none ∧ Step.SomeComesTo around (step.run around d).desk n steps

end

/-! ## References to a frozen scope -/

variable {n : QualifiedName}

/-- A frozen scope answers no reference. -/
lemma Scope.referValue_of_frozen {s : Scope} (hs : s.frozen = true) (n : QualifiedName) :
    s.referValue n = (.error (.scope (.frozen n)), s) := by
  rw [referValue, refer, if_pos hs]

/-- Values that refer to types fail at a frozen scope if and only if there is a first type. -/
lemma Scope.referAll_of_frozen {s : Scope} (hs : s.frozen = true) (names : List QualifiedName) :
    (s.referAll names).1 = .error (.scope (.frozen n)) ↔ s.ComesTo n names := by
  cases names with
  | nil => simp [referAll, ComesTo]
  | cons m names => simp [referAll, ComesTo, referValue_of_frozen hs]

/-- A filled template fails at the scope if and only if its values do. -/
lemma Desk.append_error {d : Desk} {template : Text}
    {values : Except DraftError (List Value) × Scope} {finish : RawText → RawText}
    {e : ScopeError} :
    (d.append template values finish).error = some (.scope e) ↔ values.1 = .error (.scope e) := by
  obtain ⟨e' | values, s⟩ := values
  · simp [append]
  · rw [append]
    dsimp only
    cases Template.fill template values <;> simp

/-- A text with markers fails at a frozen scope if and only if all its markers name types, and there
is a marker. -/
lemma Desk.render_of_frozen {d : Desk} (hd : d.scope.frozen = true) (text : Text) :
    (d.render text).error = some (.scope (.frozen n)) ↔ d.scope.ComesTo n (Marker.named text) := by
  rw [render, Marker.named]
  rcases Marker.compile text with e | ⟨template, names⟩
  · simp [Scope.ComesTo]
  · dsimp only
    rw [append_error]
    exact Scope.referAll_of_frozen hd names

mutual

/-- Converting an argument fails at a frozen scope if and only if it comes to a reference. -/
theorem Argument.convert_of_frozen (around : Surroundings) {d : Desk}
    (hd : d.scope.frozen = true) : (argument : Argument) →
    ((argument.convert around d).1 = .error (.scope (.frozen n)) ↔ argument.ComesTo around d n)
  | .value _ => by simp [Argument.convert, Argument.ComesTo]
  | .type m => by
    rw [Argument.convert, Scope.referValue_of_frozen hd, Argument.ComesTo]
    simp
  | .draft _ => by simp [Argument.convert, Argument.ComesTo]
  | .enclosing _ => by simp [Argument.convert, Argument.ComesTo]
  | .excerpt steps => by
    have hsteps := Step.runAll_of_frozen (around.inside d.text) (d := ⟨[], d.scope⟩) hd steps
    rw [Argument.convert, Argument.ComesTo, ← hsteps]
    cases (Step.runAll (around.inside d.text) ⟨[], d.scope⟩ steps).error <;> simp

/-- Converting arguments fails at a frozen scope if and only if it comes to a reference. -/
theorem Argument.convertAll_of_frozen (around : Surroundings) {d : Desk}
    (hd : d.scope.frozen = true) : (arguments : List Argument) →
    ((Argument.convertAll around d arguments).1 = .error (.scope (.frozen n)) ↔
      Argument.SomeComesTo around d n arguments)
  | [] => by simp [Argument.convertAll, Argument.SomeComesTo]
  | argument :: arguments => by
    have hfirst := Argument.convert_of_frozen around hd argument
    -- the scope is frozen, so that the other arguments meet it as it was
    have hkept : (argument.convert around d).2 = d.scope :=
      (Argument.reaches_convert around d argument).reaches.eq_of_frozen hd
    rw [Argument.convertAll, Argument.SomeComesTo, ← hfirst]
    generalize argument.convert around d = r at hkept ⊢
    obtain ⟨e | value, t⟩ := r
    · simp
    · obtain rfl : t = d.scope := hkept
      have hrest := Argument.convertAll_of_frozen around hd arguments
      have hmap : ((Argument.convertAll around d arguments).1.map (value :: ·)) =
          .error (.scope (.frozen n)) ↔ Argument.SomeComesTo around d n arguments := by
        rw [← hrest]
        cases (Argument.convertAll around d arguments).1 <;> simp [Except.map]
      simp [hmap]

/-- **A step fails at a frozen scope if and only if it comes to a reference.** -/
theorem Step.run_of_frozen (around : Surroundings) {d : Desk} (hd : d.scope.frozen = true) :
    (step : Step) →
    ((step.run around d).error = some (.scope (.frozen n)) ↔ step.ComesTo around d n)
  | .add _ arguments => by
    rw [Step.run, Step.ComesTo, Desk.append_error]
    exact Argument.convertAll_of_frozen around hd arguments
  | .addLine _ arguments => by
    rw [Step.run, Step.ComesTo, Desk.append_error]
    exact Argument.convertAll_of_frozen around hd arguments
  | .excerpt steps => by
    rw [Step.run, Step.ComesTo]
    exact Step.runAll_of_frozen around hd steps
  | .render text => by
    rw [Step.run, Step.ComesTo]
    exact d.render_of_frozen hd text
  | .misnamed _ => by simp [Step.run, Step.ComesTo]

/-- Steps fail at a frozen scope if and only if they come to a reference. -/
theorem Step.runAll_of_frozen (around : Surroundings) {d : Desk} (hd : d.scope.frozen = true) :
    (steps : List Step) →
    ((Step.runAll around d steps).error = some (.scope (.frozen n)) ↔
      Step.SomeComesTo around d n steps)
  | [] => by simp [Step.runAll, Step.SomeComesTo]
  | step :: steps => by
    have hfirst := Step.run_of_frozen around hd step
    have hkept : (step.run around d).desk.scope = d.scope :=
      (Step.reaches_run around d step).reaches.eq_of_frozen hd
    rw [Step.runAll, Step.SomeComesTo, ← hfirst]
    cases herror : (step.run around d).error with
    | some e => simp [herror]
    | none =>
      have hrest := Step.runAll_of_frozen around (d := (step.run around d).desk)
        (by rw [hkept]; exact hd) steps
      simp [hrest]

end

/-! ## Calls on a closed unit -/

/-- Only a failure of the scope is reported as one. -/
lemma Failure.ofDraft_eq_scope {error : DraftError} {e : ScopeError} :
    ofDraft error = .generation (.scope e) ↔ error = .scope e := by
  cases error with
  | name error => simp [ofDraft]
  | scope error => simp [ofDraft]
  | template text error =>
    rw [ofDraft]
    split <;> simp

namespace GeneratedUnit

variable {σ : Type} {F : Filer σ} {p : UnitPlan} {u : GeneratedUnit} {s t : σ}

/-- Every call on a unit fails or does nothing, but for steps on further drafts that do not come to
a reference. Adding a template, a line or an excerpt has no fault of its own; rendering a text has
one if a marker of the text names no type. -/
structure Inert (F : Filer σ) (u : GeneratedUnit) (s : σ) : Prop where
  /-- The main draft takes no step. -/
  main : ∀ step, fault? step = none → u.call F s (.draft (.append .main step)) =
    (.error (.generation (.alreadyClosed u.name.toText)), u, s)
  /-- A step on a further draft fails at the scope if and only if it comes to a reference. -/
  part : ∀ label step n, (u.call F s (.draft (.append (.part label) step))).1 =
      .error (.generation (.scope (.frozen n))) ↔
    step.ComesTo (u.manuscript.around (.part label)) (u.manuscript.desk (.part label)) n
  /-- The scope binds no type. -/
  declare : ∀ n, u.call F s (.draft (.scope (.declare n))) =
    (.error (.generation (.scope (.frozen n))), u, s)
  /-- The scope answers no reference. -/
  refer : ∀ n, u.call F s (.draft (.scope (.refer n))) =
    (.error (.generation (.scope (.frozen n))), u, s)
  /-- The unit cannot be finished again. -/
  finish : ∀ c, c.finishes = true → u.call F s c =
    (.error (.generation (.alreadyClosed u.name.toText)), u, s)
  /-- Aborting the unit does nothing. -/
  abort : u.call F s .abort = (.ok (), u, s)
  /-- Work that fails leaves the unit as it is, and its failure is reported. -/
  leave : ∀ e, u.call F s (.leave (.error e)) = (.error e, u, s)

/-- **Every call on a closed unit fails or does nothing**, but for steps on further drafts that do
not come to a reference. -/
theorem inert_of_closed (hclosed : u.closed = true) (hfrozen : u.manuscript.scope.frozen = true) :
    u.Inert F s where
  main step hstep := by
    rw [call, draft, GeneratedUnit.append, if_pos (by simp [hclosed]), hstep]
  part label step n := by
    rw [call, draft, GeneratedUnit.append, if_neg (by simp)]
    have hstep := Step.run_of_frozen (n := n) (u.manuscript.around (.part label))
      (d := u.manuscript.desk (.part label)) hfrozen step
    rw [← hstep, Manuscript.perform]
    cases (step.run (u.manuscript.around (.part label))
      (u.manuscript.desk (.part label))).error with
    | none => simp
    | some error => simp [Failure.ofDraft_eq_scope]
  declare n := by
    rw [call, draft, Scope.step_of_frozen hfrozen, Scope.attempt, Scope.declare, if_pos hfrozen]
    rfl
  refer n := by
    rw [call, draft, Scope.step_of_frozen hfrozen, Scope.attempt, Scope.refer, if_pos hfrozen]
    rfl
  finish c hc := by
    rcases c with drafting | _ | _ | e | _
    · simp [UnitCall.finishes] at hc
    · rw [call, GeneratedUnit.finish, if_pos hclosed]
    · simp [UnitCall.finishes] at hc
    · simp [UnitCall.finishes] at hc
    · rw [call, within, GeneratedUnit.finish, if_pos hclosed]
  abort := by rw [call, GeneratedUnit.abort, if_pos hclosed]
  leave e := by rw [call, within, GeneratedUnit.abort, if_pos hclosed]

/-- **Closed is final.** Whatever has been done to a unit since it was opened, finishing or aborting
it closes it, whether or not that goes well. And once it is closed, whatever is done to it, to its
drafts and to its scope: nothing is asked of its filer, so that its sink stays as it is; its
imports, its scope and its main draft stay as they are; and every further call on it fails or does
nothing, but for steps on further drafts that do not come to a reference to a type.

**Proof sketch.** A unit is not closed without its scope being frozen (`evolves_run`), and calls on
a closed unit change at most its further drafts (`run_of_closed`). So it is still closed after them,
and `inert_of_closed` says what the next call comes to. -/
theorem closed_is_final (hbegin : begin F p s = (.ok u, t)) (calls : List UnitCall) :
    let (v, t₁) := u.run F t calls
    (∀ c, c.finishes = true ∨ c.aborts = true → (v.call F t₁ c).2.1.closed = true) ∧
    (v.closed = true → ∀ later,
      let (w, t₂) := v.run F t₁ later
      t₂ = t₁ ∧ w.closed = true ∧ w.imports = v.imports ∧
        w.manuscript.scope = v.manuscript.scope ∧ w.manuscript.main = v.manuscript.main ∧
        w.Inert F t₂) := by
  obtain ⟨-, -, -, hopen, -⟩ := begin_eq_ok hbegin
  have hevolves := u.evolves_run F t calls
  generalize u.run F t calls = r at hevolves ⊢
  obtain ⟨v, t₁⟩ := r
  refine ⟨fun c hc => closed_call hc, fun hclosed later => ?_⟩
  -- the unit was open at first, so that a call closed it, and that call froze its scope
  have hfrozen : v.manuscript.scope.frozen = true := hevolves.frozen hopen hclosed
  obtain ⟨parts, hparts⟩ := run_of_closed (F := F) (s := t₁) hclosed hfrozen later
  rw [hparts]
  exact ⟨rfl, hclosed, rfl, rfl, rfl, inert_of_closed hclosed hfrozen⟩

/-- A unit `com.Vine` whose body is left as it was drafted. -/
def vinePlan : UnitPlan where
  name := ⟨[Text.lit "com"], [Text.lit "Vine"], by decide, by decide⟩
  formatter := .ok

/-- A further draft is made and a text appended to it, and then the unit is finished. -/
def vineCalls : List UnitCall :=
  [.draft (.newDraft (Text.lit "body")),
    .draft (.append (.part (Text.lit "body")) (.add (Text.lit "int size;") [])), .finish]

/-- Calls on a unit that has been closed. -/
def lateCalls : List UnitCall :=
  [.abort, .draft (.append .main (.add (Text.lit "class Vine") [])), .finish]

/-- The text of a marker. -/
def dequeMarker : Text := Text.lit "$[java.util.Deque]"

/-- The type that the marker names. -/
def dequeType : QualifiedName :=
  ⟨[Text.lit "java", Text.lit "util"], [Text.lit "Deque"], by decide, by decide⟩

/-- A line with an excerpt that appends a word and then comes to the marker. -/
def lateStep : Step :=
  .addLine (Text.lit "%s") [.excerpt [.add (Text.lit "final ") [], .render dequeMarker]]

/-- The sink cannot be closed when the unit is finished. The unit is final nonetheless, and a
reference in an excerpt on its further draft fails. -/
theorem closed_is_final_vine :
    let F := scriptedFiler { failClose := true }
    ∃ u t, begin F vinePlan {} = (.ok u, t) ∧
      let (v, t₁) := u.run F t vineCalls
      v.closed = true ∧ (t₁.sinks.map (·.closings)) = [1] ∧
      let (w, t₂) := v.run F t₁ lateCalls
      t₂ = t₁ ∧ w.manuscript.main = v.manuscript.main ∧
        (w.call F t₂ (.draft (.append (.part (Text.lit "body")) lateStep))).1 =
          .error (.generation (.scope (.frozen dequeType))) := by
  intro F
  have hbegin : begin F vinePlan {} = (.ok _, _) := rfl
  obtain ⟨hsink, -, -, -, hmain, hinert⟩ := (closed_is_final hbegin vineCalls).2 rfl lateCalls
  refine ⟨_, _, hbegin, rfl, by decide +kernel, hsink, hmain, (hinert.part _ _ _).mpr ?_⟩
  have hnamed : Marker.named dequeMarker = [dequeType] := by decide +kernel
  refine .inl (.inr ⟨by decide +kernel, .inl ?_⟩)
  rw [Step.ComesTo, hnamed]
  exact .inl rfl

end GeneratedUnit

end UnitForge
