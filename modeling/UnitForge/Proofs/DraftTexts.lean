import Mathlib.Data.List.Basic
import UnitForge.Draft

set_option autoImplicit false

/-!
# What drafting does to texts

A step only appends to the text of its draft, and a step that appends all of its text at once
appends nothing if it fails. What it appends may depend on the texts of drafts, that of its own
draft among them, as these may be arguments of templates. A step with no such argument reads no text
of a draft: what it appends, what it does to the scope and whether it fails would be the same on an
empty draft and in any surroundings.

## Main definitions

* `UnitForge.Outcome.behind` — an outcome with a text before that of its draft.
* `UnitForge.Step.IsSingle` — a step that appends all of its text at once.
* `UnitForge.Argument.isDraftless`, `UnitForge.Step.isDraftless` — there is no draft among the
  arguments, also not in the excerpts among them.

## Main results

* `UnitForge.Step.prefix_run` — a step only appends.
* `UnitForge.Step.run_text_of_error` — a single step that fails leaves the text as it was.
* `UnitForge.Step.run_behind`, `UnitForge.Step.runAll_behind` — steps without drafts do on a draft
  what they do on a shorter one in any surroundings, behind the text that comes before.
* `UnitForge.Manuscript.text_perform` — the texts of all drafts after a step on one of them.
-/

namespace UnitForge

/-- The outcome with a text before that of its draft. -/
def Outcome.behind (front : RawText) (o : Outcome) : Outcome :=
  { o with desk := { o.desk with text := front ++ o.desk.text } }

@[simp] lemma Outcome.behind_nil (o : Outcome) : o.behind [] = o := rfl

namespace Desk

variable (front text : RawText) (s : Scope) (template : Text)
  (values : Except DraftError (List Value) × Scope) (finish : RawText → RawText)

/-- A filled template is appended to whatever is there. -/
lemma append_behind :
    append ⟨front ++ text, s⟩ template values finish =
      (append ⟨text, s⟩ template values finish).behind front := by
  obtain ⟨_ | values, t⟩ := values
  · rfl
  · unfold append
    dsimp only
    cases Template.fill template values with
    | error e => rfl
    | ok filled =>
      dsimp only [Outcome.behind]
      rw [List.append_assoc]

/-- A text with markers is appended to whatever is there. -/
lemma render_behind (marked : Text) :
    render ⟨front ++ text, s⟩ marked = (render ⟨text, s⟩ marked).behind front := by
  unfold render
  cases Marker.compile marked with
  | error e => rfl
  | ok compiled => exact append_behind front text s _ _ _

/-- A filled template is appended to what is there. -/
lemma prefix_append (d : Desk) : d.text <+: (d.append template values finish).desk.text := by
  have h := append_behind d.text [] d.scope template values finish
  rw [List.append_nil] at h
  rw [h]
  exact List.prefix_append _ _

/-- A text with markers is appended to what is there. -/
lemma prefix_render (d : Desk) (marked : Text) : d.text <+: (d.render marked).desk.text := by
  unfold render
  cases Marker.compile marked with
  | error e => exact List.prefix_rfl
  | ok compiled => exact d.prefix_append _ _ _

/-- If a filled template cannot be appended, the text stays as it was. -/
lemma append_text_of_error {d : Desk} {e : DraftError}
    (h : (d.append template values finish).error = some e) :
    (d.append template values finish).desk.text = d.text := by
  obtain ⟨_ | values, t⟩ := values
  · rfl
  · unfold append at h ⊢
    dsimp only at h ⊢
    cases hfill : Template.fill template values with
    | error e => rfl
    | ok filled =>
      rw [hfill] at h
      exact absurd h (by simp)

/-- If a text with markers cannot be appended, the text stays as it was. -/
lemma render_text_of_error {d : Desk} {marked : Text} {e : DraftError}
    (h : (d.render marked).error = some e) : (d.render marked).desk.text = d.text := by
  unfold render at h ⊢
  cases hcompile : Marker.compile marked with
  | error e => rfl
  | ok compiled =>
    rw [hcompile] at h
    exact append_text_of_error _ _ _ h

end Desk

/-! ## Any steps -/

section

variable (around : Surroundings) (d : Desk)

mutual

/-- **A step only appends.** -/
theorem Step.prefix_run (d : Desk) : (step : Step) → d.text <+: (step.run around d).desk.text
  | .add _ _ => by
    rw [Step.run]
    exact d.prefix_append _ _ _
  | .addLine _ _ => by
    rw [Step.run]
    exact d.prefix_append _ _ _
  | .excerpt steps => by
    rw [Step.run]
    exact Step.prefix_runAll d steps
  | .render marked => by
    rw [Step.run]
    exact d.prefix_render marked
  | .misnamed _ => List.prefix_rfl

/-- Steps only append. -/
theorem Step.prefix_runAll (d : Desk) : (steps : List Step) →
    d.text <+: (Step.runAll around d steps).desk.text
  | [] => List.prefix_rfl
  | step :: steps => by
    have hstep := Step.prefix_run d step
    rw [Step.runAll]
    cases (step.run around d).error with
    | some e => exact hstep
    | none => exact hstep.trans (Step.prefix_runAll _ steps)

end

/-- A step that appends all of its text at once, or nothing. -/
def Step.IsSingle : Step → Prop
  | .excerpt _ => False
  | _ => True

/-- **A single step that fails leaves the text as it was.** -/
lemma Step.run_text_of_error {step : Step} {e : DraftError} (hsingle : step.IsSingle)
    (h : (step.run around d).error = some e) : (step.run around d).desk.text = d.text := by
  cases step with
  | add template arguments =>
    rw [Step.run] at h ⊢
    exact Desk.append_text_of_error _ _ _ h
  | addLine template arguments =>
    rw [Step.run] at h ⊢
    exact Desk.append_text_of_error _ _ _ h
  | excerpt steps => exact hsingle.elim
  | render marked =>
    rw [Step.run] at h ⊢
    exact Desk.render_text_of_error h
  | misnamed e => rw [Step.run]

end

/-! ## Steps without drafts -/

mutual

/-- Whether an argument is no draft and has none in it. -/
def Argument.isDraftless : Argument → Bool
  | .value _ => true
  | .type _ => true
  | .draft _ => false
  | .enclosing _ => false
  | .excerpt steps => Step.allDraftless steps

/-- Whether there is no draft among arguments, nor in one of them. -/
def Argument.allDraftless : List Argument → Bool
  | [] => true
  | argument :: arguments => argument.isDraftless && Argument.allDraftless arguments

/-- Whether a step takes no draft as an argument, also not within an excerpt. -/
def Step.isDraftless : Step → Bool
  | .add _ arguments => Argument.allDraftless arguments
  | .addLine _ arguments => Argument.allDraftless arguments
  | .excerpt steps => Step.allDraftless steps
  | .render _ => true
  | .misnamed _ => true

/-- Whether none of the steps takes a draft as an argument. -/
def Step.allDraftless : List Step → Bool
  | [] => true
  | step :: steps => step.isDraftless && Step.allDraftless steps

end

section

mutual

/-- An argument without drafts is converted to the same value on any draft. -/
theorem Argument.convert_of_draftless (around around' : Surroundings) (text text' : RawText)
    (s : Scope) : (argument : Argument) → argument.isDraftless = true →
    argument.convert around ⟨text, s⟩ = argument.convert around' ⟨text', s⟩
  | .value _, _ => rfl
  | .type _, _ => rfl
  | .draft _, h => absurd h Bool.false_ne_true
  | .enclosing _, h => absurd h Bool.false_ne_true
  | .excerpt steps, h => by
    have hsteps := Step.runAll_behind (around.inside text) (around'.inside text') [] [] s steps h
    rw [List.append_nil, Outcome.behind_nil] at hsteps
    rw [Argument.convert, Argument.convert, hsteps]

/-- Arguments without drafts are converted to the same values on any draft. -/
theorem Argument.convertAll_of_draftless (around around' : Surroundings) (text text' : RawText)
    (s : Scope) : (arguments : List Argument) → Argument.allDraftless arguments = true →
    Argument.convertAll around ⟨text, s⟩ arguments =
      Argument.convertAll around' ⟨text', s⟩ arguments
  | [], _ => rfl
  | argument :: arguments, h => by
    rw [Argument.allDraftless, Bool.and_eq_true] at h
    rw [Argument.convertAll, Argument.convertAll,
      Argument.convert_of_draftless around around' text text' s argument h.1]
    obtain ⟨e | value, t⟩ := argument.convert around' ⟨text', s⟩
    · rfl
    · dsimp only
      rw [Argument.convertAll_of_draftless around around' text text' t arguments h.2]

/-- **A step without drafts does on a draft what it does on a shorter one**, whatever surrounds the
two, behind the text that comes before. -/
theorem Step.run_behind (around around' : Surroundings) (front text : RawText) (s : Scope) :
    (step : Step) → step.isDraftless = true →
    step.run around ⟨front ++ text, s⟩ = (step.run around' ⟨text, s⟩).behind front
  | .add template arguments, h => by
    rw [Step.run, Step.run,
      Argument.convertAll_of_draftless around around' (front ++ text) text s arguments h]
    exact Desk.append_behind front text s _ _ _
  | .addLine template arguments, h => by
    rw [Step.run, Step.run,
      Argument.convertAll_of_draftless around around' (front ++ text) text s arguments h]
    exact Desk.append_behind front text s _ _ _
  | .excerpt steps, h => by
    rw [Step.run, Step.run]
    exact Step.runAll_behind around around' front text s steps h
  | .render marked, _ => by
    rw [Step.run, Step.run]
    exact Desk.render_behind front text s marked
  | .misnamed _, _ => rfl

/-- Steps without drafts do on a draft what they do on a shorter one, whatever surrounds the two,
behind the text that comes before. -/
theorem Step.runAll_behind (around around' : Surroundings) (front text : RawText) (s : Scope) :
    (steps : List Step) → Step.allDraftless steps = true →
    Step.runAll around ⟨front ++ text, s⟩ steps =
      (Step.runAll around' ⟨text, s⟩ steps).behind front
  | [], _ => rfl
  | step :: steps, h => by
    rw [Step.allDraftless, Bool.and_eq_true] at h
    rw [Step.runAll, Step.runAll, Step.run_behind around around' front text s step h.1]
    obtain ⟨⟨reached, t⟩, error⟩ := step.run around' ⟨text, s⟩
    cases error with
    | some e => rfl
    | none => exact Step.runAll_behind around around' front reached t steps h.2

end

/-- **Steps without drafts do on a draft what they do on an empty one**, whatever surrounds the two,
behind the text of the draft. -/
theorem Step.runAll_eq_behind (around around' : Surroundings) (d : Desk) {steps : List Step}
    (h : Step.allDraftless steps = true) :
    Step.runAll around d steps = (Step.runAll around' ⟨[], d.scope⟩ steps).behind d.text := by
  have hsteps := Step.runAll_behind around around' d.text [] d.scope steps h
  rwa [List.append_nil] at hsteps

end

/-! ## Manuscripts -/

namespace Manuscript

variable (m : Manuscript)

/-- Setting the text of a draft changes no other. -/
lemma text_setText (id other : DraftId) (text : RawText) :
    (m.setText id text).text other = if other = id then text else m.text other := by
  cases id with
  | main => cases other <;> simp [setText, Manuscript.text]
  | part label =>
    cases other with
    | main => simp [setText, Manuscript.text]
    | part other =>
      simp only [setText, Manuscript.text, Keyed.get?_put, DraftId.part.injEq]
      split <;> rfl

/-- Steps on a draft read its text as it is by then, and the texts of the others. -/
lemma texts_around (id other : DraftId) (text : RawText) :
    (m.around id).texts text other = if other = id then text else m.text other :=
  m.text_setText id other text

/-- The texts of all drafts after a step on one of them. -/
lemma text_perform (id other : DraftId) (step : Step) :
    (m.perform id step).1.text other =
      if other = id then (step.run (m.around id) (m.desk id)).desk.text else m.text other :=
  m.text_setText id other _

/-- What a step comes to is what becomes of its draft and of the scope. -/
lemma perform_of_run {id : DraftId} {step : Step} {o : Outcome}
    (h : step.run (m.around id) (m.desk id) = o) :
    (m.perform id step).2 = o.error ∧ (m.perform id step).1.scope = o.desk.scope ∧
      (m.perform id step).1.text id = o.desk.text := by
  rw [text_perform, if_pos rfl, perform, h]
  exact ⟨rfl, rfl, rfl⟩

/-- A draft that is not there has no text. -/
lemma text_of_not_has {label : Text} (h : m.has (.part label) = false) :
    m.text (.part label) = [] := by
  have hfind : m.parts.find? (·.1 == label) = none := by
    rw [List.find?_eq_none]
    exact fun entry hm => List.any_eq_false.mp h entry hm
  rw [Manuscript.text, Keyed.get?, hfind]
  rfl

/-- Making a further draft changes no text. -/
lemma text_newDraft {label : Text} (h : m.has (.part label) = false) :
    (m.newDraft (.part label)).text = m.text := by
  funext other
  rw [newDraft, text_setText]
  split
  next hother => rw [hother, m.text_of_not_has h]
  next => rfl

end Manuscript

end UnitForge
