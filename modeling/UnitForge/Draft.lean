import UnitForge.Feature
import UnitForge.Marker
import UnitForge.Scope
import UnitForge.Template.Fill

set_option autoImplicit false

/-!
# Drafts

The body of a unit is drafted by appending filled templates. The arguments of a template may be
plain values, references to types, the texts of drafts, and excerpts: small programs that append to
the draft that they are given. All drafts of a unit share its scope, so that their references take
part in one competition for simple names.

## Main definitions

* `UnitForge.Argument`, `UnitForge.Step`: what a template takes, and one appending step; an excerpt
  is a list of steps.
* `UnitForge.DraftError`: why a step fails, with its wording.
* `UnitForge.Desk`, `UnitForge.Surroundings`: the draft at hand, and the texts around it.
* `UnitForge.Step.run`, `UnitForge.Step.runAll`: performs steps on a draft.
* `UnitForge.Manuscript`: a scope and the drafts that share it.

## Implementation notes

The text of a draft is read when a template takes it, also within an excerpt: a later step of an
excerpt sees what the earlier ones have appended. So the surroundings of a draft give the texts of
all drafts as they depend on that of the draft at hand, the only one that changes meanwhile.

An excerpt is a fixed list of steps on the draft that it is given. It does not look at texts to
decide on its steps, and it makes no further drafts.
-/

namespace UnitForge

/-- Which draft of a manuscript: its main one, or one with a label. -/
inductive DraftId where
  /-- The main draft, which becomes the body of the unit. -/
  | main
  /-- Another draft. -/
  | part (label : Text)
  deriving DecidableEq, Repr

mutual

/-- What a template takes in the place of a directive. -/
inductive Argument where
  /-- A plain value. -/
  | value (v : Value)
  /-- A reference to a type. -/
  | type (n : QualifiedName)
  /-- The present text of a draft. -/
  | draft (id : DraftId)
  /-- The text so far of the draft that the step appends to, at level zero. Where the step belongs
  to an excerpt that is an argument, the next level is the draft that the excerpt is for. -/
  | enclosing (level : Nat)
  /-- The text that an excerpt appends to an empty draft. -/
  | excerpt (steps : List Step)

/-- A step that appends to a draft. -/
inductive Step where
  /-- Appends a filled template. -/
  | add (template : Text) (arguments : List Argument)
  /-- Appends a filled template, and a newline unless the text ends in one. -/
  | addLine (template : Text) (arguments : List Argument)
  /-- Performs the steps of an excerpt. -/
  | excerpt (steps : List Step)
  /-- Appends a text in which markers refer to types. -/
  | render (text : Text)
  /-- Fails because something is no name. -/
  | misnamed (error : NameError)

end

/-- Why a step on a draft fails. -/
inductive DraftError where
  /-- Something is not a name. -/
  | name (error : NameError)
  /-- A type cannot be referred to. -/
  | scope (error : ScopeError)
  /-- A template cannot be filled. -/
  | template (text : Text) (error : TemplateError)
  deriving DecidableEq

/-- The wording of the failure of a step. -/
def DraftError.message : DraftError → Text
  | .name error => error.message
  | .scope error => error.message
  | .template text error =>
    if error.nature = .outOfRange then error.message
    else
      Text.lit "Malformed template " ++ Text.quoted text ++ Text.lit ": " ++ error.message

/-- The state of a draft while steps are performed: its text and the scope. -/
structure Desk where
  /-- The text of the draft. -/
  text : RawText
  /-- The scope that it shares with other drafts. -/
  scope : Scope
  deriving DecidableEq

/-- The texts that steps on a draft can read. -/
structure Surroundings where
  /-- The texts of the drafts of the manuscript while the draft at hand has the given text. -/
  texts : RawText → DraftId → RawText
  /-- The texts of the drafts that an excerpt is for, from the innermost outwards. -/
  outer : List RawText := []

namespace Surroundings

variable (around : Surroundings) (text : RawText)

/-- The text of the draft at the given level, where that of the draft at hand is `text`; empty if
there are not so many levels. -/
def level (n : Nat) : RawText := (text :: around.outer)[n]?.getD []

/-- The texts that the steps of an excerpt can read which is an argument of a step on a draft with
that text. No draft of the manuscript changes while they are performed. -/
def inside : Surroundings where
  texts _ := around.texts text
  outer := text :: around.outer

end Surroundings

/-- The outcome of steps: the state that they leave, and why they stopped early, if they did. -/
structure Outcome where
  /-- The state left. -/
  desk : Desk
  /-- Why the steps stopped early. -/
  error : Option DraftError := none
  deriving DecidableEq

/-- Appends a template filled with converted values, or fails. `finish` is applied to the text. -/
def Desk.append (d : Desk) (template : Text) (values : Except DraftError (List Value) × Scope)
    (finish : RawText → RawText) : Outcome :=
  let d := { d with scope := values.2 }
  match values.1 with
  | .error e => ⟨d, some e⟩
  | .ok values =>
    match Template.fill template values with
    | .error e => ⟨d, some (.template template e)⟩
    | .ok text => ⟨{ d with text := d.text ++ finish text }, none⟩

/-- The text with a newline at its end. -/
def endLine (text : RawText) : RawText :=
  if text.getLast? = some (.char '\n') then text else text ++ [.char '\n']

/-- The value that refers to a type, and the scope after the reference. -/
def Scope.referValue (s : Scope) (n : QualifiedName) : Except DraftError Value × Scope :=
  match s.refer n with
  | .error e => (.error (.scope e), s)
  | .ok (text, s) => (.ok (.ofText text), s)

/-- The values that refer to types, from left to right, and the scope after them. -/
def Scope.referAll (s : Scope) : List QualifiedName → Except DraftError (List Value) × Scope
  | [] => (.ok [], s)
  | n :: names =>
    match s.referValue n with
    | (.error e, s) => (.error e, s)
    | (.ok value, s) =>
      let (values, s) := s.referAll names
      (values.map (value :: ·), s)

/-- Appends a text in which markers refer to types. -/
def Desk.render (d : Desk) (text : Text) : Outcome :=
  match Marker.compile text with
  | .error e => ⟨d, some (.name e)⟩
  | .ok (template, names) => d.append template (d.scope.referAll names) id

mutual

/-- The plain value of an argument of a step on a draft, and the scope after its references. -/
def Argument.convert (around : Surroundings) (d : Desk) :
    Argument → Except DraftError Value × Scope
  | .value v => (.ok v, d.scope)
  | .type n => d.scope.referValue n
  | .draft id => (.ok (.text (around.texts d.text id)), d.scope)
  | .enclosing level => (.ok (.text (around.level d.text level)), d.scope)
  | .excerpt steps =>
    let outcome := Step.runAll (around.inside d.text) ⟨[], d.scope⟩ steps
    match outcome.error with
    | some e => (.error e, outcome.desk.scope)
    | none => (.ok (.text outcome.desk.text), outcome.desk.scope)

/-- The plain values of arguments, from left to right, and the scope after their references. -/
def Argument.convertAll (around : Surroundings) (d : Desk) :
    List Argument → Except DraftError (List Value) × Scope
  | [] => (.ok [], d.scope)
  | argument :: arguments =>
    match argument.convert around d with
    | (.error e, s) => (.error e, s)
    | (.ok value, s) =>
      let (values, s) := Argument.convertAll around ⟨d.text, s⟩ arguments
      (values.map (value :: ·), s)

/-- Performs one step. -/
def Step.run (around : Surroundings) (d : Desk) : Step → Outcome
  | .add template arguments => d.append template (Argument.convertAll around d arguments) id
  | .addLine template arguments =>
    d.append template (Argument.convertAll around d arguments) endLine
  | .excerpt steps => Step.runAll around d steps
  | .render text => d.render text
  | .misnamed e => ⟨d, some (.name e)⟩

/-- Performs steps in order, up to the first that fails. -/
def Step.runAll (around : Surroundings) (d : Desk) : List Step → Outcome
  | [] => ⟨d, none⟩
  | step :: steps =>
    let outcome := step.run around d
    match outcome.error with
    | some _ => outcome
    | none => Step.runAll around outcome.desk steps

end

/-- The drafts of a unit and the scope that they share. -/
structure Manuscript where
  /-- The shared scope. -/
  scope : Scope
  /-- The capabilities that code may look up. -/
  features : FeatureSet := {}
  /-- The main draft. -/
  main : RawText := []
  /-- The other drafts by label, in order of their making. -/
  parts : Keyed RawText := []

namespace Manuscript

/-- The text of a draft; empty if there is none. -/
def text (m : Manuscript) : DraftId → RawText
  | .main => m.main
  | .part label => (Keyed.get? m.parts label).getD []

/-- Whether there is such a draft. -/
def has (m : Manuscript) : DraftId → Bool
  | .main => true
  | .part label => Keyed.has m.parts label

/-- The manuscript with a text in the place of a draft's. -/
def setText (m : Manuscript) (id : DraftId) (text : RawText) : Manuscript :=
  match id with
  | .main => { m with main := text }
  | .part label => { m with parts := Keyed.put label text m.parts }

/-- The manuscript with a further, empty draft. -/
def newDraft (m : Manuscript) (id : DraftId) : Manuscript := m.setText id []

/-- A draft and the scope, as steps on the draft meet them. -/
def desk (m : Manuscript) (id : DraftId) : Desk := ⟨m.text id, m.scope⟩

/-- The texts that steps on a draft can read: that of the draft is the one which it has by then. -/
def around (m : Manuscript) (id : DraftId) : Surroundings where
  texts text := (m.setText id text).text

/-- Performs a step on a draft: the manuscript after it, and why the step failed. -/
def perform (m : Manuscript) (id : DraftId) (step : Step) : Manuscript × Option DraftError :=
  let outcome := step.run (m.around id) (m.desk id)
  ({ m.setText id outcome.desk.text with scope := outcome.desk.scope }, outcome.error)

/-- Makes a type usable by its simple name without an import. -/
def declare (m : Manuscript) (n : QualifiedName) : Except ScopeError Manuscript :=
  (m.scope.declare n).map fun scope => { m with scope }

end Manuscript

end UnitForge
