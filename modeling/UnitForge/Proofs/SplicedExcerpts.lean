import UnitForge.Proofs.DraftTexts
import UnitForge.Proofs.VerbatimTemplates

set_option autoImplicit false

/-!
# Splicing excerpts

The text of an excerpt comes into a draft in one of three ways: the excerpt is performed on the
draft itself, it is the value of a template there, or it is performed on a draft of its own whose
text is then spliced. All three are the same for an excerpt whose arguments are values, types and
such excerpts, as all drafts share the scope. They differ only in what a failure leaves behind: an
excerpt that is performed on the draft itself leaves the text that it had appended so far.

An excerpt with a draft among its arguments may tell the three ways apart. The draft that it is
given is another one in each, and the text of a draft that it names may be what it appended itself.

## Main definitions

* `UnitForge.Manuscript.performAside` — performs steps on a further draft and splices its text.

## Main results

* `UnitForge.Step.run_splice` — what a template with an excerpt for its only value comes to.
* `UnitForge.Manuscript.splicing_is_inlining` — the three ways agree for excerpts without drafts.
-/

namespace UnitForge

/-! ## Values of a single slot -/

section

variable (around : Surroundings) (d : Desk)

/-- The steps of an excerpt are performed on an empty draft and what they leave is appended; if they
fail, nothing is. -/
lemma Step.run_splice (steps : List Step) :
    Step.run around d (.add Template.slot [.excerpt steps]) =
      let o := Step.runAll (around.inside d.text) ⟨[], d.scope⟩ steps
      match o.error with
      | some e => ⟨⟨d.text, o.desk.scope⟩, some e⟩
      | none => ⟨⟨d.text ++ o.desk.text, o.desk.scope⟩, none⟩ := by
  rw [Step.run, Argument.convertAll, Argument.convert]
  obtain ⟨⟨text, s⟩, error⟩ := Step.runAll (around.inside d.text) ⟨[], d.scope⟩ steps
  cases error with
  | some e => rfl
  | none =>
    dsimp only [Argument.convertAll, Except.map, Desk.append]
    rw [Template.fill_slot_alone]
    rfl

/-- The text of a draft is appended as it is. -/
lemma Step.run_splice_draft (id : DraftId) :
    Step.run around d (.add Template.slot [.draft id]) =
      ⟨⟨d.text ++ around.texts d.text id, d.scope⟩, none⟩ := by
  rw [Step.run, Argument.convertAll, Argument.convert]
  dsimp only [Argument.convertAll, Except.map, Desk.append]
  rw [Template.fill_slot_alone]
  rfl

end

/-! ## Manuscripts -/

namespace Manuscript

/-- Performs steps on a further draft with the given label, and then appends the text of that draft
to another. -/
def performAside (m : Manuscript) (label : Text) (id : DraftId) (steps : List Step) :
    Manuscript × Option DraftError :=
  let (m, error) := (m.newDraft (.part label)).perform (.part label) (.excerpt steps)
  match error with
  | some e => (m, some e)
  | none => m.perform id (.add Template.slot [.draft (.part label)])

/-- What the steps of an excerpt come to on an empty draft, where no draft has any text. -/
def excerptOutcome (m : Manuscript) (steps : List Step) : Outcome :=
  Step.runAll { texts := fun _ _ => [] } ⟨[], m.scope⟩ steps

variable (m : Manuscript) {steps : List Step} (hsteps : Step.allDraftless steps = true)

include hsteps in
/-- Performing an excerpt on a draft appends what it comes to on an empty one, also if it fails. -/
lemma perform_excerpt (id : DraftId) :
    (m.perform id (.excerpt steps)).2 = (m.excerptOutcome steps).error ∧
      (m.perform id (.excerpt steps)).1.scope = (m.excerptOutcome steps).desk.scope ∧
      (m.perform id (.excerpt steps)).1.text id =
        m.text id ++ (m.excerptOutcome steps).desk.text := by
  have hrun : Step.run (m.around id) (m.desk id) (.excerpt steps) =
      (m.excerptOutcome steps).behind (m.text id) := by
    rw [Step.run]
    exact Step.runAll_eq_behind (m.around id) _ (m.desk id) hsteps
  exact m.perform_of_run hrun

include hsteps in
/-- Splicing an excerpt by a template appends what it comes to on an empty draft, or nothing. -/
lemma perform_splice (id : DraftId) :
    (m.perform id (.add Template.slot [.excerpt steps])).2 = (m.excerptOutcome steps).error ∧
      (m.perform id (.add Template.slot [.excerpt steps])).1.scope =
        (m.excerptOutcome steps).desk.scope ∧
      (m.perform id (.add Template.slot [.excerpt steps])).1.text id =
        match (m.excerptOutcome steps).error with
        | some _ => m.text id
        | none => m.text id ++ (m.excerptOutcome steps).desk.text := by
  have hrun := Step.run_splice (m.around id) (m.desk id) steps
  have houtcome : Step.runAll ((m.around id).inside (m.text id)) ⟨[], m.scope⟩ steps =
      m.excerptOutcome steps :=
    Step.runAll_eq_behind _ _ ⟨[], m.scope⟩ hsteps
  rw [text_perform, if_pos rfl, perform, hrun, desk]
  dsimp only
  rw [houtcome]
  cases (m.excerptOutcome steps).error <;> exact ⟨rfl, rfl, rfl⟩

include hsteps in
/-- Performing an excerpt on a further draft and splicing that draft appends the same. -/
lemma performAside_eq {id : DraftId} {label : Text} (hid : m.has id = true)
    (hlabel : m.has (.part label) = false) :
    (m.performAside label id steps).2 = (m.excerptOutcome steps).error ∧
      (m.performAside label id steps).1.scope = (m.excerptOutcome steps).desk.scope ∧
      (m.performAside label id steps).1.text (.part label) =
        (m.excerptOutcome steps).desk.text ∧
      (m.performAside label id steps).1.text id =
        match (m.excerptOutcome steps).error with
        | some _ => m.text id
        | none => m.text id ++ (m.excerptOutcome steps).desk.text := by
  have hne : id ≠ .part label := by
    rintro rfl
    exact absurd (hid.symm.trans hlabel) (by decide)
  -- the further draft is empty, and making it changes neither the other texts nor the scope
  have hperform := (m.newDraft (.part label)).perform_excerpt hsteps (.part label)
  have hother := (m.newDraft (.part label)).text_perform (.part label) id (.excerpt steps)
  have houtcome : (m.newDraft (.part label)).excerptOutcome steps = m.excerptOutcome steps := rfl
  rw [houtcome, m.text_newDraft hlabel, m.text_of_not_has hlabel, List.nil_append] at hperform
  rw [if_neg hne, m.text_newDraft hlabel] at hother
  rw [performAside]
  generalize (m.newDraft (.part label)).perform (.part label) (.excerpt steps) = r
    at hperform hother ⊢
  obtain ⟨aside, error⟩ := r
  obtain ⟨herror, hscope, htext⟩ := hperform
  rw [← herror, ← hscope, ← htext]
  cases error with
  | some e => exact ⟨rfl, rfl, rfl, hother⟩
  | none =>
    have hrun := Step.run_splice_draft (aside.around id) (aside.desk id) (.part label)
    obtain ⟨herror, hscope, htext⟩ := aside.perform_of_run hrun
    have hread : (aside.around id).texts (aside.text id) (.part label) =
        aside.text (.part label) := by
      rw [texts_around, if_neg hne.symm]
    refine ⟨herror, hscope, ?_, ?_⟩
    · rw [text_perform, if_neg hne.symm]
    · rw [htext, desk, hread, hother]

/-- **Splicing an excerpt is inlining it**, if its arguments are values, types and such excerpts.
Performing the excerpt on a draft, giving it to a template as the only value, and performing it on a
further draft that is then spliced all fail alike or all go well, and they leave the same scope. If
they go well, they leave the same text of the draft: the one before with that of the further draft
behind it, as it stands there. If they fail, the last two leave the text of the draft as it was.

An excerpt that takes the text of a draft may come to something else in each of the three: it is
given another draft, and the text of a draft that it names may have grown by what it appended.

**Proof sketch.** Each comes to what the excerpt does to an empty draft: the first and the second as
steps without drafts read no text (`Step.runAll_eq_behind`), and the third because, besides, making
a further draft changes neither the scope nor the texts of the others. -/
theorem splicing_is_inlining (id : DraftId) (label : Text) (hid : m.has id = true)
    (hlabel : m.has (.part label) = false) (steps : List Step)
    (hsteps : Step.allDraftless steps = true) :
    let inlined := m.perform id (.excerpt steps)
    let spliced := m.perform id (.add Template.slot [.excerpt steps])
    let aside := m.performAside label id steps
    (spliced.2 = inlined.2 ∧ aside.2 = inlined.2) ∧
    (spliced.1.scope = inlined.1.scope ∧ aside.1.scope = inlined.1.scope) ∧
    (inlined.2 = none →
      inlined.1.text id = m.text id ++ aside.1.text (.part label) ∧
        spliced.1.text id = inlined.1.text id ∧ aside.1.text id = inlined.1.text id) ∧
    ∀ e, inlined.2 = some e → spliced.1.text id = m.text id ∧ aside.1.text id = m.text id := by
  intro inlined spliced aside
  obtain ⟨hinlined, hinlinedScope, hinlinedText⟩ := m.perform_excerpt hsteps id
  obtain ⟨hspliced, hsplicedScope, hsplicedText⟩ := m.perform_splice hsteps id
  obtain ⟨haside, hasideScope, hpartText, hasideText⟩ := m.performAside_eq hsteps hid hlabel
  refine ⟨⟨hspliced.trans hinlined.symm, haside.trans hinlined.symm⟩,
    ⟨hsplicedScope.trans hinlinedScope.symm, hasideScope.trans hinlinedScope.symm⟩,
    fun hwell => ?_, fun e hfails => ?_⟩
  · rw [← hinlined, hwell] at hsplicedText hasideText
    rw [hinlinedText, hpartText]
    exact ⟨rfl, hsplicedText, hasideText⟩
  · rw [← hinlined, hfails] at hsplicedText hasideText
    exact ⟨hsplicedText, hasideText⟩

/-- The type `garden.Fern`. -/
def gardenFern : QualifiedName := ⟨[Text.lit "garden"], [Text.lit "Fern"], by decide, by decide⟩

/-- A line with a reference, and an excerpt in an excerpt that refers to another `Fern`. -/
def fernExcerpt : List Step :=
  [.addLine (Text.lit "%s a;") [.type gardenFern],
    .excerpt [.add (Text.lit "<%s>") [.excerpt [.render (Text.lit "100% $[shade.Fern]")]]]]

/-- The excerpt meets the same collision in all three ways, and fails in none. With a step that
fails behind it, two of them leave no text. -/
theorem splicing_is_inlining_fern :
    let m : Manuscript :=
      { scope := { builtinPackages := [] }, main := .ofText (Text.lit "class ") }
    let failing := fernExcerpt ++ [.add (Text.lit "%d") [.type gardenFern]]
    m.has .main = true ∧ m.has (.part (Text.lit "b")) = false ∧
      Step.allDraftless fernExcerpt = true ∧ Step.allDraftless failing = true ∧
      (m.perform .main (.add Template.slot [.excerpt fernExcerpt])).1.text .main =
        .ofText (Text.lit "class Fern a;\n<100% shade.Fern>") ∧
      (m.performAside (Text.lit "b") .main fernExcerpt).1.text .main =
        .ofText (Text.lit "class Fern a;\n<100% shade.Fern>") ∧
      (m.perform .main (.add Template.slot [.excerpt failing])).1.text .main =
        .ofText (Text.lit "class ") := by
  intro m failing
  have hwell : (m.perform .main (.excerpt fernExcerpt)).2 = none := by decide +kernel
  have htext : (m.perform .main (.excerpt fernExcerpt)).1.text .main =
      .ofText (Text.lit "class Fern a;\n<100% shade.Fern>") := by decide +kernel
  have hfails : ∃ e, (m.perform .main (.excerpt failing)).2 = some e :=
    Option.isSome_iff_exists.mp (by decide +kernel)
  obtain ⟨-, -, hall, -⟩ := m.splicing_is_inlining .main (Text.lit "b") rfl rfl fernExcerpt rfl
  obtain ⟨e, hfails⟩ := hfails
  obtain ⟨-, -, -, hnone⟩ := m.splicing_is_inlining .main (Text.lit "b") rfl rfl failing rfl
  obtain ⟨-, hspliced, haside⟩ := hall hwell
  exact ⟨rfl, rfl, rfl, rfl, hspliced.trans htext, haside.trans htext, (hnone e hfails).1⟩

/-- An excerpt that takes the text of the draft which it is given tells two of the ways apart. -/
example :
    let m : Manuscript := { scope := { builtinPackages := [] }, main := .ofText ['a'] }
    let steps : List Step := [.add Template.slot [.enclosing 0]]
    (m.perform .main (.excerpt steps)).1.text .main = .ofText (Text.lit "aa") ∧
      (m.perform .main (.add Template.slot [.excerpt steps])).1.text .main = .ofText ['a'] := by
  decide +kernel

end Manuscript

end UnitForge
