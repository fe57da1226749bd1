import UnitForge.Failure
import UnitForge.Proofs.DraftScope
import UnitForge.Proofs.VerbatimTemplates

set_option autoImplicit false

/-!
# Templates with positions

A positional template is made of pieces of text with a slot between any two neighbours. It takes as
many texts as there are slots and puts them between the pieces, as they are: percent signs in the
pieces are doubled beforehand, and those in the texts are never looked at. With fewer or more texts
nothing is appended.

## Main definitions

* `UnitForge.Template.positional` — the template that is made of pieces.
* `UnitForge.Argument.ReadsAs` — the texts that arguments are converted to.

## Main results

* `UnitForge.Template.fill_positional` — what a positional template is filled to.
* `UnitForge.Argument.exists_readsAs` — arguments that are converted read as texts.
* `UnitForge.Manuscript.splicing_is_verbatim` — what appending a positional template comes to.
-/

namespace UnitForge

/-! ## Filling -/

namespace Template

/-- The template that is made of a first piece and further ones: each percent sign is doubled, and a
slot stands between any two neighbours. -/
def positional (first : Text) (others : List Text) : Text :=
  Text.join slot ((first :: others).map (Text.replaceChar '%' ['%', '%']))

/-- The template of a single piece. -/
lemma positional_nil (first : Text) : positional first [] = first.flatMap escaped := rfl

/-- A slot comes between the first piece and the template of the others. -/
lemma positional_cons (first second : Text) (others : List Text) :
    positional first (second :: others) =
      first.flatMap escaped ++ (slot ++ positional second others) :=
  List.append_assoc _ _ _

/-- A piece of text stands for itself. -/
lemma fill_flatMap_escaped (text : Text) (position : Nat) (rest : Text) (values : List Value) :
    ∃ later, fillSegments (segmentsFrom position (text.flatMap escaped ++ rest)) values =
      (fillSegments (segmentsFrom later rest) values).map (RawText.ofText text ++ ·) := by
  induction text generalizing position with
  | nil =>
    refine ⟨position, ?_⟩
    rw [List.flatMap_nil, List.nil_append]
    cases fillSegments (segmentsFrom position rest) values <;> rfl
  | cons c text ih =>
    obtain ⟨later, hlater⟩ := ih (position + (escaped c).length)
    refine ⟨later, ?_⟩
    rw [List.flatMap_cons, List.append_assoc, fill_escaped, hlater]
    cases fillSegments (segmentsFrom later rest) values <;> rfl

/-- A slot needs a text. -/
lemma fill_slot_nil (position : Nat) (rest : Text) :
    fillSegments (segmentsFrom position (slot ++ rest)) [] = .error .tooFewValues := by
  rw [segmentsFrom_slot, fillSegments]
  rfl

/-- **What a positional template is filled to**: its pieces with the texts between them, if there
are as many texts as slots.

**Proof sketch.** Induction on the pieces after the first. The first piece adds itself in any case.
Behind it the template ends, and all texts must have been taken, or a slot follows, which takes the
first text that is left. -/
theorem fill_positional (first : Text) (others : List Text) (texts : List RawText) :
    fill (positional first others) (texts.map .text) =
      if texts.length = others.length then
        .ok (RawText.ofText first ++
          (List.zipWith (· ++ ·) texts (others.map .ofText)).flatten)
      else .error (if texts.length < others.length then .tooFewValues else .tooManyValues) := by
  have hfrom : ∀ position,
      fillSegments (segmentsFrom position (positional first others)) (texts.map .text) =
        if texts.length = others.length then
          .ok (RawText.ofText first ++
            (List.zipWith (· ++ ·) texts (others.map .ofText)).flatten)
        else .error (if texts.length < others.length then .tooFewValues else .tooManyValues) := by
    induction others generalizing first texts with
    | nil =>
      intro position
      obtain ⟨later, hlater⟩ := fill_flatMap_escaped first position [] (texts.map .text)
      rw [List.append_nil] at hlater
      rw [positional_nil, hlater, segmentsFrom]
      cases texts <;> simp [fillSegments, Except.map]
    | cons second others ih =>
      intro position
      obtain ⟨later, hlater⟩ := fill_flatMap_escaped first position
        (slot ++ positional second others) (texts.map .text)
      rw [positional_cons, hlater]
      cases texts with
      | nil =>
        rw [List.map_nil, fill_slot_nil]
        rfl
      | cons text texts =>
        rw [List.map_cons, fill_slot, ih]
        by_cases h : texts.length = others.length
        · simp [h, Except.map]
        · simp [h, Except.map]
  exact hfrom 0

end Template

/-! ## Arguments as texts -/

/-- An argument that stands for a text: a text itself, a type, a draft or an excerpt. -/
def Argument.IsTextual : Argument → Prop
  | .value (.text _) => True
  | .value _ => False
  | _ => True

/-- The texts that arguments of a step on a draft with the given text are converted to from left to
right, and the scope after that. A text stands for itself, a type for the text that refers to it, a
draft for its present text, and an excerpt for what its steps append to an empty draft. -/
inductive Argument.ReadsAs (around : Surroundings) (own : RawText) :
    Scope → List Argument → List RawText → Scope → Prop
  /-- There are no arguments. -/
  | nil (s : Scope) : ReadsAs around own s [] [] s
  /-- A text stands for itself. -/
  | text {s t : Scope} {arguments : List Argument} {shown : List RawText} (text : RawText)
    (hrest : ReadsAs around own s arguments shown t) :
    ReadsAs around own s (.value (.text text) :: arguments) (text :: shown) t
  /-- A type stands for the text that refers to it. -/
  | type {s s' t : Scope} {n : QualifiedName} {text : Text} {arguments : List Argument}
    {shown : List RawText} (hrefer : s.refer n = .ok (text, s'))
    (hrest : ReadsAs around own s' arguments shown t) :
    ReadsAs around own s (.type n :: arguments) (.ofText text :: shown) t
  /-- A draft stands for its present text. -/
  | draft {s t : Scope} {arguments : List Argument} {shown : List RawText} (id : DraftId)
    (hrest : ReadsAs around own s arguments shown t) :
    ReadsAs around own s (.draft id :: arguments) (around.texts own id :: shown) t
  /-- So does a draft that is being written. -/
  | enclosing {s t : Scope} {arguments : List Argument} {shown : List RawText} (level : Nat)
    (hrest : ReadsAs around own s arguments shown t) :
    ReadsAs around own s (.enclosing level :: arguments) (around.level own level :: shown) t
  /-- An excerpt stands for what its steps append to an empty draft. -/
  | excerpt {s t : Scope} {steps : List Step} {desk : Desk} {arguments : List Argument}
    {shown : List RawText} (hrun : Step.runAll (around.inside own) ⟨[], s⟩ steps = ⟨desk, none⟩)
    (hrest : ReadsAs around own desk.scope arguments shown t) :
    ReadsAs around own s (.excerpt steps :: arguments) (desk.text :: shown) t

namespace Argument

variable {around : Surroundings} {own : RawText} {s t : Scope} {arguments : List Argument}
  {shown : List RawText}

/-- There is a text for every argument. -/
lemma ReadsAs.length_eq (h : ReadsAs around own s arguments shown t) :
    shown.length = arguments.length := by
  induction h with
  | nil => rfl
  | _ => simpa

/-- What arguments read as is what they are converted to. -/
lemma ReadsAs.convertAll (h : ReadsAs around own s arguments shown t) :
    Argument.convertAll around ⟨own, s⟩ arguments = (.ok (shown.map .text), t) := by
  induction h with
  | nil => rfl
  | text text _ ih =>
    rw [Argument.convertAll, convert]
    dsimp only
    rw [ih]
    rfl
  | type hrefer _ ih =>
    rw [Argument.convertAll, convert, Scope.referValue, hrefer]
    dsimp only
    rw [ih]
    rfl
  | draft id _ ih =>
    rw [Argument.convertAll, convert]
    dsimp only
    rw [ih]
    rfl
  | enclosing level _ ih =>
    rw [Argument.convertAll, convert]
    dsimp only
    rw [ih]
    rfl
  | excerpt hrun _ ih =>
    rw [Argument.convertAll, convert, hrun]
    dsimp only
    rw [ih]
    rfl

/-- Arguments read as texts in one way only. -/
lemma ReadsAs.eq {shown' : List RawText} {t' : Scope} (h : ReadsAs around own s arguments shown t)
    (h' : ReadsAs around own s arguments shown' t') : shown = shown' := by
  have hvalues := congrArg Prod.fst (h.convertAll.symm.trans h'.convertAll)
  exact List.map_injective_iff.mpr (fun _ _ => Value.text.inj) (Except.ok.inj hvalues)

/-- An argument that stands for a text and is converted reads as that text. -/
lemma exists_readsAs_cons {argument : Argument} (hkind : argument.IsTextual) {value : Value}
    {s' : Scope} (hconvert : argument.convert around ⟨own, s⟩ = (.ok value, s'))
    (hrest : ReadsAs around own s' arguments shown t) :
    ∃ text, ReadsAs around own s (argument :: arguments) (text :: shown) t := by
  cases argument with
  | value v =>
    cases v with
    | text text =>
      rw [convert, Prod.mk.injEq] at hconvert
      obtain ⟨-, rfl⟩ := hconvert
      exact ⟨text, .text text hrest⟩
    | _ => exact hkind.elim
  | type n =>
    rw [convert, Scope.referValue] at hconvert
    cases hrefer : s.refer n with
    | error e => simp [hrefer] at hconvert
    | ok answer =>
      rw [hrefer, Prod.mk.injEq] at hconvert
      obtain ⟨-, rfl⟩ := hconvert
      exact ⟨.ofText answer.1, .type hrefer hrest⟩
  | draft id =>
    rw [convert, Prod.mk.injEq] at hconvert
    obtain ⟨-, rfl⟩ := hconvert
    exact ⟨around.texts own id, .draft id hrest⟩
  | enclosing level =>
    rw [convert, Prod.mk.injEq] at hconvert
    obtain ⟨-, rfl⟩ := hconvert
    exact ⟨around.level own level, .enclosing level hrest⟩
  | excerpt steps =>
    rw [convert] at hconvert
    rcases hrun : Step.runAll (around.inside own) ⟨[], s⟩ steps with ⟨desk, _ | e⟩
    · rw [hrun, Prod.mk.injEq] at hconvert
      obtain ⟨-, rfl⟩ := hconvert
      exact ⟨desk.text, .excerpt hrun hrest⟩
    · simp [hrun] at hconvert

/-- **Arguments that stand for texts and are converted read as texts.** -/
theorem exists_readsAs (hkinds : ∀ argument ∈ arguments, argument.IsTextual)
    (hconverted : (Argument.convertAll around ⟨own, s⟩ arguments).1.isOk) :
    ∃ shown t, ReadsAs around own s arguments shown t := by
  induction arguments generalizing s with
  | nil => exact ⟨[], s, .nil s⟩
  | cons argument arguments ih =>
    rw [Argument.convertAll] at hconverted
    rcases hconvert : argument.convert around ⟨own, s⟩ with ⟨e | value, s'⟩
    · rw [hconvert] at hconverted
      exact absurd hconverted Bool.false_ne_true
    · rw [hconvert] at hconverted
      obtain ⟨shown, t, hrest⟩ := ih (fun a ha => hkinds a (List.mem_cons_of_mem argument ha))
        (isOk_of_isOk_map hconverted)
      obtain ⟨text, hcons⟩ :=
        exists_readsAs_cons (hkinds argument List.mem_cons_self) hconvert hrest
      exact ⟨text :: shown, t, hcons⟩

end Argument

/-! ## Appending -/

/-- Appending a positional template appends its pieces with the texts of the arguments between them,
or nothing if their number does not fit. -/
lemma Argument.ReadsAs.append {around : Surroundings} {d : Desk} {arguments : List Argument}
    {shown : List RawText} {t : Scope} (h : ReadsAs around d.text d.scope arguments shown t)
    (first : Text) (others : List Text) (finish : RawText → RawText) :
    d.append (Template.positional first others) (Argument.convertAll around d arguments) finish =
      if arguments.length = others.length then
        let filled :=
          RawText.ofText first ++ (List.zipWith (· ++ ·) shown (others.map .ofText)).flatten
        ⟨⟨d.text ++ finish filled, t⟩, none⟩
      else
        ⟨⟨d.text, t⟩, some (.template (Template.positional first others)
          (if arguments.length < others.length then .tooFewValues else .tooManyValues))⟩ := by
  have hfill := Template.fill_positional first others shown
  rw [h.length_eq] at hfill
  rw [h.convertAll, Desk.append]
  dsimp only
  rw [hfill]
  by_cases hlength : arguments.length = others.length
  · rw [if_pos hlength, if_pos hlength]
  · rw [if_neg hlength, if_neg hlength]

/-- A line is ended by a newline unless its text ends in one. -/
lemma endLine_eq (text : RawText) :
    ([.char '\n'] <:+ text → endLine text = text) ∧
      (¬ [.char '\n'] <:+ text → endLine text = text ++ [.char '\n']) := by
  have hlast : text.getLast? = some (.char '\n') ↔ [.char '\n'] <:+ text := by
    rw [List.getLast?_eq_some_iff]
    exact exists_congr fun front => eq_comm
  rw [endLine, ← hlast]
  exact ⟨fun h => if_pos h, fun h => if_neg h⟩

namespace Manuscript

/-- **Splicing by position is verbatim.** Let the arguments of a positional template be texts,
types, drafts and excerpts, each of which can be converted. If there are as many as the template has
slots, appending it appends the pieces of the template with the texts of the arguments between them,
whatever characters these hold; a line gets a newline in addition exactly if this text does not end
in one. If there are fewer or more, appending fails with a `GenerationError`, and the text of the
draft stays as it was.

**Proof sketch.** Arguments that are converted read as texts (`Argument.exists_readsAs`), and the
template is filled to its pieces with these texts between them (`Template.fill_positional`). -/
theorem splicing_is_verbatim (m : Manuscript) (id : DraftId) (first : Text) (others : List Text)
    (arguments : List Argument) (hkinds : ∀ argument ∈ arguments, argument.IsTextual)
    (hconverted : (Argument.convertAll (m.around id) (m.desk id) arguments).1.isOk) :
    ∃ shown t, Argument.ReadsAs (m.around id) (m.text id) m.scope arguments shown t ∧
      let template := Template.positional first others
      let filled :=
        RawText.ofText first ++ (List.zipWith (· ++ ·) shown (others.map .ofText)).flatten
      let added := m.perform id (.add template arguments)
      let lined := m.perform id (.addLine template arguments)
      (arguments.length = others.length →
        (added.2 = none ∧ added.1.text id = m.text id ++ filled) ∧
        lined.2 = none ∧ ([.char '\n'] <:+ filled → lined.1.text id = m.text id ++ filled) ∧
          (¬ [.char '\n'] <:+ filled →
            lined.1.text id = m.text id ++ filled ++ [.char '\n'])) ∧
      (arguments.length ≠ others.length →
        let failure := Failure.generation (.malformedTemplate template
          (if arguments.length < others.length then .tooFewValues else .tooManyValues))
        (added.2.map Failure.ofDraft = some failure ∧ added.1.text id = m.text id) ∧
        lined.2.map Failure.ofDraft = some failure ∧ lined.1.text id = m.text id) := by
  obtain ⟨shown, t, hreads⟩ := Argument.exists_readsAs hkinds hconverted
  refine ⟨shown, t, hreads, ?_⟩
  intro template filled added lined
  have hrun (finish : RawText → RawText) := hreads.append (d := m.desk id) first others finish
  have hadd : Step.run (m.around id) (m.desk id) (.add template arguments) = _ := hrun _
  have hline : Step.run (m.around id) (m.desk id) (.addLine template arguments) = _ := hrun _
  obtain ⟨haddedError, -, haddedText⟩ := m.perform_of_run hadd
  obtain ⟨hlinedError, -, hlinedText⟩ := m.perform_of_run hline
  refine ⟨fun hlength => ?_, fun hlength => ?_⟩
  · obtain ⟨hended, hunended⟩ := endLine_eq filled
    rw [if_pos hlength] at haddedError haddedText hlinedError hlinedText
    refine ⟨⟨haddedError, haddedText⟩, hlinedError, fun h => ?_, fun h => ?_⟩
    · rw [hlinedText, ← hended h]
      rfl
    · rw [hlinedText, List.append_assoc, ← hunended h]
      rfl
  · rw [if_neg hlength] at haddedError haddedText hlinedError hlinedText
    have hfailure {e : TemplateError} (he : e.nature = .mismatch) :
        Failure.ofDraft (.template template e) = .generation (.malformedTemplate template e) := by
      rw [Failure.ofDraft, he]
      rfl
    have hnature : (if arguments.length < others.length then TemplateError.tooFewValues
        else .tooManyValues).nature = .mismatch := by
      split <;> rfl
    exact ⟨⟨(congrArg _ haddedError).trans (congrArg some (hfailure hnature)), haddedText⟩,
      (congrArg _ hlinedError).trans (congrArg some (hfailure hnature)), hlinedText⟩

/-- The type `garden.Sedge`. -/
def gardenSedge : QualifiedName := ⟨[Text.lit "garden"], [Text.lit "Sedge"], by decide, by decide⟩

/-- A text, a type, a draft and an excerpt, three of them with percent signs in them. -/
def sedgeArguments : List Argument :=
  [.value (.ofText (Text.lit "%(x)s")), .type gardenSedge, .draft (.part ['b']),
    .excerpt [.add (Text.lit "%s%%") [.value (.ofText ['%'])]]]

/-- No percent sign is taken for a directive, neither in the pieces nor in the arguments; with one
argument too many nothing is appended. -/
theorem splicing_is_verbatim_sedge :
    let m : Manuscript :=
      { scope := Scope.new [], main := .ofText (Text.lit "x"),
        parts := [(['b'], .ofText (Text.lit "100%d"))] }
    let others := [Text.lit " a", Text.lit "%s", [], Text.lit "\n"]
    (∀ argument ∈ sedgeArguments, argument.IsTextual) ∧
      (Argument.convertAll (m.around .main) (m.desk .main) sedgeArguments).1.isOk ∧
      (m.perform .main (.add (Template.positional ['%'] others) sedgeArguments)).1.text .main =
        .ofText (Text.lit "x%%(x)s aSedge%s100%d%%\n") ∧
      (m.perform .main (.addLine (Template.positional ['%'] others) sedgeArguments)).1.text .main =
        .ofText (Text.lit "x%%(x)s aSedge%s100%d%%\n") ∧
      (m.perform .main (.add (Template.positional ['%'] others.tail) sedgeArguments)).1.text .main =
        .ofText (Text.lit "x") := by
  intro m others
  have hkinds : ∀ argument ∈ sedgeArguments, argument.IsTextual := by
    simp [sedgeArguments, Argument.IsTextual, Value.ofText]
  have hexcerpt : Step.runAll ((m.around .main).inside (m.text .main))
      ⟨[], m.scope.bind gardenSedge.claim⟩
      [.add (Text.lit "%s%%") [.value (.ofText ['%'])]] =
        ⟨⟨.ofText (Text.lit "%%"), m.scope.bind gardenSedge.claim⟩, none⟩ := by
    decide +kernel
  have hreads : Argument.ReadsAs (m.around .main) (m.text .main) m.scope sedgeArguments
      [.ofText (Text.lit "%(x)s"), .ofText (Text.lit "Sedge"), .ofText (Text.lit "100%d"),
        .ofText (Text.lit "%%")] _ :=
    .text _ (.type rfl (.draft _ (.excerpt hexcerpt (.nil _))))
  have hconverted :
      (Argument.convertAll (m.around .main) (m.desk .main) sedgeArguments).1.isOk := by
    rw [Manuscript.desk, hreads.convertAll]
    rfl
  obtain ⟨shown, t, hshown, hfits, -⟩ :=
    m.splicing_is_verbatim .main ['%'] others sedgeArguments hkinds hconverted
  obtain ⟨-, -, -, -, hmany⟩ :=
    m.splicing_is_verbatim .main ['%'] others.tail sedgeArguments hkinds hconverted
  obtain rfl := hshown.eq hreads
  obtain ⟨⟨-, hadded⟩, -, hlined, -⟩ := hfits rfl
  obtain ⟨⟨-, hnothing⟩, -⟩ := hmany (by decide)
  have hended : [.char '\n'] <:+ RawText.ofText (Text.lit "%%(x)s aSedge%s100%d%%\n") :=
    ⟨RawText.ofText (Text.lit "%%(x)s aSedge%s100%d%%"), rfl⟩
  exact ⟨hkinds, hconverted, hadded, hlined hended, hnothing⟩

end Manuscript

end UnitForge
