import UnitForge.Proofs.UnitRuns

set_option autoImplicit false

/-!
# Drafts that share a scope

Any number of drafts are written in turn. Each of them only ever grows, and only by the steps that
are performed on it, so that a text that has been spliced stays as it was. The scope that they share
is touched by references alone: it becomes what a scope of its own would become that is asked for
the types of all steps in the order in which they are performed.

## Main definitions

* `UnitForge.Manuscript.draft`, `UnitForge.Manuscript.run` — work on the drafts of a manuscript.
* `UnitForge.Manuscript.calls` — the calls on a scope that the work comes to.
* `UnitForge.Manuscript.OnlyAppends` — what work on the drafts does to their texts.

## Main results

* `UnitForge.Manuscript.onlyAppends`, `UnitForge.Manuscript.prefix_text_run` — the texts after one
  piece of work and after all of it.
* `UnitForge.Manuscript.scope_run` — the scope after all of it.
* `UnitForge.Manuscript.drafts_share_scope` — texts and scope throughout a run.
-/

namespace UnitForge

namespace Manuscript

/-- Works on the drafts: the manuscript after it, and why it failed. -/
def draft (m : Manuscript) : Drafting → Manuscript × Option DraftError
  | .append id step => m.perform id step
  | .newDraft label => (m.newDraft (.part label), none)
  | .scope call =>
    ({ m with scope := m.scope.step call },
      match m.scope.attempt call with
      | .error e => some (.scope e)
      | .ok () => none)

/-- The manuscript after work on its drafts, some of which may fail. -/
def run (m : Manuscript) (work : List Drafting) : Manuscript :=
  work.foldl (fun m w => (m.draft w).1) m

/-- Whether each draft that is made gets a label of its own. -/
def makesNew (m : Manuscript) : List Drafting → Bool
  | [] => true
  | .newDraft label :: work =>
    !m.has (.part label) && (m.newDraft (.part label)).makesNew work
  | w :: work => (m.draft w).1.makesNew work

/-- The calls on a scope that work on the drafts comes to, in order. -/
def calls (m : Manuscript) : List Drafting → List Scope.Call
  | [] => []
  | .append id step :: work =>
    (step.asks (m.around id) (m.desk id)).map .refer ++ (m.perform id step).1.calls work
  | .newDraft label :: work => (m.newDraft (.part label)).calls work
  | .scope call :: work => call :: (m.draft (.scope call)).1.calls work

/-- What work on the drafts of a manuscript does to their texts. -/
structure OnlyAppends (m : Manuscript) (w : Drafting) : Prop where
  /-- Every draft keeps what it had. -/
  grows : ∀ id, m.text id <+: (m.draft w).1.text id
  /-- Only the draft that a step is performed on may get more. -/
  others : ∀ id, (∀ step, w ≠ .append id step) → (m.draft w).1.text id = m.text id
  /-- A single step that fails appends nothing. -/
  clean : ∀ id step e, w = .append id step → step.IsSingle → (m.draft w).2 = some e →
    (m.draft w).1.text = m.text

variable {m : Manuscript} {w : Drafting} {work : List Drafting}

@[simp] lemma run_cons : m.run (w :: work) = (m.draft w).1.run work := rfl

lemma run_append (front back : List Drafting) :
    m.run (front ++ back) = (m.run front).run back := List.foldl_append

/-- A draft that is made gets a label of its own, and so do those that are made after it. -/
lemma makesNew_cons : m.makesNew (w :: work) = true ↔
    (∀ label, w = .newDraft label → m.has (.part label) = false) ∧
      (m.draft w).1.makesNew work = true := by
  cases w with
  | newDraft label => simp [makesNew, draft]
  | append id step => simp [makesNew]
  | scope call => simp [makesNew]

lemma makesNew_append (front back : List Drafting) :
    m.makesNew (front ++ back) = true ↔
      m.makesNew front = true ∧ (m.run front).makesNew back = true := by
  induction front generalizing m with
  | nil => simp [makesNew, run]
  | cons w front ih => rw [List.cons_append, makesNew_cons, makesNew_cons, ih, run_cons, and_assoc]

/-- Work that is no step and changes no text only appends. -/
lemma onlyAppends_of_text_eq (htext : (m.draft w).1.text = m.text)
    (hw : ∀ id step, w ≠ .append id step) : m.OnlyAppends w where
  grows id := (congrFun htext id).symm ▸ List.prefix_rfl
  others id _ := by rw [htext]
  clean id step _ h := absurd h (hw id step)

/-- **Work on the drafts only appends.** -/
lemma onlyAppends (hnew : ∀ label, w = .newDraft label → m.has (.part label) = false) :
    m.OnlyAppends w := by
  cases w with
  | append id step =>
    have hrun : (m.draft (.append id step)).1.text = fun other =>
        if other = id then (step.run (m.around id) (m.desk id)).desk.text else m.text other :=
      funext fun other => m.text_perform id other step
    refine ⟨fun other => ?_, fun other hother => ?_, fun _ _ e hw hsingle hfails => ?_⟩
    · rw [hrun]
      dsimp only
      split
      next h =>
        rw [h]
        exact Step.prefix_run (m.around id) (m.desk id) step
      next => exact List.prefix_rfl
    · rw [hrun]
      exact if_neg fun h => hother step (by rw [h])
    · obtain ⟨rfl, rfl⟩ := Drafting.append.inj hw
      have hkept := Step.run_text_of_error (m.around id) (m.desk id) hsingle hfails
      rw [hrun, hkept]
      funext other
      split
      next h =>
        rw [h]
        rfl
      next => rfl
  | newDraft label =>
    have htext : (m.draft (.newDraft label)).1.text = m.text := m.text_newDraft (hnew label rfl)
    exact onlyAppends_of_text_eq htext fun _ _ h => nomatch h
  | scope call =>
    have htext : (m.draft (.scope call)).1.text = m.text := by
      funext id
      cases id <;> rfl
    exact onlyAppends_of_text_eq htext fun _ _ h => nomatch h

/-- **No draft loses text in a run.** -/
lemma prefix_text_run (hnew : m.makesNew work = true) (id : DraftId) :
    m.text id <+: (m.run work).text id := by
  induction work generalizing m with
  | nil => exact List.prefix_rfl
  | cons w work ih =>
    obtain ⟨hfirst, hrest⟩ := makesNew_cons.mp hnew
    exact ((onlyAppends hfirst).grows id).trans (ih hrest)

/-- **The scope after a run** is the one before it after the calls that the work comes to. -/
lemma scope_run (m : Manuscript) (work : List Drafting) :
    (m.run work).scope = m.scope.run (m.calls work) := by
  induction work generalizing m with
  | nil => rfl
  | cons w work ih =>
    rw [run_cons, ih]
    cases w with
    | append id step =>
      have hscope : (m.perform id step).1.scope =
          m.scope.askedFor (step.asks (m.around id) (m.desk id)) :=
        Step.scope_run (m.around id) (m.desk id) step
      rw [calls, Scope.run_append, draft, hscope]
      rfl
    | newDraft label => rfl
    | scope call => rfl

/-- **Drafts only grow and share one scope.** Whatever is done to any number of drafts, in any order
and with any failures: every draft keeps the text that it had, at each step and from any point of
the run to any later one; only the draft that a step is performed on may get more, and a single step
that fails appends nothing. The scope at the end is what the scope at the start would be after the
calls that the work comes to. For a step these are references to the types that it asks for: the
first of those that it names, from left to right and into its excerpts, and all of them if it goes
well.

**Proof sketch.** A step only appends (`Step.prefix_run`), whatever texts it reads, and its scope is
told by going through it (`Step.scope_run`). The rest is induction over the run. -/
theorem drafts_share_scope (m : Manuscript) (work : List Drafting)
    (hnew : m.makesNew work = true) :
    (∀ before w after, work = before ++ w :: after → (m.run before).OnlyAppends w) ∧
    (∀ before middle after, work = before ++ (middle ++ after) →
      ∀ id, (m.run before).text id <+: (m.run (before ++ middle)).text id) ∧
    (m.run work).scope = m.scope.run (m.calls work) ∧
    ∀ before id step after, work = before ++ .append id step :: after →
      AskedOf step.references
        (step.asks ((m.run before).around id) ((m.run before).desk id))
        (((m.run before).perform id step).2 = none) := by
  refine ⟨?_, ?_, m.scope_run work, ?_⟩
  · rintro before w after rfl
    obtain ⟨-, hrest⟩ := (makesNew_append before (w :: after)).mp hnew
    exact onlyAppends (makesNew_cons.mp hrest).1
  · rintro before middle after rfl id
    obtain ⟨-, hrest⟩ := (makesNew_append before (middle ++ after)).mp hnew
    rw [run_append]
    exact prefix_text_run ((makesNew_append middle after).mp hrest).1 id
  · intro before id step after _
    exact Step.asks_named ((m.run before).around id) ((m.run before).desk id) step

/-- The type `Moss` of the given package. -/
def moss (package : Char) : QualifiedName := ⟨[[package]], [Text.lit "Moss"], by simp, by simp⟩

/-- Two excerpts that take a character from the draft which they append to. The first has appended
one by then, and goes on to refer to a type. The second has appended the text of the first, which is
too long, and stops. -/
def mossWork : List Drafting :=
  [.newDraft ['b'],
    .append (.part ['b']) (.excerpt
      [.add ['x'] [], .add (Text.lit "%c") [.draft (.part ['b'])],
        .add (Text.lit "%s") [.type (moss 'x')]]),
    .append .main (.excerpt
      [.add (Text.lit "<%s>") [.draft (.part ['b'])],
        .add (Text.lit "%s%c") [.type (moss 'y'), .enclosing 0],
        .add (Text.lit "%s") [.type (moss 'z')]])]

/-- The excerpt that stops keeps the text that it had appended, and the scope is asked for the two
types that the work comes to. -/
theorem drafts_share_scope_moss :
    let m : Manuscript := { scope := { builtinPackages := [] } }
    m.makesNew mossWork = true ∧ (m.run mossWork).text .main = .ofText (Text.lit "<xxMoss>") ∧
      (m.run mossWork).scope = m.scope.run [.refer (moss 'x'), .refer (moss 'y')] := by
  intro m
  have hnew : m.makesNew mossWork = true := by decide +kernel
  have hcalls : m.calls mossWork = [.refer (moss 'x'), .refer (moss 'y')] := by decide +kernel
  obtain ⟨-, -, hscope, -⟩ := m.drafts_share_scope mossWork hnew
  exact ⟨hnew, by decide +kernel, hcalls ▸ hscope⟩

end Manuscript

end UnitForge
