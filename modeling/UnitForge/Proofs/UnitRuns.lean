import UnitForge.Proofs.DraftScope

set_option autoImplicit false

/-!
# Runs of calls on a unit

A unit that has been opened takes calls in any order: its body is drafted, and sooner or later it is
finished or aborted, possibly more than once. What one call comes to is said once
(`GeneratedUnit.Effect`): it drafts, it is made on a closed unit, it finishes the unit, or it aborts
it. Every statement about whole runs follows from this case analysis.

## Main definitions

* `UnitForge.Drafting`, `UnitForge.UnitCall` — what is done to the drafts of a unit, and a call on
  the unit.
* `UnitForge.GeneratedUnit.call`, `UnitForge.GeneratedUnit.run` — the unit and its filer after one
  call and after all of them.
* `UnitForge.GeneratedUnit.Effect` — what a call comes to.
* `UnitForge.GeneratedUnit.Evolves` — a unit that another one may turn into.

## Main results

* `UnitForge.GeneratedUnit.effect_call` — the case analysis.
* `UnitForge.GeneratedUnit.evolves_run` — what a run keeps of a unit.
* `UnitForge.GeneratedUnit.run_of_closed` — a run on a closed unit changes at most its further
  drafts.
* `UnitForge.GeneratedUnit.begin_eq_ok` — how a unit comes to be open.
-/

namespace UnitForge

/-! ## Calls -/

/-- What is done to the drafts of a unit and to their scope. -/
inductive Drafting where
  /-- Performs a step on a draft. -/
  | append (id : DraftId) (step : Step)
  /-- Makes a further draft. -/
  | newDraft (label : Text)
  /-- Calls the scope that the drafts share. -/
  | scope (call : Scope.Call)

/-- A call on a unit. -/
inductive UnitCall where
  /-- Works on the drafts. -/
  | draft (drafting : Drafting)
  /-- Writes imports and body and closes the sink. -/
  | finish
  /-- Closes the sink and writes nothing. -/
  | abort
  /-- Ends some work on the unit: finishes the unit if the work went well, and aborts it if not. -/
  | leave (work : Except Failure Unit)

namespace UnitCall

/-- Whether a call is to finish the unit. -/
def finishes : UnitCall → Bool
  | finish | leave (.ok ()) => true
  | _ => false

/-- Whether a call is to abort the unit. -/
def aborts : UnitCall → Bool
  | abort | leave (.error _) => true
  | _ => false

/-- The outcome of a call that aborts an open unit, if the sink can be closed. -/
def outcome : UnitCall → Except Failure Unit
  | leave work => work
  | _ => .ok ()

end UnitCall

/-- How a call on a scope goes. -/
def Scope.attempt (s : Scope) : Call → Except ScopeError Unit
  | .declare n => (s.declare n).map fun _ => ()
  | .refer n => (s.refer n).map fun _ => ()
  | .freeze => .ok ()

namespace GeneratedUnit

variable {σ : Type} {F : Filer σ} {u v w : GeneratedUnit} {s t : σ}

/-- Works on the drafts of a unit: how it goes, and the unit after it. -/
def draft (u : GeneratedUnit) : Drafting → Except Failure Unit × GeneratedUnit
  | .append id step => u.append id step
  | .newDraft label => (.ok (), { u with manuscript := u.manuscript.newDraft (.part label) })
  | .scope call =>
    ((u.manuscript.scope.attempt call).mapError fun e => .generation (.scope e),
      { u with manuscript := { u.manuscript with scope := u.manuscript.scope.step call } })

/-- Performs a call: how it goes, and the unit and its filer after it. -/
def call (F : Filer σ) (u : GeneratedUnit) (s : σ) :
    UnitCall → Except Failure Unit × GeneratedUnit × σ
  | .draft drafting => ((u.draft drafting).1, (u.draft drafting).2, s)
  | .finish => u.finish F s
  | .abort => u.abort F s
  | .leave work => u.within F work s

/-- The unit and its filer after calls in order, each of which may fail. -/
def run (F : Filer σ) (u : GeneratedUnit) (s : σ) : List UnitCall → GeneratedUnit × σ
  | [] => (u, s)
  | c :: calls => (u.call F s c).2.1.run F (u.call F s c).2.2 calls

@[simp] lemma run_nil : u.run F s [] = (u, s) := rfl

@[simp] lemma run_cons (c : UnitCall) (calls : List UnitCall) :
    u.run F s (c :: calls) = (u.call F s c).2.1.run F (u.call F s c).2.2 calls := rfl

/-- **Induction over a run**: what holds at its start and is kept by each of its calls holds at its
end. -/
theorem run_induction {P : GeneratedUnit → σ → Prop} (hs : P u s)
    (hstep : ∀ v t, P v t → ∀ c, P (v.call F t c).2.1 (v.call F t c).2.2)
    (calls : List UnitCall) : P (u.run F s calls).1 (u.run F s calls).2 := by
  induction calls generalizing u s with
  | nil => exact hs
  | cons c calls ih => exact ih (hstep u s hs c)

/-- No unit is both open and closed. -/
lemma false_of_open_of_closed (hopen : u.closed = false) (hclosed : u.closed = true) : False :=
  absurd (hopen.symm.trans hclosed) (by decide)

/-! ## What a call comes to -/

/-- Writes the imports and the body of a unit and closes its sink. -/
def writeOut (F : Filer σ) (u : GeneratedUnit) (s : σ) : Except Failure Unit × σ :=
  u.release F ((u.writeRest F s).1.mapError u.writeFailure) (u.writeRest F s).2

/-- What a call comes to. -/
inductive Effect (F : Filer σ) (u : GeneratedUnit) (s : σ) :
    UnitCall → Except Failure Unit × GeneratedUnit × σ → Prop
  /-- The call works on the drafts. -/
  | drafted (drafting : Drafting) :
    Effect F u s (.draft drafting) ((u.draft drafting).1, (u.draft drafting).2, s)
  /-- The unit has been closed before, and another call on it fails. -/
  | refused {c : UnitCall} {e : Failure} (hclosed : u.closed = true) :
    Effect F u s c (.error e, u, s)
  /-- The unit has been closed before, and aborting it does nothing. -/
  | ignored {c : UnitCall} (hclosed : u.closed = true) (hc : c.aborts = true) :
    Effect F u s c (.ok (), u, s)
  /-- The unit is finished. -/
  | finished {c : UnitCall} (hopen : u.closed = false) (hc : c.finishes = true) :
    Effect F u s c ((u.sealed.writeOut F s).1, u.sealed, (u.sealed.writeOut F s).2)
  /-- The unit is aborted. -/
  | aborted {c : UnitCall} (hopen : u.closed = false) (hc : c.aborts = true) :
    Effect F u s c
      ((u.sealed.release F c.outcome s).1, u.sealed, (u.sealed.release F c.outcome s).2)

/-- Finishing an open unit seals it, writes it out and closes its sink. -/
lemma finish_of_open (hopen : u.closed = false) :
    u.finish F s = ((u.sealed.writeOut F s).1, u.sealed, (u.sealed.writeOut F s).2) := by
  rw [finish, hopen]
  rfl

/-- Aborting an open unit seals it and closes its sink. -/
lemma abort_of_open (hopen : u.closed = false) :
    u.abort F s = ((u.sealed.release F (.ok ()) s).1, u.sealed,
      (u.sealed.release F (.ok ()) s).2) := by
  rw [abort, hopen]
  rfl

/-- Work that fails on an open unit has the unit sealed and its sink closed. -/
lemma within_error_of_open (hopen : u.closed = false) (e : Failure) :
    u.within F (.error e) s = ((u.sealed.release F (.error e) s).1, u.sealed,
      (u.sealed.release F (.error e) s).2) := by
  rw [within, abort_of_open hopen, release, release]
  obtain ⟨r, t⟩ := F.close u.sealed.sink s
  rcases r with e | _
  · cases e <;> rfl
  · rfl

/-- **Every call comes to one of these.** -/
theorem effect_call (F : Filer σ) (u : GeneratedUnit) (s : σ) (c : UnitCall) :
    u.Effect F s c (u.call F s c) := by
  cases hclosed : u.closed with
  | true =>
    rcases c with drafting | _ | _ | e | _
    · exact .drafted drafting
    · rw [call, finish, if_pos hclosed]
      exact .refused hclosed
    · rw [call, abort, if_pos hclosed]
      exact .ignored hclosed rfl
    · rw [call, within, abort, if_pos hclosed]
      exact .refused hclosed
    · rw [call, within, finish, if_pos hclosed]
      exact .refused hclosed
  | false =>
    rcases c with drafting | _ | _ | e | _
    · exact .drafted drafting
    · rw [call, finish_of_open hclosed]
      exact .finished hclosed rfl
    · rw [call, abort_of_open hclosed]
      exact .aborted hclosed rfl
    · rw [call, within_error_of_open hclosed]
      exact .aborted hclosed rfl
    · rw [call, within, finish_of_open hclosed]
      exact .finished hclosed rfl

/-! ## What a run keeps -/

/-- Work on the drafts changes nothing else, and lets their scope grow. -/
lemma draft_manuscript (u : GeneratedUnit) (drafting : Drafting) :
    ∃ m, (u.draft drafting).2 = { u with manuscript := m } ∧
      u.manuscript.scope.Grows m.scope := by
  cases drafting with
  | append id step =>
    rw [draft, append]
    split
    · refine ⟨u.manuscript, ?_, .refl _⟩
      cases fault? step <;> rfl
    · exact ⟨_, rfl, (u.manuscript.reaches_perform id step).reaches.grows⟩
  | newDraft label => exact ⟨_, rfl, .refl _⟩
  | scope call => exact ⟨_, rfl, u.manuscript.scope.grows_step call⟩

/-- Work on the drafts of a closed unit changes at most the further drafts. -/
lemma draft_of_closed (hclosed : u.closed = true) (hfrozen : u.manuscript.scope.frozen = true)
    (drafting : Drafting) :
    ∃ parts, (u.draft drafting).2 = { u with manuscript := { u.manuscript with parts } } := by
  cases drafting with
  | append id step =>
    rw [draft, append]
    cases id with
    | main =>
      refine ⟨u.manuscript.parts, ?_⟩
      rw [if_pos (by simp [hclosed])]
      cases fault? step <;> rfl
    | part label =>
      obtain ⟨parts, hparts⟩ := u.manuscript.perform_of_frozen hfrozen label step
      refine ⟨parts, ?_⟩
      rw [if_neg (by simp), ← hparts]
  | newDraft label => exact ⟨_, rfl⟩
  | scope call =>
    refine ⟨u.manuscript.parts, ?_⟩
    rw [draft, Scope.step_of_frozen hfrozen]

/-- A unit that calls may turn `u` into. -/
structure Evolves (u v : GeneratedUnit) : Prop where
  /-- It declares the same type. -/
  name : v.name = u.name
  /-- It is written to the same sink. -/
  sink : v.sink = u.sink
  /-- Its body is formatted alike. -/
  formatter : v.formatter = u.formatter
  /-- What is bound stays bound. -/
  scope : u.manuscript.scope.Grows v.manuscript.scope
  /-- A closed unit stays closed. -/
  closed : u.closed = true → v.closed = true
  /-- A unit is not closed without its scope. -/
  frozen : u.closed = false → v.closed = true → v.manuscript.scope.frozen = true

namespace Evolves

lemma refl (u : GeneratedUnit) : u.Evolves u where
  name := rfl
  sink := rfl
  formatter := rfl
  scope := .refl _
  closed := id
  frozen hopen hclosed := (false_of_open_of_closed hopen hclosed).elim

lemma trans (h : u.Evolves v) (h' : v.Evolves w) : u.Evolves w where
  name := h'.name.trans h.name
  sink := h'.sink.trans h.sink
  formatter := h'.formatter.trans h.formatter
  scope := h.scope.trans h'.scope
  closed := h'.closed ∘ h.closed
  frozen hopen hclosed := by
    cases hv : v.closed with
    | false => exact h'.frozen hv hclosed
    | true => exact h'.scope.frozen (h.frozen hopen hv)

end Evolves

/-- Sealing a unit closes it together with its scope. -/
lemma evolves_sealed (u : GeneratedUnit) : u.Evolves u.sealed where
  name := rfl
  sink := rfl
  formatter := rfl
  scope := ⟨List.prefix_refl _, rfl, fun _ => rfl⟩
  closed _ := rfl
  frozen _ _ := rfl

/-- What a call keeps of a unit. -/
lemma evolves_call (F : Filer σ) (u : GeneratedUnit) (s : σ) (c : UnitCall) :
    u.Evolves (u.call F s c).2.1 := by
  have h := effect_call F u s c
  generalize u.call F s c = r at h ⊢
  cases h with
  | drafted drafting =>
    obtain ⟨m, hm, hgrows⟩ := u.draft_manuscript drafting
    show u.Evolves (u.draft drafting).2
    rw [hm]
    refine ⟨rfl, rfl, rfl, hgrows, id, fun hopen hclosed => ?_⟩
    exact (false_of_open_of_closed hopen hclosed).elim
  | refused hclosed => exact .refl u
  | ignored hclosed hc => exact .refl u
  | finished hopen hc => exact u.evolves_sealed
  | aborted hopen hc => exact u.evolves_sealed

/-- **What a run keeps of a unit.** -/
theorem evolves_run (F : Filer σ) (u : GeneratedUnit) (s : σ) (calls : List UnitCall) :
    u.Evolves (u.run F s calls).1 :=
  run_induction (P := fun v _ => u.Evolves v) (.refl u)
    (fun v t h c => h.trans (v.evolves_call F t c)) calls

/-- A unit is closed once it has been told to finish or to abort. -/
lemma closed_call {c : UnitCall} (hc : c.finishes = true ∨ c.aborts = true) :
    (u.call F s c).2.1.closed = true := by
  have h := effect_call F u s c
  generalize u.call F s c = r at h ⊢
  cases h with
  | drafted drafting => simp [UnitCall.finishes, UnitCall.aborts] at hc
  | refused hclosed => exact hclosed
  | ignored hclosed _ => exact hclosed
  | finished _ _ => rfl
  | aborted _ _ => rfl

/-- A call on a closed unit does nothing to the filer, and changes at most the further drafts of the
unit. -/
lemma call_of_closed (hclosed : u.closed = true) (hfrozen : u.manuscript.scope.frozen = true)
    (c : UnitCall) :
    ∃ parts, (u.call F s c).2 = ({ u with manuscript := { u.manuscript with parts } }, s) := by
  have h := effect_call F u s c
  generalize u.call F s c = r at h ⊢
  cases h with
  | drafted drafting =>
    obtain ⟨parts, hparts⟩ := draft_of_closed hclosed hfrozen drafting
    exact ⟨parts, by rw [hparts]⟩
  | refused _ => exact ⟨u.manuscript.parts, rfl⟩
  | ignored _ _ => exact ⟨u.manuscript.parts, rfl⟩
  | finished hopen _ => exact (false_of_open_of_closed hopen hclosed).elim
  | aborted hopen _ => exact (false_of_open_of_closed hopen hclosed).elim

/-- **A run on a closed unit does nothing to the filer, and changes at most the further drafts of
the unit.** -/
theorem run_of_closed (hclosed : u.closed = true) (hfrozen : u.manuscript.scope.frozen = true)
    (calls : List UnitCall) :
    ∃ parts, u.run F s calls = ({ u with manuscript := { u.manuscript with parts } }, s) := by
  have h := run_induction (F := F) (u := u) (s := s)
    (P := fun v t => ∃ parts, (v, t) = ({ u with manuscript := { u.manuscript with parts } }, s))
    ⟨u.manuscript.parts, rfl⟩ ?_ calls
  · exact h
  · rintro v t ⟨parts, hv⟩ c
    obtain ⟨rfl, rfl⟩ := Prod.mk.inj hv
    obtain ⟨parts', hparts⟩ := call_of_closed (F := F) (s := t)
      (u := { u with manuscript := { u.manuscript with parts } }) hclosed hfrozen c
    exact ⟨parts', hparts⟩

/-! ## Opening -/

end GeneratedUnit

/-- A sink that has been opened was created, and what the unit begins with was written to it. -/
lemma Filer.openSink_eq_ok {σ : Type} {F : Filer σ} {n : QualifiedName} {originating : Value}
    {s t : σ} {sink : SinkId} (h : F.openSink n originating s = (.ok sink, t)) :
    ∃ s₁, F.create n.toText originating s = (.ok sink, s₁) ∧
      F.writeAll sink (openingChunks n) s₁ = (.ok (), t) := by
  rw [openSink] at h
  split at h
  · simp at h
  · simp at h
  next sink' s₁ hcreate =>
    split at h
    next e s₂ hwrite =>
      rw [closeAfter] at h
      split at h <;> simp at h
    next => simp at h
    next s₂ hwrite =>
      simp only [Prod.mk.injEq, Except.ok.injEq] at h
      obtain ⟨rfl, rfl⟩ := h
      exact ⟨s₁, hcreate, hwrite⟩

namespace GeneratedUnit

variable {σ : Type} {F : Filer σ} {u : GeneratedUnit} {s t : σ}

/-- **How a unit comes to be open**: its sink has been opened, and its scope has been seeded. -/
theorem begin_eq_ok {p : UnitPlan} (h : begin F p s = (.ok u, t)) :
    F.openSink p.name p.originating s = (.ok u.sink, t) ∧
      u.name = p.name ∧ u.formatter = p.formatter ∧ u.closed = false ∧
      p.seededScope = .ok u.manuscript.scope := by
  rw [begin] at h
  split at h
  · simp at h
  next sink s₁ hopen =>
    split at h
    · rw [Filer.closeAfter] at h
      split at h <;> simp at h
    next scope hscope =>
      simp only [Prod.mk.injEq, Except.ok.injEq] at h
      obtain ⟨rfl, rfl⟩ := h
      exact ⟨hopen, rfl, rfl, rfl, hscope⟩

end GeneratedUnit

end UnitForge
