import UnitForge.Proofs.SinkRelease
import UnitForge.Proofs.UnitScope

set_option autoImplicit false

/-!
# Failures that surface

A unit is written against a filer, a look-up and a formatter, all of which may fail. To its caller a
unit reports failures of its own kind: a refusal by the filer is passed on, and every other failure
of a file or of the formatter becomes a `GenerationError`. There is one exception. If what a unit
begins with cannot be written, its sink is closed there and then, and if that fails too, the failure
of the operating system reaches the caller as it is.

## Main definitions

* `UnitForge.Filer.FailsByIo` — a filer whose operations fail as operations on files do.
* `UnitForge.UnitPlan.Supplied` — what is asked of the look-up and of the formatter.
* `UnitForge.Filer.AbandonFails`, `UnitForge.Filer.OpeningFailure` — the exception, and the ways in
  which a unit may fail to be opened.

## Main results

* `UnitForge.GeneratedUnit.begin_error` — how a unit fails to be opened.
* `UnitForge.GeneratedUnit.writeOut_error` — how a unit fails to be written out.
* `UnitForge.GeneratedUnit.failures_surface` — how a unit fails throughout its life.
-/

namespace UnitForge

/-! ## What may fail, and how -/

namespace Filer

variable {σ : Type}

/-- A filer whose operations fail as operations on files do. -/
structure FailsByIo (F : Filer σ) : Prop where
  /-- A target is refused, or the operating system fails. -/
  create : ∀ name originating s e, (F.create name originating s).1 = .error e →
    (∃ refusal, e = .refused refusal) ∨ ∃ o, e = .os o
  /-- Writing fails because of the operating system. -/
  write : ∀ sink chunk s e, (F.write sink chunk s).1 = .error e → ∃ o, e = .os o
  /-- Closing fails because of the operating system. -/
  close : ∀ sink s e, (F.close sink s).1 = .error e → ∃ o, e = .os o

/-- The sink of a unit is created, but neither can what the unit begins with be written, nor can
the sink be closed after that, because of `o`. -/
def AbandonFails (F : Filer σ) (p : UnitPlan) (s : σ) (o : OsError) : Prop :=
  ∃ sink s₁ w s₂, F.create p.name.toText p.originating s = (.ok sink, s₁) ∧
    F.writeAll sink (openingChunks p.name) s₁ = (.error (.os w), s₂) ∧
    (F.close sink s₂).1 = .error (.os o)

/-- The ways in which a unit may fail to be opened. -/
inductive OpeningFailure (F : Filer σ) (p : UnitPlan) (s : σ) : Failure → Prop
  /-- The filer refuses the target, which is reported unchanged. -/
  | refused {refusal : FilerError}
    (hcreate : (F.create p.name.toText p.originating s).1 = .error (.refused refusal)) :
    OpeningFailure F p s (.refused refusal)
  /-- The failure is reported as one of the unit. -/
  | wrapped (error : GenerationError) : OpeningFailure F p s (.generation error)
  /-- The sink cannot be abandoned, and that failure is reported as it is. -/
  | escaped {o : OsError} (habandon : F.AbandonFails p s o) : OpeningFailure F p s (.os o)

/-- Writing chunks in order fails because of the operating system. -/
lemma FailsByIo.writeAll {F : Filer σ} (hF : F.FailsByIo) {sink : SinkId} {chunks : List Text}
    {s : σ} {e : Failure} (h : (F.writeAll sink chunks s).1 = .error e) : ∃ o, e = .os o := by
  obtain ⟨chunk, -, t, hwrite⟩ := F.exists_write_error h
  exact hF.write sink (.ofText chunk) t e hwrite

end Filer

/-- What is asked of the look-up and of the formatter that a unit is opened with. -/
structure UnitPlan.Supplied (p : UnitPlan) : Prop where
  /-- The types of the package can be told, and none of them is called nothing. -/
  siblings : ∀ lookup, p.siblings = some lookup →
    ∃ names, lookup p.name.packageName = .ok names ∧ ∀ x ∈ names, x ≠ []
  /-- The formatter refuses a body, or the operating system fails. -/
  formatter : ∀ body e, p.formatter body = .error e →
    (∃ refusal, e = .format refusal) ∨ ∃ o, e = .os o

/-- Simple names that are not empty are those of types of the package. -/
lemma QualifiedName.exists_siblings (n : QualifiedName) {names : List Text}
    (h : ∀ x ∈ names, x ≠ []) :
    ∃ siblings : List QualifiedName, names.map n.sibling = siblings.map .ok := by
  induction names with
  | nil => exact ⟨[], rfl⟩
  | cons x names ih =>
    obtain ⟨siblings, hsiblings⟩ := ih fun y hy => h y (List.mem_cons_of_mem x hy)
    have hsegments : ∀ segment ∈ n.package ++ [x], segment ≠ [] := by
      intro segment hs
      rcases List.mem_append.mp hs with hs | hs
      · exact n.segments_ne_nil segment (List.mem_append_left _ hs)
      · rw [List.mem_singleton.mp hs]
        exact h x List.mem_cons_self
    have hx : n.sibling x = .ok ⟨n.package, [x], List.cons_ne_nil x [], hsegments⟩ := by
      rw [sibling, make, dif_pos (List.cons_ne_nil x []), dif_pos hsegments]
    exact ⟨_ :: siblings, by rw [List.map_cons, List.map_cons, hx, hsiblings]⟩

/-- The seeds of a unit are known, if the types of its package can be told. -/
lemma UnitPlan.exists_knows {p : UnitPlan}
    (hsiblings : ∀ lookup, p.siblings = some lookup →
      ∃ names, lookup p.name.packageName = .ok names ∧ ∀ x ∈ names, x ≠ []) :
    ∃ seeds, p.Knows seeds := by
  cases hlookup : p.siblings with
  | none =>
    refine ⟨p.name :: p.nested, ?_⟩
    rw [Knows, seeds, hlookup]
  | some lookup =>
    obtain ⟨names, hnames, hne⟩ := hsiblings lookup hlookup
    obtain ⟨siblings, hsiblings⟩ := p.name.exists_siblings hne
    refine ⟨p.name :: p.nested ++ siblings, ?_⟩
    rw [Knows, seeds, hlookup]
    dsimp only
    rw [hnames]
    dsimp only
    rw [hsiblings, ← List.map_append]

namespace GeneratedUnit

variable {σ : Type} {F : Filer σ} {u : GeneratedUnit} {p : UnitPlan} {s : σ} {e : Failure}

/-! ## Opening -/

/-- How the sink of a unit fails to be opened.

**Proof sketch.** Either it is not created, and that is a refusal or wrapped; or a write fails
because of the operating system. That failure is wrapped, unless the closing after it fails. -/
lemma openSink_error (hF : F.FailsByIo) (h : (F.openSink p.name p.originating s).1 = .error e) :
    F.OpeningFailure p s e := by
  rw [Filer.openSink] at h
  rcases hcreate : F.create p.name.toText p.originating s with ⟨e₁ | sink, s₁⟩
  · have hkind := hF.create p.name.toText p.originating s e₁ (congrArg Prod.fst hcreate)
    rw [hcreate] at h
    obtain ⟨refusal, rfl⟩ | ⟨o, rfl⟩ := hkind
    · rw [← Except.error.inj h]
      exact .refused (congrArg Prod.fst hcreate)
    · rw [← Except.error.inj h]
      exact .wrapped _
  · rw [hcreate] at h
    dsimp only at h
    rcases hwrite : F.writeAll sink (openingChunks p.name) s₁ with ⟨e₂ | _, s₂⟩
    · obtain ⟨w, rfl⟩ := hF.writeAll (congrArg Prod.fst hwrite)
      rw [hwrite] at h
      dsimp only at h
      rw [Filer.closeAfter] at h
      rcases hclose : F.close sink s₂ with ⟨e₃ | _, s₃⟩
      · obtain ⟨o, rfl⟩ := hF.close sink s₂ e₃ (congrArg Prod.fst hclose)
        rw [hclose] at h
        rw [← Except.error.inj h]
        exact .escaped ⟨sink, s₁, w, s₂, hcreate, hwrite, congrArg Prod.fst hclose⟩
      · rw [hclose] at h
        rw [← Except.error.inj h]
        exact .wrapped _
    · rw [hwrite] at h
      simp at h

/-- **How a unit fails to be opened.** -/
theorem begin_error (hF : F.FailsByIo) (hp : p.Supplied) (h : (begin F p s).1 = .error e) :
    F.OpeningFailure p s e := by
  obtain ⟨seeds, hknows⟩ := UnitPlan.exists_knows hp.siblings
  have hscope := UnitPlan.seededScope_eq_ok_iff.mpr ⟨seeds, hknows, rfl⟩
  apply openSink_error hF
  rw [begin] at h
  rcases hopen : F.openSink p.name p.originating s with ⟨e' | sink, t⟩
  · rw [hopen] at h
    rw [Except.error.inj h]
  · rw [hopen] at h
    rw [hscope] at h
    simp at h

/-- If the closing fails after what a unit begins with could not be written, then that failure
reaches the caller as it is. -/
lemma begin_of_abandonFails {o : OsError} (h : F.AbandonFails p s o) :
    (begin F p s).1 = .error (.os o) := by
  obtain ⟨sink, s₁, w, s₂, hcreate, hwrite, hclose⟩ := h
  rw [begin, Filer.openSink, hcreate]
  dsimp only
  rw [hwrite]
  dsimp only
  rw [Filer.closeAfter]
  rcases hc : F.close sink s₂ with ⟨e | _, s₃⟩
  · rw [hc] at hclose
    rw [Except.error.inj hclose]
  · rw [hc] at hclose
    simp at hclose

/-! ## Finishing and aborting -/

/-- Closing the sink of a unit fails with a failure of the unit, if that is what there was to be
reported. -/
lemma release_error (hF : F.FailsByIo) {outcome : Except Failure Unit}
    (houtcome : ∀ e, outcome = .error e → ∃ g, e = .generation g)
    (h : (u.release F outcome s).1 = .error e) : ∃ g, e = .generation g := by
  rw [release] at h
  rcases hclose : F.close u.sink s with ⟨e' | _, t⟩
  · obtain ⟨o, rfl⟩ := hF.close u.sink s e' (congrArg Prod.fst hclose)
    rw [hclose] at h
    exact ⟨_, (Except.error.inj h).symm⟩
  · rw [hclose] at h
    exact houtcome e h

/-- Writing the imports and the body fails because of the formatter or of the operating system. -/
lemma writeRest_error (hF : F.FailsByIo)
    (hformat : ∀ body e, u.formatter body = .error e →
      (∃ refusal, e = .format refusal) ∨ ∃ o, e = .os o)
    (h : (u.writeRest F s).1 = .error e) : (∃ refusal, e = .format refusal) ∨ ∃ o, e = .os o := by
  rw [writeRest] at h
  rcases hwrite : F.writeAll u.sink (importChunks u.imports) s with ⟨e' | _, t⟩
  · rw [hwrite] at h
    obtain rfl := Except.error.inj h
    exact .inr (hF.writeAll (congrArg Prod.fst hwrite))
  · rw [hwrite] at h
    cases hbody : u.formatter u.manuscript.main with
    | error e' =>
      rw [hbody] at h
      obtain rfl := Except.error.inj h
      exact hformat _ _ hbody
    | ok body =>
      rw [hbody] at h
      exact .inr (hF.write u.sink body t e h)

/-- **A unit fails to be written out with a failure of its own kind.** -/
theorem writeOut_error (hF : F.FailsByIo)
    (hformat : ∀ body e, u.formatter body = .error e →
      (∃ refusal, e = .format refusal) ∨ ∃ o, e = .os o)
    (h : (u.writeOut F s).1 = .error e) : ∃ g, e = .generation g := by
  refine release_error hF (fun e he => ?_) h
  cases hwritten : (u.writeRest F s).1 with
  | ok _ =>
    rw [hwritten] at he
    simp [Except.mapError] at he
  | error e' =>
    rw [hwritten] at he
    obtain rfl := Except.error.inj he
    obtain ⟨refusal, rfl⟩ | ⟨o, rfl⟩ := writeRest_error hF hformat hwritten
    · exact ⟨_, rfl⟩
    · exact ⟨_, rfl⟩

/-- Finishing a unit fails with a failure of its own kind. -/
lemma finish_error (hF : F.FailsByIo)
    (hformat : ∀ body e, u.formatter body = .error e →
      (∃ refusal, e = .format refusal) ∨ ∃ o, e = .os o)
    (h : (u.finish F s).1 = .error e) : ∃ g, e = .generation g := by
  cases hclosed : u.closed with
  | true =>
    rw [finish, if_pos hclosed] at h
    exact ⟨_, (Except.error.inj h).symm⟩
  | false =>
    rw [finish_of_open hclosed] at h
    exact writeOut_error (u := u.sealed) hF hformat h

/-- Aborting a unit fails with a failure of its own kind. -/
lemma abort_error (hF : F.FailsByIo) (h : (u.abort F s).1 = .error e) :
    ∃ g, e = .generation g := by
  cases hclosed : u.closed with
  | true =>
    rw [abort, if_pos hclosed] at h
    simp at h
  | false =>
    rw [abort_of_open hclosed] at h
    exact release_error hF (by simp) h

/-- **Failures surface as failures of units.** Let the operations of a filer fail as operations on
files do, let the types of the package be known, and let the formatter fail by refusing a body or
because of the operating system. If the unit cannot be opened, then because the filer refuses its
target, which is reported unchanged, or with a `GenerationError`; only if what the unit begins with
cannot be written and its sink cannot be closed after that, the failure of the operating system to
close it is reported as it is. If the unit can be opened, it is open, and after every run of calls
finishing it, aborting it, and leaving work on it that went well either goes well or fails with a
`GenerationError`.

**Proof sketch.** Opening is by cases (`begin_error`, `begin_of_abandonFails`). A run does not
change the formatter of a unit, and whatever fails while a unit is finished or aborted is wrapped
(`finish_error`, `abort_error`). -/
theorem failures_surface (hF : F.FailsByIo) (hp : p.Supplied) (s : σ) :
    (∀ e, (begin F p s).1 = .error e → F.OpeningFailure p s e) ∧
    (∀ o, F.AbandonFails p s o → (begin F p s).1 = .error (.os o)) ∧
    ∀ u t, begin F p s = (.ok u, t) → u.closed = false ∧ ∀ calls c,
      c.finishes = true ∨ c = .abort →
      ∀ e, ((u.run F t calls).1.call F (u.run F t calls).2 c).1 = .error e →
        ∃ g, e = .generation g := by
  refine ⟨fun e h => begin_error hF hp h, fun o h => begin_of_abandonFails h, ?_⟩
  intro u t hbegin
  obtain ⟨-, -, hformatter, hopen, -⟩ := begin_eq_ok hbegin
  refine ⟨hopen, fun calls c hc e he => ?_⟩
  have hformat : ∀ body e, (u.run F t calls).1.formatter body = .error e →
      (∃ refusal, e = .format refusal) ∨ ∃ o, e = .os o := by
    rw [(evolves_run F u t calls).formatter, hformatter]
    exact hp.formatter
  rcases c with drafting | _ | _ | e' | _
  · simp [UnitCall.finishes] at hc
  · exact finish_error hF hformat he
  · exact abort_error hF he
  · simp [UnitCall.finishes] at hc
  · exact finish_error hF hformat he

/-- The failures of a scripted filer that creates every sink are those of files. -/
lemma failsByIo_scripted (plan : FailurePlan) (h : plan.creation = none) :
    (scriptedFiler plan).FailsByIo where
  create name originating s e he := by
    simp [scriptedFiler, h] at he
  write sink chunk s e he := by
    dsimp only [scriptedFiler] at he
    split at he
    · exact ⟨_, (Except.error.inj he).symm⟩
    · simp at he
  close sink s e he := by
    dsimp only [scriptedFiler] at he
    split at he
    · exact ⟨_, (Except.error.inj he).symm⟩
    · simp at he

/-- A unit `com.Leaf` with a sibling, whose body is refused by its formatter. -/
def refusedPlan : UnitPlan where
  name := ⟨[Text.lit "com"], [Text.lit "Leaf"], by decide, by decide⟩
  siblings := some fun _ => .ok [Text.lit "Bar"]
  formatter _ := .error (.format (.unparsable 1))

/-- The types of its package are known, and its formatter only refuses. -/
lemma supplied_refusedPlan : refusedPlan.Supplied where
  siblings lookup hlookup := by
    obtain rfl := Option.some.inj hlookup
    exact ⟨_, rfl, by decide⟩
  formatter body e he := .inl ⟨_, (Except.error.inj he).symm⟩

/-- The formatter refuses the body, and then the sink cannot be closed: still the failure that
surfaces is one of the unit. -/
theorem failures_surface_refused :
    let F := scriptedFiler { failClose := true }
    F.FailsByIo ∧ refusedPlan.Supplied ∧
      ∃ u t, begin F refusedPlan {} = (.ok u, t) ∧ u.closed = false ∧
        ∃ g, (u.call F t .finish).1 = .error (.generation g) := by
  intro F
  have hF : F.FailsByIo := failsByIo_scripted _ rfl
  obtain ⟨hopen, hsurface⟩ := (failures_surface hF supplied_refusedPlan {}).2.2 _ _ rfl
  obtain ⟨g, hg⟩ := hsurface [] .finish (.inl rfl) _ rfl
  exact ⟨hF, supplied_refusedPlan, _, _, rfl, hopen, g, congrArg Except.error hg⟩

/-- **A failure of the operating system can reach the caller as it is**: neither can the first line
of the unit be written, nor can its sink be closed. -/
theorem failure_escapes :
    let F := scriptedFiler { failOn := some (Text.lit "Autogenerated"), failClose := true }
    F.FailsByIo ∧ refusedPlan.Supplied ∧
      (begin F refusedPlan {}).1 = .error (.os (.failed (Text.lit "close failed"))) := by
  intro F
  exact ⟨failsByIo_scripted _ rfl, supplied_refusedPlan, rfl⟩

end GeneratedUnit

end UnitForge
