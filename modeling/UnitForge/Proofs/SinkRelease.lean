import UnitForge.Output.Scripted
import UnitForge.Proofs.RecordedFiler

set_option autoImplicit false

/-!
# Every sink is closed once

A unit owns its sink from the moment it is created. The sink is left open while the unit is, and
it is closed exactly once on every way out: when the unit cannot be opened, when it is finished,
whether or not that goes well, and when it is aborted. Nothing that is done to the unit afterwards
closes the sink again.

## Main definitions

* `UnitForge.Filer.OpensCleanly` — what is asked of the sink while the unit is opened.
* `UnitForge.GeneratedUnit.ReleasedOnce` — the invariant of all runs.

## Main results

* `UnitForge.GeneratedUnit.closings_begin_error` — the sink of a unit that cannot be opened.
* `UnitForge.GeneratedUnit.ReleasedOnce.call` — a call keeps the invariant.
* `UnitForge.GeneratedUnit.sink_released_once` — the sink of a unit throughout its life.
-/

namespace UnitForge

namespace Filer

variable {σ : Type} (F : Filer σ)

/-- If what the unit of a plan begins with cannot be written to the sink created for it, then
because of the operating system. -/
def OpensCleanly (p : UnitPlan) (s : σ) : Prop :=
  ∀ sink t, F.create p.name.toText p.originating s = (.ok sink, t) →
    ∀ e, (F.writeAll sink (openingChunks p.name) t).1 = .error e → ∃ o, e = .os o

/-- Writing chunks fails in no way in which writing one of them does not fail. -/
lemma exists_write_error {sink : SinkId} {chunks : List Text} {s : σ} {e : Failure}
    (h : (F.writeAll sink chunks s).1 = .error e) :
    ∃ chunk ∈ chunks, ∃ t, (F.write sink (.ofText chunk) t).1 = .error e := by
  induction chunks generalizing s with
  | nil => simp [writeAll] at h
  | cons chunk chunks ih =>
    rw [writeAll] at h
    split at h
    next e' t hwrite =>
      refine ⟨chunk, List.mem_cons_self, s, ?_⟩
      rw [hwrite]
      exact h
    next t hwrite =>
      obtain ⟨c, hc, t', ht⟩ := ih h
      exact ⟨c, List.mem_cons_of_mem chunk hc, t', ht⟩

/-- It is enough that no write fails but because of the operating system. -/
lemma opensCleanly_of_write {p : UnitPlan} {s : σ}
    (h : ∀ sink chunk t e, (F.write sink chunk t).1 = .error e → ∃ o, e = .os o) :
    F.OpensCleanly p s := by
  intro sink t _ e he
  obtain ⟨chunk, _, t', ht⟩ := F.exists_write_error he
  exact h sink _ t' e ht

/-! ## How often a sink has been closed -/

/-- A new sink has not been closed. -/
lemma closings_create {name : Text} {originating : Value} {s t : Recorded σ} {sink : SinkId}
    (h : F.recorded.create name originating s = (.ok sink, t)) : (t.records sink).closings = 0 := by
  dsimp only [recorded] at h
  split at h
  · simp at h
  · simp only [Prod.mk.injEq, Except.ok.injEq] at h
    obtain ⟨rfl, rfl⟩ := h
    simp

/-- Writing a chunk closes no sink. -/
lemma closings_write (sink id : SinkId) (chunk : RawText) (s : Recorded σ) :
    ((F.recorded.write sink chunk s).2.records id).closings = (s.records id).closings := by
  dsimp only [recorded]
  rcases F.write sink chunk s.state with ⟨e | _, t⟩
  · rfl
  · by_cases h : id = sink
    · subst h
      simp [Recorded.keep]
    · simp [Recorded.keep, Function.update_of_ne h]

/-- Writing chunks closes no sink. -/
lemma closings_writeAll (sink id : SinkId) (chunks : List Text) (s : Recorded σ) :
    ((F.recorded.writeAll sink chunks s).2.records id).closings = (s.records id).closings := by
  induction chunks generalizing s with
  | nil => rfl
  | cons chunk chunks ih =>
    have hwrite := F.closings_write sink id (.ofText chunk) s
    rw [writeAll]
    generalize F.recorded.write sink (.ofText chunk) s = r at hwrite ⊢
    obtain ⟨e | _, t⟩ := r
    · exact hwrite
    · exact (ih t).trans hwrite

/-- Closing a sink counts, whether or not it goes well. -/
lemma closings_close (sink : SinkId) (s : Recorded σ) :
    ((F.recorded.close sink s).2.records sink).closings = (s.records sink).closings + 1 := by
  simp [recorded, Recorded.close]

/-- Closing a sink because of a failure counts. -/
lemma closings_closeAfter {α : Type} (sink : SinkId) (failure : Failure) (s : Recorded σ) :
    ((F.recorded.closeAfter (α := α) sink failure s).2.records sink).closings =
      (s.records sink).closings + 1 := by
  rw [← closings_close, closeAfter]
  rcases F.recorded.close sink s with ⟨e | _, t⟩ <;> rfl

/-- An open sink has not been closed. -/
lemma closings_openSink {n : QualifiedName} {originating : Value} {s t : Recorded σ} {sink : SinkId}
    (h : F.recorded.openSink n originating s = (.ok sink, t)) : (t.records sink).closings = 0 := by
  obtain ⟨s₁, hcreate, hwrite⟩ := openSink_eq_ok h
  calc (t.records sink).closings
      = ((F.recorded.writeAll sink (openingChunks n) s₁).2.records sink).closings := by rw [hwrite]
    _ = (s₁.records sink).closings := F.closings_writeAll sink sink _ s₁
    _ = 0 := F.closings_create hcreate

/-- A sink that was created but cannot be opened has been closed once.

**Proof sketch.** The sink is new, and only a write can have failed. It failed because of the
operating system, and in that case the sink is closed. -/
lemma closings_openSink_error {n : QualifiedName} {originating : Value} {s t : Recorded σ} {s₁ : σ}
    {sink : SinkId} {e : Failure}
    (hcreate : F.create n.toText originating s.state = (.ok sink, s₁))
    (hclean : ∀ e, (F.writeAll sink (openingChunks n) s₁).1 = .error e → ∃ o, e = .os o)
    (h : F.recorded.openSink n originating s = (.error e, t)) : (t.records sink).closings = 1 := by
  have hrecorded : F.recorded.create n.toText originating s =
      (.ok sink, ⟨s₁, Function.update s.records sink {}⟩) := by
    simp [recorded, hcreate]
  have hnew := F.closings_create hrecorded
  rw [openSink, hrecorded] at h
  dsimp only at h
  set s₂ : Recorded σ := ⟨s₁, Function.update s.records sink {}⟩ with hs₂
  have hkept := F.closings_writeAll sink sink (openingChunks n) s₂
  have hforget : _ = F.writeAll sink (openingChunks n) s₁ :=
    F.writeAll_recorded s₂ sink (openingChunks n)
  generalize F.recorded.writeAll sink (openingChunks n) s₂ = r at h hkept hforget
  obtain ⟨e' | _, t'⟩ := r
  · obtain ⟨o, rfl⟩ : ∃ o, e' = .os o := by
      apply hclean
      rw [← hforget]
      rfl
    have hclose := F.closings_closeAfter (α := SinkId) sink
      (.generation (.cannotWritePreamble n.toText o)) t'
    dsimp only at h
    rw [h, hkept, hnew] at hclose
    exact hclose
  · simp at h

end Filer

namespace GeneratedUnit

variable {σ : Type} {F : Filer σ} {u : GeneratedUnit} {s t : Recorded σ}

/-- The sink of a unit that cannot be opened has been closed once. -/
theorem closings_begin_error {p : UnitPlan} {s₁ : σ} {sink : SinkId} {e : Failure}
    (hclean : F.OpensCleanly p s.state)
    (hcreate : F.create p.name.toText p.originating s.state = (.ok sink, s₁))
    (h : begin F.recorded p s = (.error e, t)) : (t.records sink).closings = 1 := by
  rw [begin] at h
  generalize hopen : F.recorded.openSink p.name p.originating s = r at h
  obtain ⟨e' | id, s₂⟩ := r
  · simp only [Prod.mk.injEq, Except.error.injEq] at h
    obtain ⟨rfl, rfl⟩ := h
    exact F.closings_openSink_error hcreate (hclean sink s₁ hcreate) hopen
  · have hid : id = sink := by
      obtain ⟨s₃, hrecorded, -⟩ := Filer.openSink_eq_ok hopen
      have hforget := F.create_recorded s p.name.toText p.originating
      rw [hrecorded, hcreate] at hforget
      exact Except.ok.inj (congrArg Prod.fst hforget)
    subst hid
    dsimp only at h
    split at h
    next e' _ =>
      have hclose := F.closings_closeAfter (α := GeneratedUnit) id e' s₂
      rw [h, F.closings_openSink hopen] at hclose
      exact hclose
    next => simp at h

/-- **The invariant**: the sink of a unit has been closed once if the unit has been closed, and not
otherwise. -/
def ReleasedOnce (u : GeneratedUnit) (s : Recorded σ) : Prop :=
  (s.records u.sink).closings = if u.closed then 1 else 0

/-- Closing the sink of a unit counts, whatever was to be reported. -/
lemma closings_release (F : Filer σ) (u : GeneratedUnit) (outcome : Except Failure Unit)
    (s : Recorded σ) :
    ((u.release F.recorded outcome s).2.records u.sink).closings =
      (s.records u.sink).closings + 1 := by
  rw [← F.closings_close, release]
  rcases F.recorded.close u.sink s with ⟨e | _, t⟩
  · cases e <;> rfl
  · rfl

/-- Writing the imports and the body closes no sink. -/
lemma closings_writeRest (F : Filer σ) (u : GeneratedUnit) (s : Recorded σ) :
    ((u.writeRest F.recorded s).2.records u.sink).closings = (s.records u.sink).closings := by
  have hwrite := F.closings_writeAll u.sink u.sink (importChunks u.imports) s
  rw [writeRest]
  generalize F.recorded.writeAll u.sink (importChunks u.imports) s = r at hwrite ⊢
  obtain ⟨e | _, t⟩ := r
  · exact hwrite
  · dsimp only
    cases u.formatter u.manuscript.main with
    | error e => exact hwrite
    | ok body => exact (F.closings_write u.sink u.sink body t).trans hwrite

/-- A unit that has been opened satisfies the invariant. -/
lemma releasedOnce_begin {p : UnitPlan} (h : begin F.recorded p s = (.ok u, t)) :
    u.ReleasedOnce t := by
  obtain ⟨hopen, -, -, hclosed, -⟩ := begin_eq_ok h
  rw [ReleasedOnce, F.closings_openSink hopen, hclosed]
  rfl

/-- **A call keeps the invariant.** -/
theorem ReleasedOnce.call (h : u.ReleasedOnce s) (c : UnitCall) :
    (u.call F.recorded s c).2.1.ReleasedOnce (u.call F.recorded s c).2.2 := by
  have heffect := effect_call F.recorded u s c
  generalize u.call F.recorded s c = r at heffect ⊢
  cases heffect with
  | drafted drafting =>
    obtain ⟨m, hm, -⟩ := u.draft_manuscript drafting
    dsimp only
    rw [hm]
    exact h
  | refused hclosed => exact h
  | ignored hclosed hc => exact h
  | finished hopen hc =>
    rw [ReleasedOnce, hopen] at h
    show ((u.sealed.writeOut F.recorded s).2.records u.sealed.sink).closings = 1
    rw [writeOut, closings_release, closings_writeRest]
    exact congrArg (· + 1) h
  | aborted hopen hc =>
    rw [ReleasedOnce, hopen] at h
    show ((u.sealed.release F.recorded c.outcome s).2.records u.sealed.sink).closings = 1
    rw [closings_release]
    exact congrArg (· + 1) h

/-- **Every sink is closed exactly once, and only at the end.** Let the sink of a unit fail in any
way once what the unit begins with has been written, and before that only because of the operating
system. If the unit cannot be opened, the sink that was created for it has been closed once. If it
can, then after every run of calls the sink has not been closed as long as the unit is open, and has
been closed once, together with the scope, when the unit is closed; no later call changes that.

**Proof sketch.** Opening is by cases (`closings_begin_error`). The rest is an invariant of runs
(`ReleasedOnce.call`); a closed unit stays closed. -/
theorem sink_released_once (F : Filer σ) (p : UnitPlan) (s : Recorded σ)
    (hclean : F.OpensCleanly p s.state) :
    (∀ e t sink s₁, begin F.recorded p s = (.error e, t) →
      F.create p.name.toText p.originating s.state = (.ok sink, s₁) →
      (t.records sink).closings = 1) ∧
    ∀ u t, begin F.recorded p s = (.ok u, t) →
      (∃ s₁, F.create p.name.toText p.originating s.state = (.ok u.sink, s₁)) ∧
      ∀ calls,
        let (v, t₁) := u.run F.recorded t calls
        (v.closed = false → (t₁.records u.sink).closings = 0) ∧
        (v.closed = true → (t₁.records u.sink).closings = 1 ∧ v.manuscript.scope.frozen = true ∧
          ∀ later,
            let (w, t₂) := v.run F.recorded t₁ later
            w.closed = true ∧ (t₂.records u.sink).closings = 1) := by
  refine ⟨fun e t sink s₁ h hcreate => closings_begin_error hclean hcreate h, ?_⟩
  intro u t h
  obtain ⟨hopen, -, -, hclosed, -⟩ := begin_eq_ok h
  refine ⟨?_, fun calls => ?_⟩
  · obtain ⟨s₁, hcreate, -⟩ := Filer.openSink_eq_ok hopen
    refine ⟨s₁.state, ?_⟩
    rw [← F.create_recorded, hcreate]
    rfl
  have hevolves := u.evolves_run F.recorded t calls
  have hinv : (u.run F.recorded t calls).1.ReleasedOnce (u.run F.recorded t calls).2 :=
    run_induction (P := fun v t => v.ReleasedOnce t) (releasedOnce_begin h)
      (fun _ _ hv c => hv.call c) calls
  generalize u.run F.recorded t calls = r at hevolves hinv ⊢
  obtain ⟨v, t₁⟩ := r
  rw [ReleasedOnce, hevolves.sink] at hinv
  refine ⟨fun hv => ?_, fun hv => ?_⟩
  · rw [hinv, hv]
    rfl
  · have hfrozen := hevolves.frozen hclosed hv
    have hone : (t₁.records u.sink).closings = 1 := by
      rw [hinv, hv]
      rfl
    refine ⟨hone, hfrozen, fun later => ?_⟩
    obtain ⟨parts, hparts⟩ := run_of_closed (F := F.recorded) (s := t₁) hv hfrozen later
    rw [hparts]
    exact ⟨hv, hone⟩

/-- A unit `com.Bar` whose body is always the same. -/
def fixedPlan : UnitPlan where
  name := ⟨[Text.lit "com"], [Text.lit "Bar"], by decide, by decide⟩
  formatter _ := .ok (.ofText (Text.lit "class Bar { }"))

/-- Neither can the body be written nor the sink be closed, and the unit is closed three times over:
still its sink was closed once. -/
theorem sink_released_once_failing :
    let F := scriptedFiler { failOn := some (Text.lit "class"), failClose := true }
    F.OpensCleanly fixedPlan {} ∧
      ∃ u t, begin F.recorded fixedPlan { state := {} } = (.ok u, t) ∧
        let (v, t₁) := u.run F.recorded t [.finish, .abort, .leave (.ok ())]
        v.closed = true ∧ (t₁.records u.sink).closings = 1 := by
  intro F
  have hclean : F.OpensCleanly fixedPlan {} := by
    apply F.opensCleanly_of_write
    intro sink chunk t e he
    dsimp only [F, scriptedFiler] at he
    split at he
    · exact ⟨_, (Except.error.inj he).symm⟩
    · simp at he
  refine ⟨hclean, _, _, rfl, rfl, ?_⟩
  exact (((sink_released_once F fixedPlan { state := {} } hclean).2 _ _ rfl).2
    [.finish, .abort, .leave (.ok ())]).2 rfl |>.1

end GeneratedUnit

end UnitForge
