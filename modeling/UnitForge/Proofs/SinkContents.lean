import UnitForge.Output.Scripted
import UnitForge.Proofs.RecordedFiler

set_option autoImplicit false

/-!
# What a sink holds

The complete text of a unit is a list of chunks: what the unit begins with, its imports, and its
formatted body. At every point of the life of a unit the sink holds a prefix of this list: what the
unit begins with as long as it is open and when it is aborted, everything when it is finished, and
something in between when finishing fails.

## Main definitions

* `UnitForge.wholeUnit` — the chunks of a complete unit.
* `UnitForge.SinkView` — what the sinks of a filer hold, as read off its state.
* `UnitForge.Filer.KeepsChunks` — a filer that appends a chunk to a sink as a whole or not at all.
* `UnitForge.GeneratedUnit.HoldsPrefix` — the invariant of all runs.

## Main results

* `UnitForge.Filer.appended_writeAll`, `UnitForge.GeneratedUnit.appended_writeOut` — what is
  appended by writing chunks in order, and by writing out a unit.
* `UnitForge.GeneratedUnit.HoldsPrefix.call` — a call keeps the invariant.
* `UnitForge.GeneratedUnit.sink_prefix_of_whole` — what the sink of a unit holds throughout its
  life.
-/

namespace UnitForge

/-! ## The complete unit -/

/-- What a unit begins with: a remark, its package unless it has none, and an empty line. -/
def openingPart (n : QualifiedName) : List RawText :=
  List.map .ofText ([Text.lit "// Autogenerated code. Do not modify.\n"] ++
    (if n.package = [] then [] else [Text.lit "package " ++ n.packageName ++ Text.lit ";\n"]) ++
    [Text.lit "\n"])

/-- The imports of a unit: a line for each of them and an empty line, or nothing if there are
none. -/
def importPart (imports : List Text) : List RawText :=
  List.map .ofText (if imports = [] then []
    else imports.map (fun x => Text.lit "import " ++ x ++ Text.lit ";\n") ++ [Text.lit "\n"])

/-- The body of a unit: the formatted text, or nothing if the formatter fails. -/
def bodyPart (format : Formatter) (text : RawText) : List RawText :=
  match format text with
  | .ok body => [body]
  | .error _ => []

/-- The chunks of a complete unit. -/
def wholeUnit (n : QualifiedName) (format : Formatter) (imports : List Text) (text : RawText) :
    List RawText :=
  openingPart n ++ (importPart imports ++ bodyPart format text)

/-- The chunks that are written first are those that the complete unit begins with. -/
lemma openingChunks_eq (n : QualifiedName) : (openingChunks n).map .ofText = openingPart n := by
  have hline : Text.lit "\n" = ['\n'] := by decide
  unfold openingChunks openingPart
  rw [hline]
  by_cases h : n.package = []
  · rw [if_pos h, if_pos (List.isEmpty_iff.mpr h)]
    rfl
  · rw [if_neg h, if_neg fun he => h (List.isEmpty_iff.mp he)]
    rfl

/-- The chunks that are written for the imports are those of the complete unit. -/
lemma importChunks_eq (imports : List Text) :
    (importChunks imports).map .ofText = importPart imports := by
  have hline : Text.lit "\n" = ['\n'] := by decide
  unfold importChunks importPart
  rw [hline]
  by_cases h : imports = []
  · rw [if_pos h, if_pos (List.isEmpty_iff.mpr h)]
  · rw [if_neg h, if_neg fun he => h (List.isEmpty_iff.mp he)]

/-! ## Filers that keep whole chunks -/

/-- What the sinks of a filer hold, as read off its state. -/
structure SinkView (σ : Type) where
  /-- Whether there is such a sink. -/
  has : SinkId → σ → Prop
  /-- The chunks that a sink has kept. -/
  kept : SinkId → σ → List RawText

namespace SinkView

variable {σ : Type} {view : SinkView σ} {sink : SinkId} {s t t' : σ}
  {chunks more : List RawText}

/-- Between two states, chunks have been appended to a sink. -/
structure Appended (view : SinkView σ) (sink : SinkId) (chunks : List RawText) (s t : σ) :
    Prop where
  /-- The sink is still there. -/
  has : view.has sink t
  /-- It has kept the chunks after the earlier ones. -/
  kept : view.kept sink t = view.kept sink s ++ chunks

lemma Appended.refl (h : view.has sink s) : view.Appended sink [] s s :=
  ⟨h, (List.append_nil _).symm⟩

lemma Appended.trans (h : view.Appended sink chunks s t) (h' : view.Appended sink more t t') :
    view.Appended sink (chunks ++ more) s t' :=
  ⟨h'.has, by rw [h'.kept, h.kept, List.append_assoc]⟩

end SinkView

namespace Filer

variable {σ : Type} {F : Filer σ} {view : SinkView σ} {sink : SinkId} {s t : σ}

/-- A filer whose sinks append a chunk as a whole or, when a write fails, not at all, and lose none
when they are closed. -/
structure KeepsChunks (F : Filer σ) (view : SinkView σ) : Prop where
  /-- A new sink is empty. -/
  create : ∀ name originating s sink t, F.create name originating s = (.ok sink, t) →
    view.has sink t ∧ view.kept sink t = []
  /-- A write appends the chunk. -/
  write : ∀ sink chunk s t, view.has sink s → F.write sink chunk s = (.ok (), t) →
    view.Appended sink [chunk] s t
  /-- A write that fails appends nothing. -/
  refuse : ∀ sink chunk s e t, view.has sink s → F.write sink chunk s = (.error e, t) →
    view.Appended sink [] s t
  /-- Closing a sink changes nothing about what it has kept, whether or not it goes well. -/
  close : ∀ sink s, view.has sink s → view.kept sink (F.close sink s).2 = view.kept sink s

/-- **Writing chunks in order appends a prefix of them**, and all of them if no write fails.

**Proof sketch.** Induction on the chunks: the first write that fails is the last one. -/
theorem appended_writeAll (law : F.KeepsChunks view) (hs : view.has sink s) (chunks : List Text) :
    ∃ done, done <+: chunks.map .ofText ∧
      view.Appended sink done s (F.writeAll sink chunks s).2 ∧
      ((F.writeAll sink chunks s).1 = .ok () → done = chunks.map .ofText) := by
  induction chunks generalizing s with
  | nil => exact ⟨[], List.prefix_refl _, .refl hs, fun _ => rfl⟩
  | cons chunk chunks ih =>
    rw [writeAll]
    split
    next e t hwrite => exact ⟨[], List.nil_prefix, law.refuse sink _ s e t hs hwrite, by simp⟩
    next t hwrite =>
      have hfirst := law.write sink _ s t hs hwrite
      obtain ⟨done, hprefix, hdone, hall⟩ := ih hfirst.has
      refine ⟨.ofText chunk :: done, ?_, hfirst.trans hdone, fun hok => ?_⟩
      · exact (List.prefix_append_right_inj [.ofText chunk]).mpr hprefix
      · rw [hall hok, List.map_cons]

/-- An open sink holds what the unit begins with. -/
lemma kept_openSink (law : F.KeepsChunks view) {n : QualifiedName} {originating : Value}
    (h : F.openSink n originating s = (.ok sink, t)) :
    view.has sink t ∧ view.kept sink t = openingPart n := by
  obtain ⟨s₁, hcreate, hwrite⟩ := openSink_eq_ok h
  obtain ⟨hhas, hempty⟩ := law.create _ _ _ _ _ hcreate
  obtain ⟨done, -, hdone, hall⟩ := appended_writeAll law hhas (openingChunks n)
  rw [hwrite] at hdone hall
  refine ⟨hdone.has, ?_⟩
  rw [hdone.kept, hempty, hall rfl, List.nil_append, openingChunks_eq]

end Filer

/-- What the sinks of a recorded filer hold is in their records. -/
def SinkView.recorded (σ : Type) : SinkView (Recorded σ) where
  has _ _ := True
  kept sink s := (s.records sink).kept

/-- **Every filer keeps whole chunks** in the sense that a record is kept of the chunks whose writes
did not fail. -/
theorem Filer.keepsChunks_recorded {σ : Type} (F : Filer σ) :
    F.recorded.KeepsChunks (.recorded σ) where
  create name originating s sink t h := by
    dsimp only [recorded] at h
    split at h
    · simp at h
    · simp only [Prod.mk.injEq, Except.ok.injEq] at h
      obtain ⟨rfl, rfl⟩ := h
      simp [SinkView.recorded]
  write sink chunk s t _ h := by
    dsimp only [recorded] at h
    split at h
    · simp at h
    · obtain ⟨-, rfl⟩ := Prod.mk.inj h
      refine ⟨trivial, ?_⟩
      simp [SinkView.recorded, Recorded.keep]
  refuse sink chunk s e t _ h := by
    dsimp only [recorded] at h
    split at h
    · obtain ⟨-, rfl⟩ := Prod.mk.inj h
      exact ⟨trivial, (List.append_nil _).symm⟩
    · simp at h
  close sink s _ := by
    simp [SinkView.recorded, recorded, Recorded.close]

namespace UnitCall

/-- No call is to finish the unit and to abort it. -/
lemma not_finishes_of_aborts {c : UnitCall} (h : c.aborts = true) : c.finishes = false := by
  rcases c with _ | _ | _ | _ | _ <;> first | rfl | simp [aborts] at h

end UnitCall

namespace GeneratedUnit

variable {σ : Type} {F : Filer σ} {view : SinkView σ} {u : GeneratedUnit} {s t : σ} {c : UnitCall}

/-! ## Writing a unit out -/

/-- What is written when a unit is finished: its imports and its body. -/
def rest (u : GeneratedUnit) : List RawText :=
  importPart u.imports ++ bodyPart u.formatter u.manuscript.main

/-- The complete unit, as it would be if it were finished now. -/
def whole (u : GeneratedUnit) : List RawText := openingPart u.name ++ u.rest

/-- **Writing the imports and the body appends a prefix of them**, and all of it if it goes well.

**Proof sketch.** The imports are chunks written in order. If the formatter fails then there is no
body to be written, and otherwise it is written by one write. -/
theorem appended_writeRest (law : F.KeepsChunks view) (hs : view.has u.sink s) :
    ∃ done, done <+: u.rest ∧ view.Appended u.sink done s (u.writeRest F s).2 ∧
      ((u.writeRest F s).1 = .ok () → done = u.rest) := by
  obtain ⟨done, hprefix, hdone, hall⟩ := Filer.appended_writeAll law hs (importChunks u.imports)
  rw [writeRest]
  generalize F.writeAll u.sink (importChunks u.imports) s = r at hdone hall ⊢
  rw [importChunks_eq] at hprefix hall
  obtain ⟨e | _, t⟩ := r
  · exact ⟨done, hprefix.trans (List.prefix_append _ _), hdone, by simp⟩
  obtain rfl := hall rfl
  cases hformat : u.formatter u.manuscript.main with
  | error e => exact ⟨_, List.prefix_append _ _, hdone, by simp⟩
  | ok body =>
    have hrest : u.rest = importPart u.imports ++ [body] := by
      rw [rest, bodyPart, hformat]
    rw [hrest]
    dsimp only
    rcases hwrite : F.write u.sink body t with ⟨e | _, t'⟩
    · have hbody := hdone.trans (law.refuse u.sink body t e t' hdone.has hwrite)
      rw [List.append_nil] at hbody
      exact ⟨_, List.prefix_append _ _, hbody, by simp⟩
    · have hbody := hdone.trans (law.write u.sink body t t' hdone.has hwrite)
      exact ⟨_, List.prefix_refl _, hbody, fun _ => rfl⟩

/-- Closing the sink of a unit changes nothing about what it holds. -/
lemma kept_release (law : F.KeepsChunks view) (hs : view.has u.sink s)
    (outcome : Except Failure Unit) :
    view.kept u.sink (u.release F outcome s).2 = view.kept u.sink s := by
  have hclose := law.close u.sink s hs
  rw [release]
  generalize F.close u.sink s = r at hclose ⊢
  obtain ⟨e | _, t⟩ := r
  · cases e <;> exact hclose
  · exact hclose

/-- Closing a sink makes nothing good. -/
lemma outcome_of_release {outcome : Except Failure Unit}
    (h : (u.release F outcome s).1 = .ok ()) : outcome = .ok () := by
  rw [release] at h
  split at h
  · simp at h
  · simp at h
  · exact h

/-- **Writing out a unit appends a prefix of its imports and its body**, and all of it if it goes
well. -/
theorem appended_writeOut (law : F.KeepsChunks view) (hs : view.has u.sink s) :
    ∃ done, done <+: u.rest ∧
      view.kept u.sink (u.writeOut F s).2 = view.kept u.sink s ++ done ∧
      ((u.writeOut F s).1 = .ok () → done = u.rest) := by
  obtain ⟨done, hprefix, hdone, hall⟩ := appended_writeRest law hs
  refine ⟨done, hprefix, ?_, fun hok => hall ?_⟩
  · rw [writeOut, kept_release law hdone.has, hdone.kept]
  · have hwritten := outcome_of_release hok
    cases hr : (u.writeRest F s).1 with
    | error e =>
      rw [hr] at hwritten
      simp [Except.mapError] at hwritten
    | ok _ => rfl

/-! ## The invariant -/

/-- **The invariant**: the sink of an open unit holds what the unit begins with, and that of a
closed one a prefix of the complete unit. -/
structure HoldsPrefix (view : SinkView σ) (u : GeneratedUnit) (s : σ) : Prop where
  /-- The sink of an open unit is there. -/
  has : u.closed = false → view.has u.sink s
  /-- It holds what the unit begins with. -/
  opened : u.closed = false → view.kept u.sink s = openingPart u.name
  /-- A closed unit binds no further names. -/
  frozen : u.closed = true → u.manuscript.scope.frozen = true
  /-- Its sink holds a prefix of the complete unit. -/
  closed : u.closed = true → view.kept u.sink s <+: u.whole

/-- An open unit satisfies the invariant if its sink holds what the unit begins with. -/
lemma HoldsPrefix.of_open (hopen : u.closed = false) (has : view.has u.sink s)
    (hkept : view.kept u.sink s = openingPart u.name) : u.HoldsPrefix view s where
  has _ := has
  opened _ := hkept
  frozen hclosed := (false_of_open_of_closed hopen hclosed).elim
  closed hclosed := (false_of_open_of_closed hopen hclosed).elim

/-- A sealed unit satisfies the invariant if its sink holds a prefix of the complete unit. -/
lemma HoldsPrefix.of_sealed (h : view.kept u.sink s <+: u.whole) :
    u.sealed.HoldsPrefix view s where
  has hopen := (false_of_open_of_closed hopen rfl).elim
  opened hopen := (false_of_open_of_closed hopen rfl).elim
  frozen _ := rfl
  closed _ := h

/-- A unit that has been opened satisfies the invariant. -/
lemma holdsPrefix_begin (law : F.KeepsChunks view) {p : UnitPlan}
    (h : begin F p s = (.ok u, t)) : u.HoldsPrefix view t := by
  obtain ⟨hopen, hname, -, hclosed, -⟩ := begin_eq_ok h
  obtain ⟨hhas, hkept⟩ := Filer.kept_openSink law hopen
  refine .of_open hclosed hhas ?_
  rw [hkept, hname]

namespace HoldsPrefix

/-- Aborting an open unit leaves in its sink what the unit begins with. -/
lemma kept_of_aborts (law : F.KeepsChunks view) (h : u.HoldsPrefix view s)
    (hopen : u.closed = false) (hc : c.aborts = true) :
    view.kept u.sink (u.call F s c).2.2 = openingPart u.name := by
  have heffect := effect_call F u s c
  generalize u.call F s c = r at heffect ⊢
  cases heffect with
  | drafted drafting => simp [UnitCall.aborts] at hc
  | refused hclosed => exact h.opened hopen
  | ignored hclosed _ => exact h.opened hopen
  | finished _ hf =>
    rw [UnitCall.not_finishes_of_aborts hc] at hf
    simp at hf
  | aborted _ _ => exact (kept_release law (h.has hopen) c.outcome).trans (h.opened hopen)

/-- A call that is to finish a unit leaves a prefix of the complete unit in its sink, and all of it
if the call goes well. -/
lemma kept_of_finishes (law : F.KeepsChunks view) (h : u.HoldsPrefix view s)
    (hc : c.finishes = true) :
    view.kept u.sink (u.call F s c).2.2 <+: u.whole ∧
      ((u.call F s c).1 = .ok () → view.kept u.sink (u.call F s c).2.2 = u.whole) := by
  have heffect := effect_call F u s c
  generalize u.call F s c = r at heffect ⊢
  have habort : c.aborts = true → False := by
    intro ha
    rw [UnitCall.not_finishes_of_aborts ha] at hc
    simp at hc
  cases heffect with
  | drafted drafting => simp [UnitCall.finishes] at hc
  | refused hclosed => exact ⟨h.closed hclosed, by simp⟩
  | ignored _ ha => exact (habort ha).elim
  | aborted _ ha => exact (habort ha).elim
  | finished hopen _ =>
    have hhas : view.has u.sealed.sink s := h.has hopen
    obtain ⟨done, hprefix, hdone, hall⟩ := appended_writeOut law hhas
    have hkept : view.kept u.sink (u.sealed.writeOut F s).2 = openingPart u.name ++ done :=
      hdone.trans (congrArg (· ++ done) (h.opened hopen))
    refine ⟨?_, fun hok => ?_⟩
    · show view.kept u.sink (u.sealed.writeOut F s).2 <+: u.whole
      rw [hkept]
      exact (List.prefix_append_right_inj _).mpr hprefix
    · show view.kept u.sink (u.sealed.writeOut F s).2 = u.whole
      rw [hkept, hall hok]
      rfl

/-- **A call keeps the invariant.** -/
theorem call (law : F.KeepsChunks view) (h : u.HoldsPrefix view s) (c : UnitCall) :
    (u.call F s c).2.1.HoldsPrefix view (u.call F s c).2.2 := by
  cases hclosed : u.closed with
  | true =>
    obtain ⟨parts, hparts⟩ := call_of_closed (F := F) (s := s) hclosed (h.frozen hclosed) c
    rw [hparts]
    exact ⟨h.has, h.opened, h.frozen, h.closed⟩
  | false =>
    have hfinish := h.kept_of_finishes (c := c) law
    have habort := h.kept_of_aborts (c := c) law hclosed
    have heffect := effect_call F u s c
    generalize u.call F s c = r at hfinish habort heffect ⊢
    cases heffect with
    | drafted drafting =>
      obtain ⟨m, hm, -⟩ := u.draft_manuscript drafting
      rw [hm]
      exact .of_open hclosed (h.has hclosed) (h.opened hclosed)
    | refused _ => exact h
    | ignored _ _ => exact h
    | finished _ hc => exact .of_sealed (hfinish hc).1
    | aborted _ hc =>
      refine .of_sealed ?_
      show view.kept u.sink (u.sealed.release F c.outcome s).2 <+: u.whole
      rw [habort hc]
      exact List.prefix_append _ _

end HoldsPrefix

/-- **The sink of a unit always holds a prefix of the one complete unit.** Let a filer append chunks
as a whole or not at all. After every run of calls on a unit the sink holds what the unit begins
with as long as the unit is open. If the next call aborts the unit, that is what it leaves. If it is
to finish the unit, it leaves a prefix of the complete unit, made of the imports and the text of
that moment, and all of it if the call does not fail. Either of them closes the unit, and no later
call changes what the sink holds.

**Proof sketch.** The invariant holds when the unit is opened and is kept by every call
(`HoldsPrefix.call`). What the next call leaves is said by `HoldsPrefix.kept_of_aborts` and
`HoldsPrefix.kept_of_finishes`, and `run_of_closed` says that nothing happens afterwards. -/
theorem sink_prefix_of_whole (law : F.KeepsChunks view) {p : UnitPlan}
    (hbegin : begin F p s = (.ok u, t)) (calls : List UnitCall) :
    let (v, t₁) := u.run F t calls
    let complete := wholeUnit p.name p.formatter v.manuscript.scope.imports v.manuscript.main
    (v.closed = false → view.kept u.sink t₁ = openingPart p.name) ∧
    ∀ c,
      let (r, w, t₂) := v.call F t₁ c
      (v.closed = false → c.aborts = true → view.kept u.sink t₂ = openingPart p.name) ∧
      (c.finishes = true → view.kept u.sink t₂ <+: complete ∧
        (r = .ok () → view.kept u.sink t₂ = complete)) ∧
      (c.finishes = true ∨ c.aborts = true → w.closed = true ∧
        ∀ later, view.kept u.sink (w.run F t₂ later).2 = view.kept u.sink t₂) := by
  obtain ⟨-, hname, hformatter, -, -⟩ := begin_eq_ok hbegin
  have hevolves := u.evolves_run F t calls
  have hinv : (u.run F t calls).1.HoldsPrefix view (u.run F t calls).2 :=
    run_induction (P := fun v t => v.HoldsPrefix view t) (holdsPrefix_begin law hbegin)
      (fun _ _ hv c => hv.call law c) calls
  generalize u.run F t calls = r at hevolves hinv ⊢
  obtain ⟨v, t₁⟩ := r
  have hsink : v.sink = u.sink := hevolves.sink
  have hopening : openingPart v.name = openingPart p.name := by
    rw [hevolves.name, hname]
  have hwhole : v.whole =
      wholeUnit p.name p.formatter v.manuscript.scope.imports v.manuscript.main := by
    rw [whole, rest, hevolves.name, hname, hevolves.formatter, hformatter]
    rfl
  rw [← hsink, ← hopening]
  dsimp only
  rw [← hwhole]
  refine ⟨hinv.opened, fun c => ⟨?_, hinv.kept_of_finishes law, fun hc => ?_⟩⟩
  · intro hopen hc
    exact hinv.kept_of_aborts law hopen hc
  · have hclosed : (v.call F t₁ c).2.1.closed = true := closed_call hc
    refine ⟨hclosed, fun later => ?_⟩
    obtain ⟨parts, hparts⟩ := run_of_closed (F := F) (s := (v.call F t₁ c).2.2) hclosed
      ((hinv.call law c).frozen hclosed) later
    rw [hparts]

/-- A unit `com.Foo` whose body is left as it was drafted. -/
def plainPlan : UnitPlan where
  name := ⟨[Text.lit "com"], [Text.lit "Foo"], by decide, by decide⟩
  formatter := .ok

/-- A draft that refers to one type of another package. -/
def setCalls : List UnitCall :=
  [.draft (.append .main (.add (Text.lit "class Foo { %s s; }")
    [.type ⟨[Text.lit "java", Text.lit "util"], [Text.lit "Set"], by decide, by decide⟩]))]

/-- If the body cannot be written, then the sink is left with everything before it. -/
theorem sink_prefix_of_whole_set :
    let F := (scriptedFiler { failOn := some (Text.lit "class") }).recorded
    F.KeepsChunks (.recorded ScriptedStore) ∧
      ∃ u t, begin F plainPlan { state := {} } = (.ok u, t) ∧
        let (v, t₁) := u.run F t setCalls
        let (r, _, t₂) := v.call F t₁ .finish
        r.isOk = false ∧
        (t₂.records u.sink).kept = openingPart plainPlan.name ++
          [.ofText (Text.lit "import java.util.Set;\n"), .ofText (Text.lit "\n")] ∧
        (t₂.records u.sink).kept <+: wholeUnit plainPlan.name plainPlan.formatter
          v.manuscript.scope.imports v.manuscript.main := by
  intro F
  have law : F.KeepsChunks (.recorded ScriptedStore) := Filer.keepsChunks_recorded _
  have hbegin : begin F plainPlan { state := {} } = (.ok _, _) := rfl
  refine ⟨law, _, _, hbegin, by decide +kernel, by decide +kernel, ?_⟩
  exact (((sink_prefix_of_whole law hbegin setCalls).2 .finish).2.1 rfl).1

end GeneratedUnit

end UnitForge
