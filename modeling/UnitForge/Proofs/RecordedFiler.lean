import Mathlib.Logic.Function.Basic
import UnitForge.Proofs.UnitRuns

set_option autoImplicit false

/-!
# Filers with a record of their sinks

How often a sink has been closed, and which chunks have been written to it, cannot be read off the
state of an arbitrary filer. `Filer.recorded` keeps a record of both beside that state. Recording
changes nothing: a unit on the recorded filer does what it does on the filer itself.

## Main definitions

* `UnitForge.SinkRecord`, `UnitForge.Recorded` — what has become of a sink, and a state with a
  record of every sink.
* `UnitForge.Filer.recorded` — the filer that keeps records.

## Main results

* `UnitForge.Filer.begin_recorded`, `UnitForge.Filer.call_recorded`,
  `UnitForge.Filer.run_recorded` — recording changes nothing.
-/

namespace UnitForge

/-- What has become of a sink since it was created. -/
structure SinkRecord where
  /-- The chunks written to it, by writes that did not fail. -/
  kept : List RawText := []
  /-- How often it was asked to close. -/
  closings : Nat := 0
  deriving DecidableEq

/-- The state of a filer with a record of every sink. -/
structure Recorded (σ : Type) where
  /-- The state. -/
  state : σ
  /-- The records. -/
  records : SinkId → SinkRecord := fun _ => {}

namespace Recorded

variable {σ : Type}

/-- The records with a further chunk in that of one sink. -/
def keep (records : SinkId → SinkRecord) (sink : SinkId) (chunk : RawText) :
    SinkId → SinkRecord :=
  Function.update records sink
    { records sink with kept := (records sink).kept ++ [chunk] }

/-- The records with a further closing in that of one sink. -/
def close (records : SinkId → SinkRecord) (sink : SinkId) : SinkId → SinkRecord :=
  Function.update records sink
    { records sink with closings := (records sink).closings + 1 }

end Recorded

namespace Filer

variable {σ : Type}

/-- The filer that keeps a record of every sink. The record of a sink starts when it is created. -/
def recorded (F : Filer σ) : Filer (Recorded σ) where
  create name originating s :=
    match F.create name originating s.state with
    | (.error e, t) => (.error e, { s with state := t })
    | (.ok sink, t) => (.ok sink, ⟨t, Function.update s.records sink {}⟩)
  write sink chunk s :=
    match F.write sink chunk s.state with
    | (.error e, t) => (.error e, { s with state := t })
    | (.ok (), t) => (.ok (), ⟨t, Recorded.keep s.records sink chunk⟩)
  close sink s :=
    ((F.close sink s.state).1, ⟨(F.close sink s.state).2, Recorded.close s.records sink⟩)
  created name s := F.created name s.state

variable (F : Filer σ) (s : Recorded σ)

/-! ## Forgetting the records

Each statement says that an operation on the recorded filer, once the records are forgotten, is the
same operation on the filer itself. -/

lemma create_recorded (name : Text) (originating : Value) :
    (F.recorded.create name originating s).map id Recorded.state =
      F.create name originating s.state := by
  dsimp only [recorded]
  rcases F.create name originating s.state with ⟨e | sink, t⟩ <;> rfl

lemma write_recorded (sink : SinkId) (chunk : RawText) :
    (F.recorded.write sink chunk s).map id Recorded.state = F.write sink chunk s.state := by
  dsimp only [recorded]
  rcases F.write sink chunk s.state with ⟨e | _, t⟩ <;> rfl

lemma close_recorded (sink : SinkId) :
    (F.recorded.close sink s).map id Recorded.state = F.close sink s.state := rfl

lemma writeAll_recorded (sink : SinkId) (chunks : List Text) :
    (F.recorded.writeAll sink chunks s).map id Recorded.state =
      F.writeAll sink chunks s.state := by
  induction chunks generalizing s with
  | nil => rfl
  | cons chunk chunks ih =>
    rw [writeAll, writeAll, ← write_recorded]
    rcases F.recorded.write sink (.ofText chunk) s with ⟨e | _, t⟩
    · rfl
    · exact ih t

lemma closeAfter_recorded {α : Type} (sink : SinkId) (failure : Failure) :
    (F.recorded.closeAfter (α := α) sink failure s).map id Recorded.state =
      F.closeAfter sink failure s.state := by
  rw [closeAfter, closeAfter, ← close_recorded]
  rcases F.recorded.close sink s with ⟨e | _, t⟩ <;> rfl

lemma openSink_recorded (n : QualifiedName) (originating : Value) :
    (F.recorded.openSink n originating s).map id Recorded.state =
      F.openSink n originating s.state := by
  rw [openSink, openSink, ← create_recorded]
  rcases F.recorded.create n.toText originating s with ⟨e | sink, t⟩
  · cases e <;> rfl
  · dsimp only [Prod.map, id]
    rw [← writeAll_recorded]
    rcases F.recorded.writeAll sink (openingChunks n) t with ⟨e | _, t'⟩
    · cases e <;> first | exact F.closeAfter_recorded t' sink _ | rfl
    · rfl

/-- Opening a unit on the recorded filer is opening it on the filer itself. -/
theorem begin_recorded (p : UnitPlan) :
    (GeneratedUnit.begin F.recorded p s).map id Recorded.state =
      GeneratedUnit.begin F p s.state := by
  rw [GeneratedUnit.begin, GeneratedUnit.begin, ← openSink_recorded]
  rcases F.recorded.openSink p.name p.originating s with ⟨e | sink, t⟩
  · rfl
  · dsimp only [Prod.map, id]
    rcases p.seededScope with e | scope
    · exact F.closeAfter_recorded t sink e
    · rfl

variable (u : GeneratedUnit)

lemma release_recorded (outcome : Except Failure Unit) :
    (u.release F.recorded outcome s).map id Recorded.state = u.release F outcome s.state := by
  rw [GeneratedUnit.release, GeneratedUnit.release, ← close_recorded]
  rcases F.recorded.close u.sink s with ⟨e | _, t⟩
  · cases e <;> rfl
  · rfl

lemma writeRest_recorded :
    (u.writeRest F.recorded s).map id Recorded.state = u.writeRest F s.state := by
  rw [GeneratedUnit.writeRest, GeneratedUnit.writeRest, ← writeAll_recorded]
  rcases F.recorded.writeAll u.sink (importChunks u.imports) s with ⟨e | _, t⟩
  · rfl
  · dsimp only [Prod.map, id]
    rcases u.formatter u.manuscript.main with e | body
    · rfl
    · exact F.write_recorded t u.sink body

lemma writeOut_recorded :
    (u.writeOut F.recorded s).map id Recorded.state = u.writeOut F s.state := by
  rw [GeneratedUnit.writeOut, GeneratedUnit.writeOut, release_recorded, ← writeRest_recorded]
  rfl

lemma finish_recorded :
    (u.finish F.recorded s).map id (.map id Recorded.state) = u.finish F s.state := by
  cases hclosed : u.closed with
  | true =>
    rw [GeneratedUnit.finish, GeneratedUnit.finish, if_pos hclosed, if_pos hclosed]
    rfl
  | false =>
    rw [GeneratedUnit.finish_of_open hclosed, GeneratedUnit.finish_of_open hclosed,
      ← writeOut_recorded]
    rfl

lemma abort_recorded :
    (u.abort F.recorded s).map id (.map id Recorded.state) = u.abort F s.state := by
  cases hclosed : u.closed with
  | true =>
    rw [GeneratedUnit.abort, GeneratedUnit.abort, if_pos hclosed, if_pos hclosed]
    rfl
  | false =>
    rw [GeneratedUnit.abort_of_open hclosed, GeneratedUnit.abort_of_open hclosed,
      ← release_recorded]
    rfl

/-- A call on a unit on the recorded filer is the call on the filer itself. -/
theorem call_recorded (c : UnitCall) :
    (u.call F.recorded s c).map id (.map id Recorded.state) = u.call F s.state c := by
  rcases c with drafting | _ | _ | e | _
  · rfl
  · exact F.finish_recorded s u
  · exact F.abort_recorded s u
  · rw [GeneratedUnit.call, GeneratedUnit.call, GeneratedUnit.within, GeneratedUnit.within,
      ← abort_recorded]
    rcases u.abort F.recorded s with ⟨e' | _, v, t⟩ <;> rfl
  · exact F.finish_recorded s u

/-- **Recording changes nothing**: a run on the recorded filer is the run on the filer itself. -/
theorem run_recorded (calls : List UnitCall) :
    (u.run F.recorded s calls).map id Recorded.state = u.run F s.state calls := by
  induction calls generalizing u s with
  | nil => rfl
  | cons c calls ih =>
    rw [GeneratedUnit.run_cons, GeneratedUnit.run_cons, ih, ← call_recorded]
    rfl

end Filer

end UnitForge
