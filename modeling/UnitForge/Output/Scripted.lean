import UnitForge.Output.Filer

set_option autoImplicit false

/-!
# Filers that fail on demand

A filer whose failures are chosen beforehand. It accepts any name, and keeps what was written and
how often each sink was closed.

## Main definitions

* `UnitForge.FailurePlan`: which operations fail.
* `UnitForge.ScriptedStore`: the sinks created.
* `UnitForge.scriptedFiler`: the filer with a given plan.
-/

namespace UnitForge

/-- Which operations of a filer fail. -/
structure FailurePlan where
  /-- Every creation fails with this failure. -/
  creation : Option Failure := none
  /-- Every write of a chunk in which this text occurs fails. -/
  failOn : Option Text := none
  /-- Every closing fails. -/
  failClose : Bool := false

/-- A sink that keeps what was written. -/
structure ScriptedSink where
  /-- The name of its unit. -/
  name : Text
  /-- The text written. -/
  text : RawText := []
  /-- How often the sink was closed. -/
  closings : Nat := 0
  deriving DecidableEq, Repr

/-- The sinks created, in order. -/
structure ScriptedStore where
  /-- The sinks. -/
  sinks : List ScriptedSink := []
  deriving DecidableEq, Repr

/-- Whether `part` occurs in a raw text. -/
def RawText.occursIn (part : RawText) : RawText → Bool
  | [] => part.isEmpty
  | point :: rest => part.isPrefixOf (point :: rest) || occursIn part rest

/-- The filer whose operations fail as planned. -/
def scriptedFiler (plan : FailurePlan) : Filer ScriptedStore where
  create name _ s :=
    match plan.creation with
    | some failure => (.error failure, s)
    | none => (.ok s.sinks.length, ⟨s.sinks ++ [{ name }]⟩)
  write id chunk s :=
    if plan.failOn.any (fun part => RawText.occursIn (.ofText part) chunk) then
      (.error (.os (.failed (Text.lit "write failed"))), s)
    else (.ok (), ⟨s.sinks.modify id fun sink => { sink with text := sink.text ++ chunk }⟩)
  close id s :=
    let s : ScriptedStore :=
      ⟨s.sinks.modify id fun sink => { sink with closings := sink.closings + 1 }⟩
    (if plan.failClose then .error (.os (.failed (Text.lit "close failed"))) else .ok (), s)

end UnitForge
