import UnitForge.Output.Filer

set_option autoImplicit false

/-!
# Units in memory

A filer that keeps the texts of units under their names. Its sinks keep any raw text.

## Main definitions

* `UnitForge.MemoryStore`: the texts kept.
* `UnitForge.memoryFiler`: the filer.
-/

namespace UnitForge

/-- A sink in memory. -/
structure MemorySink where
  /-- What has been written so far. -/
  text : RawText := []
  /-- Whether the sink has been closed. -/
  closed : Bool := false
  deriving DecidableEq, Repr

/-- The units kept in memory, by name. -/
structure MemoryStore where
  /-- The sinks in order of creation. -/
  sinks : Keyed MemorySink := []
  /-- On whose behalf each unit was created. -/
  originating : Keyed Value := []

namespace MemoryStore

/-- The sink with the given number. -/
def sink? (s : MemoryStore) (id : SinkId) : Option MemorySink := (s.sinks[id]?).map (·.2)

/-- The store with one of its sinks changed. -/
def modifySink (s : MemoryStore) (id : SinkId) (f : MemorySink → MemorySink) : MemoryStore :=
  { s with sinks := s.sinks.modify id fun (name, sink) => (name, f sink) }

/-- Creates a sink for the unit of that name. -/
def create (name : Text) (originating : Value) (s : MemoryStore) :
    Except Failure SinkId × MemoryStore :=
  if Keyed.has s.sinks name then (.error (.refused (.duplicate name)), s)
  else
    match checkTarget name with
    | .error e => (.error (.refused e), s)
    | .ok _ =>
      (.ok s.sinks.length,
        { sinks := s.sinks ++ [(name, {})], originating := s.originating ++ [(name, originating)] })

/-- Writes a chunk to a sink. -/
def write (id : SinkId) (chunk : RawText) (s : MemoryStore) : Except Failure Unit × MemoryStore :=
  match s.sink? id with
  | none => (.error (.sinkClosed false), s)
  | some sink =>
    if sink.closed then (.error (.sinkClosed false), s)
    else (.ok (), s.modifySink id fun sink => { sink with text := sink.text ++ chunk })

/-- Closes a sink; its text is kept. -/
def close (id : SinkId) (s : MemoryStore) : Except Failure Unit × MemoryStore :=
  (.ok (), s.modifySink id fun sink => { sink with closed := true })

/-- The texts of the units by name. -/
def sources (s : MemoryStore) : Keyed RawText := s.sinks.map fun (name, sink) => (name, sink.text)

end MemoryStore

/-- The filer that keeps units in memory. -/
def memoryFiler : Filer MemoryStore where
  create := MemoryStore.create
  write := MemoryStore.write
  close := MemoryStore.close

end UnitForge
