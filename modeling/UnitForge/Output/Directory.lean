import UnitForge.Output.Filer

set_option autoImplicit false

/-!
# Units in a directory

A filer that writes each unit to a file of its own: below the output directory, in a directory for
each segment of the package, under the name of the type with an extension.

## Main definitions

* `UnitForge.FileSystem`: what an operating system does when a file is created.
* `UnitForge.DirectoryStore`: the files written and the tree that they are in.
* `UnitForge.DirectoryStore.pathFor`: the file of a type.
* `UnitForge.DirectoryStore.createOn`, `UnitForge.DirectoryStore.create`: creates a file, on any
  operating system and on the plain one.
* `UnitForge.directoryFiler`: the filer.

## Implementation notes

A file holds UTF-8, so that a sink takes a raw text as a whole or not at all: one with a surrogate
in it is refused, and nothing of it is written.

What is written to a sink reaches its file when the sink is closed. A file that was opened for
several sinks is emptied whenever it is opened, and each sink writes from the start of the file.
-/

namespace UnitForge

/-- An operating system: what it does when directories are made and when a file is opened. It may
fail at any point, and leave any disk behind. -/
structure FileSystem where
  /-- Makes a directory and those above it. -/
  makeDirectories : Disk → Path → Disk × Option FileError
  /-- Opens an empty file, to which names lead. -/
  openFile : Disk → Path → Disk × Except FileError (List Text)

/-- The operating system that does what the disk allows. -/
def FileSystem.plain : FileSystem where
  makeDirectories := Disk.makeDirectories
  openFile disk path :=
    match disk.openFile path with
    | .error e => (disk, .error e)
    | .ok (opened, names) => (opened, .ok names)

/-- A sink that writes a file. -/
structure FileSink where
  /-- The names that lead to the file. -/
  names : List Text
  /-- The text written so far. -/
  text : Text := []
  /-- Whether the sink has been closed. -/
  closed : Bool := false
  deriving DecidableEq, Repr

/-- The units written below a directory. -/
structure DirectoryStore where
  /-- The output directory. -/
  root : Path
  /-- What follows the name of a type in that of its file. -/
  extension : Text := Text.lit ".java"
  /-- The tree of files. -/
  disk : Disk
  /-- The files of the units created, by the name of the unit. -/
  created : Keyed Path := []
  /-- On whose behalf each unit was created. -/
  originating : Keyed Value := []
  /-- The sinks in order of creation. -/
  sinks : List FileSink := []

namespace DirectoryStore

/-- The file of a type. -/
def pathFor (s : DirectoryStore) (n : QualifiedName) : Path :=
  s.root.descend (n.package ++ [n.simpleName ++ s.extension])

/-- Creates a file for the unit of that name, and the directories above it, on an operating
system. -/
def createOn (os : FileSystem) (name : Text) (originating : Value) (s : DirectoryStore) :
    Except Failure SinkId × DirectoryStore :=
  if Keyed.has s.created name then (.error (.refused (.duplicate name)), s)
  else
    match checkTarget name with
    | .error e => (.error (.refused e), s)
    | .ok n =>
      let path := s.pathFor n
      match os.makeDirectories s.disk path.parent with
      | (disk, some e) => (.error (Failure.ofFile e), { s with disk })
      | (disk, none) =>
        match os.openFile disk path with
        | (disk, .error e) => (.error (Failure.ofFile e), { s with disk })
        | (disk, .ok names) =>
          (.ok s.sinks.length,
            { s with
              disk
              created := s.created ++ [(name, path)]
              originating := s.originating ++ [(name, originating)]
              sinks := s.sinks ++ [{ names }] })

/-- Creates a file for the unit of that name, and the directories above it, as the disk allows. -/
def create (name : Text) (originating : Value) (s : DirectoryStore) :
    Except Failure SinkId × DirectoryStore :=
  s.createOn .plain name originating

/-- The store with one of its sinks changed. -/
def modifySink (s : DirectoryStore) (id : SinkId) (f : FileSink → FileSink) : DirectoryStore :=
  { s with sinks := s.sinks.modify id f }

/-- Writes a chunk to a sink, unless it cannot be encoded. -/
def write (id : SinkId) (chunk : RawText) (s : DirectoryStore) :
    Except Failure Unit × DirectoryStore :=
  match s.sinks[id]? with
  | none => (.error (.sinkClosed true), s)
  | some sink =>
    if sink.closed then (.error (.sinkClosed true), s)
    else
      match chunk.toText with
      | .error e => (.error (.unencodable e), s)
      | .ok text => (.ok (), s.modifySink id fun sink => { sink with text := sink.text ++ text })

/-- Closes a sink, which puts its text into its file. -/
def close (id : SinkId) (s : DirectoryStore) : Except Failure Unit × DirectoryStore :=
  match s.sinks[id]? with
  | none => (.ok (), s)
  | some sink =>
    if sink.closed then (.ok (), s)
    else
      let disk := s.disk.overwrite sink.names (Text.encodeUtf8 sink.text)
      (.ok (), { s.modifySink id (fun sink => { sink with closed := true }) with disk })

/-- The store after all its sinks have been closed in order of creation. -/
def closeAll (s : DirectoryStore) : DirectoryStore :=
  (List.range s.sinks.length).foldl (fun s id => (s.close id).2) s

end DirectoryStore

/-- The filer that writes units below a directory. -/
def directoryFiler : Filer DirectoryStore where
  create := DirectoryStore.create
  write := DirectoryStore.write
  close := DirectoryStore.close
  created name s :=
    match Keyed.get? s.created name with
    | none => []
    | some path => [.fileOpened path.toText name]

end UnitForge
