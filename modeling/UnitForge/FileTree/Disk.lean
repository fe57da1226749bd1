import UnitForge.FileTree.Path
import UnitForge.Number.Digits
import UnitForge.Text.Quoted
import UnitForge.Text.Utf8

set_option autoImplicit false

/-!
# Files

A tree of directories, files and symbolic links, with a working directory, and the operations on
it. An operation that a real file system would refuse fails with the same reason.

## Main definitions

* `UnitForge.Entry`: a file, a link, or a directory with named entries.
* `UnitForge.Disk`: a tree and its working directory.
* `UnitForge.OsError`: why an operation is refused, with its wording.
* `UnitForge.Disk.makeDirectories`, `UnitForge.Disk.openFile`, `UnitForge.Disk.readFile`,
  `UnitForge.Disk.overwrite`: the operations.
-/

namespace UnitForge

/-- What a name in a directory stands for. -/
inductive Entry where
  /-- A file with its bytes. -/
  | file (content : List UInt8)
  /-- A symbolic link to a path. -/
  | link (target : Text)
  /-- A directory. -/
  | directory (entries : List (Text × Entry))

/-- The reasons for which a file system refuses an operation. -/
inductive OsFault where
  /-- There is nothing of that name. -/
  | notFound
  /-- The file may not be used in that way. -/
  | denied
  /-- There is something of that name. -/
  | exists
  /-- Something on the way is no directory. -/
  | notDirectory
  /-- The path leads to a directory. -/
  | isDirectory
  /-- A name has more than 255 bytes. -/
  | nameTooLong
  /-- There are too many links on the way. -/
  | tooManyLinks
  deriving DecidableEq, Repr

/-- The number and the text of a reason. -/
def OsFault.description : OsFault → Nat × String
  | .notFound => (2, "No such file or directory")
  | .denied => (13, "Permission denied")
  | .exists => (17, "File exists")
  | .notDirectory => (20, "Not a directory")
  | .isDirectory => (21, "Is a directory")
  | .nameTooLong => (36, "File name too long")
  | .tooManyLinks => (40, "Too many levels of symbolic links")

/-- Why an operation of the operating system failed. -/
inductive OsError where
  /-- It was refused for a path. -/
  | refused (fault : OsFault) (path : Text)
  /-- It failed for a reason of its own. -/
  | failed (reason : Text)
  deriving DecidableEq, Repr

/-- The wording of a failure. -/
def OsError.message : OsError → Text
  | .refused fault path =>
    Text.lit "[Errno " ++ Number.showNat fault.description.1 ++ Text.lit "] " ++
      Text.lit fault.description.2 ++ Text.lit ": " ++ Text.quoted path
  | .failed reason => reason

/-- Why an operation on a path fails: its text is no path, or the system refuses. -/
inductive FileError where
  /-- The text has a zero character in it. -/
  | zeroCharacter
  /-- The operation was refused. -/
  | os (error : OsError)
  deriving DecidableEq, Repr

/-- The wording of a failure. -/
def FileError.message : FileError → Text
  | .zeroCharacter => Text.lit "embedded null byte"
  | .os error => error.message

namespace Entry

/-- The entry of a given name in a directory. -/
def child? (e : Entry) (name : Text) : Option Entry :=
  match e with
  | .directory entries => (entries.find? (·.1 == name)).map (·.2)
  | _ => none

/-- The entry at the end of a sequence of names. -/
def get? (e : Entry) : List Text → Option Entry
  | [] => some e
  | name :: rest => (e.child? name).bind (·.get? rest)

/-- Entries with one put under a name: in the place of what was there, or at the end. -/
def putChild (name : Text) (child : Entry) : List (Text × Entry) → List (Text × Entry)
  | [] => [(name, child)]
  | (n, e) :: rest => if n = name then (n, child) :: rest else (n, e) :: putChild name child rest

/-- The entry with `leaf` at the end of a sequence of names, and directories on the way. -/
def put (leaf : Entry) : List Text → Entry → Entry
  | [], _ => leaf
  | name :: rest, e =>
    let entries := match e with
      | .directory entries => entries
      | _ => []
    let child := ((entries.find? (·.1 == name)).map (·.2)).getD (.directory [])
    .directory (putChild name (put leaf rest child) entries)

mutual

/-- The files below an entry with their bytes, where `path` leads to the entry. -/
def files (path : Text) : Entry → List (Text × List UInt8)
  | .file content => [(path, content)]
  | .link _ => []
  | .directory entries => filesOf path entries

/-- The files below named entries of the directory that `path` leads to. -/
def filesOf (path : Text) : List (Text × Entry) → List (Text × List UInt8)
  | [] => []
  | (name, e) :: rest =>
    e.files (if path.isEmpty then name else path ++ '/' :: name) ++ filesOf path rest

end

end Entry

/-- A tree of entries with a working directory in it. -/
structure Disk where
  /-- The top of the tree. -/
  root : Entry
  /-- The names that lead from there to the working directory. -/
  workingDirectory : List Text

/-- A place in a tree: the names that lead to it through directories, and what is there. -/
structure Place where
  /-- The names that lead to the place. -/
  names : List Text
  /-- The entry there; none if there is no such name. -/
  entry : Option Entry

namespace Disk

/-- The most bytes in a name. -/
def maxNameBytes : Nat := 255

/-- The most links on the way to a place. -/
def maxLinks : Nat := 40

/-- Walks from the directory at `names` along components. A link at the end is followed only if
`follow` says so; at most `links` links are followed. -/
def walk (root : Entry) (follow : Bool) (links : Nat) (names : List Text) (parts : List Text) :
    Except OsFault Place :=
  match parts with
  | [] => .ok ⟨names, root.get? names⟩
  | part :: rest =>
    if part = Text.lit ".." then walk root follow links names.dropLast rest
    else if maxNameBytes < (Text.encodeUtf8 part).length then .error .nameTooLong
    else
      match root.get? (names ++ [part]) with
      | none => if rest.isEmpty then .ok ⟨names ++ [part], none⟩ else .error .notFound
      | some (.file content) =>
        if rest.isEmpty then .ok ⟨names ++ [part], some (.file content)⟩ else .error .notDirectory
      | some (.directory _) => walk root follow links (names ++ [part]) rest
      | some (.link target) =>
        if rest.isEmpty && !follow then .ok ⟨names ++ [part], some (.link target)⟩
        else
          match links with
          | 0 => .error .tooManyLinks
          | links + 1 =>
            let path := Path.parse target
            walk root follow links (if path.isAbsolute then [] else names) (path.parts ++ rest)
  termination_by (links, parts.length)

/-- The place that a path leads to. -/
def resolve (d : Disk) (follow : Bool) (path : Path) : Except OsFault Place :=
  walk d.root follow maxLinks (if path.isAbsolute then [] else d.workingDirectory) path.parts

/-- What a path leads to, through links. -/
def find? (d : Disk) (path : Path) : Option Entry :=
  match d.resolve true path with
  | .ok place => place.entry
  | .error _ => none

/-- Whether a path leads to a directory. -/
def isDirectory (d : Disk) (path : Path) : Bool :=
  match d.find? path with
  | some (.directory _) => true
  | _ => false

/-- The tree with an entry put at a place. -/
def put (d : Disk) (names : List Text) (entry : Entry) : Disk :=
  { d with root := Entry.put entry names d.root }

/-- Makes one directory. -/
def makeDirectory (d : Disk) (path : Path) : Except OsFault Disk :=
  match d.resolve false path with
  | .error fault => .error fault
  | .ok ⟨names, none⟩ => .ok (d.put names (.directory []))
  | .ok ⟨_, some _⟩ => .error .exists

/-- Makes a directory unless it is there, and those above it, where `parts` are the components of
its path in reverse. The tree after it, and the path that was refused. -/
def makeAll (d : Disk) (anchor : Text) : List Text → Disk × Option (OsFault × Path)
  | [] =>
    let path : Path := ⟨anchor, []⟩
    match d.makeDirectory path with
    | .ok d => (d, none)
    | .error fault => (d, if d.isDirectory path then none else some (fault, path))
  | part :: above =>
    let path : Path := ⟨anchor, (part :: above).reverse⟩
    let settle (d : Disk) : Except OsFault Disk → Disk × Option (OsFault × Path)
      | .ok d => (d, none)
      | .error fault => (d, if d.isDirectory path then none else some (fault, path))
    match d.makeDirectory path with
    | .error .notFound =>
      match d.makeAll anchor above with
      | (d, some refusal) => (d, some refusal)
      | (d, none) => settle d (d.makeDirectory path)
    | result => settle d result

/-- Makes a directory unless it is there, and those above it. The directories above it stay even if
it is refused. -/
def makeDirectories (d : Disk) (path : Path) : Disk × Option FileError :=
  if path.toText.contains (Char.ofNat 0) then (d, some .zeroCharacter)
  else
    let (d, refusal) := d.makeAll path.anchor path.parts.reverse
    (d, refusal.map fun (fault, path) => .os (.refused fault path.toText))

/-- Empties a file, or makes an empty one: the tree after it, and the names that lead to it. -/
def openFile (d : Disk) (path : Path) : Except FileError (Disk × List Text) :=
  if path.toText.contains (Char.ofNat 0) then .error .zeroCharacter
  else
    match d.resolve true path with
    | .error fault => .error (.os (.refused fault path.toText))
    | .ok ⟨_, some (.directory _)⟩ => .error (.os (.refused .isDirectory path.toText))
    | .ok ⟨names, _⟩ => .ok (d.put names (.file []), names)

/-- The bytes of the file that a path, given as a text, leads to. -/
def readFile (d : Disk) (path : Text) : Except FileError (List UInt8) :=
  if path.contains (Char.ofNat 0) then .error .zeroCharacter
  else if path.isEmpty then .error (.os (.refused .notFound path))
  else
    match d.resolve true (Path.parse path) with
    | .error fault => .error (.os (.refused fault path))
    | .ok ⟨_, some (.file content)⟩ => .ok content
    | .ok ⟨_, some (.directory _)⟩ => .error (.os (.refused .isDirectory path))
    | .ok _ => .error (.os (.refused .notFound path))

/-- The tree with bytes written over the first ones of a file. -/
def overwrite (d : Disk) (names : List Text) (bytes : List UInt8) : Disk :=
  match d.root.get? names with
  | some (.file content) => d.put names (.file (bytes ++ content.drop bytes.length))
  | _ => d

/-- The files below the working directory, by path. -/
def files (d : Disk) : List (Text × List UInt8) :=
  ((d.root.get? d.workingDirectory).map (Entry.files [])).getD []

/-- A tree that holds an empty working directory and no more. -/
def empty : Disk := ⟨.directory [(Text.lit "work", .directory [])], [Text.lit "work"]⟩

/-- The tree with an entry at a path below the working directory. -/
def add (d : Disk) (path : Text) (entry : Entry) : Disk :=
  d.put (d.workingDirectory ++ (Path.parse path).parts) entry

end Disk

end UnitForge
