import UnitForge.FileTree.Disk
import UnitForge.Keyed
import UnitForge.Notice
import UnitForge.Scan.Glob

set_option autoImplicit false

/-!
# Finding source files

The source files below some roots. In each directory the files come first and then its
subdirectories, each in ascending order of names. Hidden and ignored names are passed over, and
links to directories are not followed.

## Main definitions

* `UnitForge.Scan.SourceFile`: a file that was found.
* `UnitForge.Scan.ScanPlan`: what to look for and where.
* `UnitForge.Scan.discover`: the files found, with what is reported.
* `UnitForge.Entry.sorted`: a tree in which every directory lists its entries in ascending order.
-/

namespace UnitForge

namespace Entry

/-- The order of named entries by their names. -/
def nameLe (a b : Text × Entry) : Bool := Text.le a.1 b.1

mutual

/-- The tree in which every directory lists its entries in ascending order. -/
def sorted : Entry → Entry
  | .file content => .file content
  | .link target => .link target
  | .directory entries => .directory ((sortedAll entries).mergeSort nameLe)

/-- Named entries in which every directory lists its entries in ascending order. -/
def sortedAll : List (Text × Entry) → List (Text × Entry)
  | [] => []
  | (name, e) :: rest => (name, e.sorted) :: sortedAll rest

end

end Entry

namespace Scan

/-- A source file below a root. -/
structure SourceFile where
  /-- The path from the root. -/
  path : Text
  /-- The root. -/
  root : Text
  /-- The language of the file. -/
  language : Text
  /-- The number of its bytes. -/
  size : Nat := 0
  deriving DecidableEq, Repr

/-- The names that are passed over in every scan. -/
def defaultIgnored : List Text :=
  [".git", "bin", "obj", "node_modules", ".idea", "__pycache__", ".mypy_cache", ".pytest_cache",
    ".tox", "dist", "build", ".eggs", "target", ".venv", "venv", ".gradle", "out"].map Text.lit

/-- Whether a name is passed over: it is hidden, or one of the patterns says so. -/
def isIgnored (patterns : List Text) (name : Text) : Bool :=
  patterns.contains name || name.head? = some '.' || patterns.any (globMatches · name)

/-- The languages by the extensions of their files. -/
def languages : Keyed Text := [(Text.lit ".java", Text.lit "java")]

/-- The language of files with an extension. -/
def languageOf (extension : Text) : Option Text := Keyed.get? languages extension

/-- A text with ASCII capitals made small. The extensions that are known hold no letter that is the
small form of any other character. -/
def lowerCase (text : Text) : Text := text.map Char.toLower

/-- The language of a file by its path. -/
def languageOfPath (path : Text) : Option Text := languageOf (lowerCase (Path.extension path))

/-- What to look for and where. -/
structure ScanPlan where
  /-- The roots, in order. -/
  roots : List Text := []
  /-- Patterns of names to pass over, beside the usual ones. -/
  excluded : List Text := []
  /-- The most bytes of a file. -/
  maxFileSize : Int := 1000000

/-- What to look for below one root. -/
structure Search where
  /-- The tree of files. -/
  disk : Disk
  /-- The root as it is written. -/
  root : Text
  /-- The names that lead to the root. -/
  place : List Text
  /-- Whether a name is passed over. -/
  ignored : Text → Bool
  /-- The most bytes of a file. -/
  maxFileSize : Int

/-- A file that passed by its name: found, or too large. -/
inductive Finding where
  /-- The file was found. -/
  | found (file : SourceFile)
  /-- The file at that path has too many bytes. -/
  | tooLarge (path : Text) (size : Nat)
  deriving DecidableEq, Repr

namespace Search

/-- What a named entry is, through links. -/
def target? (s : Search) (below : List Text) (name : Text) (e : Entry) : Option Entry :=
  match e with
  | .link _ =>
    match Disk.walk s.disk.root true Disk.maxLinks (s.place ++ below) [name] with
    | .ok place => place.entry
    | .error _ => none
  | e => some e

/-- Whether an entry is a directory, or a link to one. -/
def isDirectory (s : Search) (below : List Text) (name : Text) (e : Entry) : Bool :=
  match s.target? below name e with
  | some (.directory _) => true
  | _ => false

/-- The number of bytes of a file; zero if it cannot be told. -/
def size (s : Search) (below : List Text) (name : Text) (e : Entry) : Nat :=
  match s.target? below name e with
  | some (.file content) => content.length
  | _ => 0

/-- The finding that a named entry of the directory `below` the root is, if it is one. -/
def finding? (s : Search) (below : List Text) (name : Text) (e : Entry) : Option Finding :=
  if s.isDirectory below name e || s.ignored name then none
  else
    (languageOfPath name).map fun language =>
      let size := s.size below name e
      let path := Text.join ['/'] (below ++ [name])
      if s.maxFileSize < size then .tooLarge (Path.joinText s.root path) size
      else
        .found { path := Text.replaceChar '\\' ['/'] path, root := s.root, language, size }

/-- The findings among the files of a directory. -/
def filesHere (s : Search) (below : List Text) (entries : List (Text × Entry)) : List Finding :=
  entries.filterMap fun (name, e) => s.finding? below name e

mutual

/-- The findings in and below an entry, where `below` leads to it from the root. -/
def findings (s : Search) (below : List Text) : Entry → List Finding
  | .directory entries => s.filesHere below entries ++ s.findingsBelow below entries
  | _ => []

/-- The findings below those of some named entries that are not passed over. -/
def findingsBelow (s : Search) (below : List Text) : List (Text × Entry) → List Finding
  | [] => []
  | (name, e) :: rest =>
    (if s.ignored name then [] else s.findings (below ++ [name]) e) ++ s.findingsBelow below rest

end

end Search

/-- The findings below one root; none if it is not a directory. -/
def findingsUnder (d : Disk) (plan : ScanPlan) (root : Text) : Option (List Finding) :=
  let path := Path.parse root
  match d.resolve true path with
  | .ok ⟨place, some (.directory entries)⟩ =>
    let ignored := isIgnored (defaultIgnored ++ plan.excluded)
    let search : Search :=
      { disk := d, root := path.toText, place, ignored, maxFileSize := plan.maxFileSize }
    some (search.findings [] (Entry.directory entries).sorted)
  | _ => none

/-- The file of a finding. -/
def Finding.file? : Finding → Option SourceFile
  | .found file => some file
  | .tooLarge .. => none

/-- What a finding reports. -/
def Finding.notice? : Finding → Option Notice
  | .found _ => none
  | .tooLarge path size => some (.fileTooLarge path size)

/-- The files below the roots of a plan, in order. -/
def discover (d : Disk) (plan : ScanPlan) : List SourceFile :=
  plan.roots.flatMap fun root =>
    ((findingsUnder d plan root).getD []).filterMap Finding.file?

/-- What the search for the files of a plan reports. -/
def discoverNotices (d : Disk) (plan : ScanPlan) : List Notice :=
  plan.roots.flatMap fun root =>
    match findingsUnder d plan root with
    | none => [.rootSkipped root]
    | some findings => findings.filterMap Finding.notice?

end Scan

end UnitForge
