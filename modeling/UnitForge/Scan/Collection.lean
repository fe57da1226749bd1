import UnitForge.Failure
import UnitForge.Java.Outline
import UnitForge.Scan.Discovery

set_option autoImplicit false

/-!
# Collecting declared types

The types declared in source files, put into a symbol table. A file that cannot be read or parsed
is passed over as a whole, and reported.

## Main definitions

* `UnitForge.Scan.Analyser`: how a file is parsed and its types are read off.
* `UnitForge.Scan.Reading`: what came of one file.
* `UnitForge.Scan.collect`: the symbol table of some files.
* `UnitForge.Scan.symbolTable`: the symbol table of the files of a plan.
-/

namespace UnitForge.Scan

/-- How a file is parsed and its types are read off. -/
structure Analyser where
  /-- Why there is no parser, if there is none. -/
  unavailable : Option Text := none
  /-- The syntax tree of some bytes, or why there is none. -/
  parse : List UInt8 → Except Text Java.Node
  /-- The types that a tree declares, in a file, or why they cannot be told. -/
  types : Text → Java.Node → Except Text (List TypeDeclaration)

/-- What came of one file. -/
inductive Reading where
  /-- The file is of no known language. -/
  | foreign
  /-- There is no parser. -/
  | unavailable (reason : Text)
  /-- The file could not be read. -/
  | unreadable (reason : Text)
  /-- The path of the file is none. -/
  | misplaced
  /-- The file could not be parsed. -/
  | unparsed (reason : Text)
  /-- The types of the file could not be told. -/
  | untold (reason : Text)
  /-- The file declares some types. -/
  | declares (types : List TypeDeclaration)
  deriving DecidableEq

/-- What comes of one file, where `read` gives the bytes of a file by its path. -/
def readFile (analyser : Analyser) (read : Text → Except FileError (List UInt8))
    (file : SourceFile) : Reading :=
  if (languageOfPath file.path).isNone then .foreign
  else
    match analyser.unavailable with
    | some reason => .unavailable reason
    | none =>
      match read (Path.joinText file.root file.path) with
      | .error .zeroCharacter => .misplaced
      | .error (.os e) => .unreadable e.message
      | .ok bytes =>
        match analyser.parse bytes with
        | .error reason => .unparsed reason
        | .ok root =>
          match analyser.types file.path root with
          | .error reason => .untold reason
          | .ok types => .declares types

/-- The types that a reading yields. -/
def Reading.types : Reading → List TypeDeclaration
  | .declares types => types
  | _ => []

/-- What a reading of the file at that path reports. -/
def Reading.notices (path : Text) : Reading → List Notice
  | .foreign | .misplaced => []
  | .unavailable reason => [.parserUnavailable (Text.lit "java") reason]
  | .unreadable reason => [.readFailed path reason]
  | .unparsed reason => [.parseFailed path reason]
  | .untold reason => [.extractFailed path reason]
  | .declares types => [.fileScanned path types.length]

/-- The table with the types that some files declare, in order. A path that is none ends it all. -/
def collect (analyser : Analyser) (read : Text → Except FileError (List UInt8))
    (table : SymbolTable) : List SourceFile → Except Failure SymbolTable
  | [] => .ok table
  | file :: files =>
    match readFile analyser read file with
    | .misplaced => .error .zeroCharacter
    | reading => collect analyser read (reading.types.foldl SymbolTable.add table) files

/-- What collecting the types of some files reports. -/
def collectNotices (analyser : Analyser) (read : Text → Except FileError (List UInt8)) :
    List SourceFile → List Notice
  | [] => []
  | file :: files =>
    match readFile analyser read file with
    | .misplaced => []
    | reading => reading.notices file.path ++ collectNotices analyser read files

/-- The two parts of a scan, with what is shown while each goes on. -/
def phases : List (Text × Text) :=
  [(Text.lit "structure", Text.lit "Finding source files"),
    (Text.lit "parsing", Text.lit "Collecting package types")]

/-- The symbol table of some files of a tree. -/
def tableOf (analyser : Analyser) (d : Disk) (files : List SourceFile) :
    Except Failure SymbolTable :=
  collect analyser d.readFile {} files

/-- What making the symbol table of some files of a tree reports. -/
def tableNotices (analyser : Analyser) (d : Disk) (files : List SourceFile) : List Notice :=
  collectNotices analyser d.readFile files

/-- The symbol table of the files of a plan. -/
def symbolTable (analyser : Analyser) (d : Disk) (plan : ScanPlan) : Except Failure SymbolTable :=
  tableOf analyser d (discover d plan)

/-- What a scan reports. -/
def symbolTableNotices (analyser : Analyser) (d : Disk) (plan : ScanPlan) : List Notice :=
  discoverNotices d plan ++ tableNotices analyser d (discover d plan)

end UnitForge.Scan
