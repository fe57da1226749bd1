import UnitForge.Java.Analyser
import UnitForge.Proofs.DeclaredOutlines
import UnitForge.Proofs.DeclaredTypes
import UnitForge.Proofs.PlacedFiles

set_option autoImplicit false

/-!
# Files that are passed over

While the types of some files are collected, a file may be of no known language, or it may be that
it cannot be read, that it cannot be parsed, or that its tree cannot be made out. Such a file is
passed over as a whole: the symbol table is that of the other files, with the types that their trees
declare in order, whatever the parser makes of the bytes of a file.

## Main definitions

* `UnitForge.Scan.javaAnalyser` — the analysis of files with some parser.
* `UnitForge.Scan.typesOf?` — the types that are collected from a file, if it is not passed over.
* `UnitForge.Scan.Yields` — the types that the tree of a file declares.

## Main results

* `UnitForge.Scan.typesOf?_eq_some_iff_yields` — which files are not passed over.
* `UnitForge.Scan.collect_eq` — the symbol table of some files.
* `UnitForge.Scan.bad_files_skipped` — files that are passed over leave no trace.
-/

namespace UnitForge.Scan

open SymbolTable

variable {parse : List UInt8 → Except Text Java.Node} {unavailable : Option Text}
  {analyser : Analyser} {file : SourceFile} {files : List SourceFile}
  {types : List TypeDeclaration}

/-- The analysis of files with some parser, unless there is a reason why there is none. -/
def javaAnalyser (parse : List UInt8 → Except Text Java.Node) (unavailable : Option Text) :
    Analyser :=
  { Java.analyser with parse, unavailable }

/-- Files read by their paths, where reading fails only if the system refuses it. -/
def reads (read : Text → Except OsError (List UInt8)) (path : Text) :
    Except FileError (List UInt8) :=
  (read path).mapError .os

/-- The types that are collected from a file, if it is not passed over. -/
def typesOf? (analyser : Analyser) (read : Text → Except FileError (List UInt8))
    (file : SourceFile) : Option (List TypeDeclaration) :=
  match readFile analyser read file with
  | .declares types => some types
  | _ => none

/-- The tree of a file declares some types. -/
structure Yields (parse : List UInt8 → Except Text Java.Node) (unavailable : Option Text)
    (read : Text → Except OsError (List UInt8)) (file : SourceFile)
    (types : List TypeDeclaration) : Prop where
  /-- The file is of a known language. -/
  language : (languageOfPath file.path).isSome
  /-- There is a parser. -/
  parser : unavailable = none
  /-- The file is read and parsed, and each node directly below the top of its tree that is a
  declaration of a named type declares one of the types. -/
  outline : ∃ bytes root package, read (Path.joinText file.root file.path) = .ok bytes ∧
    parse bytes = .ok root ∧ root.DeclaresPackage package ∧
    List.Forall₂ (Java.Node.Declares package file.path) root.typeNodes types

/-! ## Single files -/

/-- A file is misplaced only if the text of its path is no path. -/
lemma read_of_misplaced {read : Text → Except FileError (List UInt8)}
    (h : readFile analyser read file = .misplaced) :
    read (Path.joinText file.root file.path) = .error .zeroCharacter := by
  rw [readFile] at h
  split at h
  · cases h
  split at h
  · cases h
  split at h
  next hread => exact hread
  next => cases h
  next =>
    split at h
    · cases h
    · split at h <;> cases h

/-- When a file declares types: nothing stands in the way of reading, parsing and telling them. -/
lemma readFile_eq_declares {read : Text → Except FileError (List UInt8)} :
    readFile analyser read file = .declares types ↔
      (languageOfPath file.path).isSome ∧ analyser.unavailable = none ∧ ∃ bytes root,
        read (Path.joinText file.root file.path) = .ok bytes ∧ analyser.parse bytes = .ok root ∧
          analyser.types file.path root = .ok types := by
  rw [readFile]
  cases hlanguage : languageOfPath file.path with
  | none => simp
  | some language =>
    cases hparser : analyser.unavailable with
    | some reason => simp
    | none =>
      cases hread : read (Path.joinText file.root file.path) with
      | error e => cases e <;> simp
      | ok bytes =>
        cases hparse : analyser.parse bytes with
        | error reason => simp [hparse]
        | ok root =>
          cases htypes : analyser.types file.path root with
          | error reason => simp [hparse, htypes]
          | ok types' => simp [hparse, htypes]

lemma typesOf?_eq_some {read : Text → Except FileError (List UInt8)} :
    typesOf? analyser read file = some types ↔ readFile analyser read file = .declares types := by
  rw [typesOf?]
  split
  next types' hreading => rw [hreading, Option.some_inj, Reading.declares.injEq]
  next hother => exact iff_of_false nofun (hother types)

lemma mapError_eq_ok {ε ε' α : Type} {f : ε → ε'} {x : Except ε α} {a : α} :
    x.mapError f = .ok a ↔ x = .ok a := by
  cases x <;> simp [Except.mapError]

/-- **A file is not passed over** if and only if its tree declares types, which may be none. -/
theorem typesOf?_eq_some_iff_yields {read : Text → Except OsError (List UInt8)} :
    typesOf? (javaAnalyser parse unavailable) (reads read) file = some types ↔
      Yields parse unavailable read file types := by
  rw [typesOf?_eq_some, readFile_eq_declares]
  simp only [javaAnalyser, Java.analyser, reads, mapError_eq_ok, Java.Node.types_eq_ok_iff]
  constructor
  · rintro ⟨hlanguage, hparser, bytes, root, hread, hparse, package, hpackage, htypes⟩
    exact ⟨hlanguage, hparser, bytes, root, package, hread, hparse, hpackage, htypes⟩
  · rintro ⟨hlanguage, hparser, bytes, root, package, hread, hparse, hpackage, htypes⟩
    exact ⟨hlanguage, hparser, bytes, root, hread, hparse, package, hpackage, htypes⟩

/-- No file is misplaced where reading fails only if the system refuses it. -/
lemma readFile_reads_ne_misplaced (analyser : Analyser)
    (read : Text → Except OsError (List UInt8)) (file : SourceFile) :
    readFile analyser (reads read) file ≠ .misplaced := by
  intro h
  have hread := read_of_misplaced h
  rw [reads] at hread
  cases hos : read (Path.joinText file.root file.path) <;> simp [hos, Except.mapError] at hread

/-! ## Many files -/

/-- **The symbol table of some files** is that of the types of those that are not passed over, in
order. -/
theorem collect_eq {read : Text → Except FileError (List UInt8)}
    (hplaced : ∀ file ∈ files, readFile analyser read file ≠ .misplaced) (t : SymbolTable) :
    collect analyser read t files =
      .ok ((files.filterMap (typesOf? analyser read)).flatten.foldl add t) := by
  induction files generalizing t with
  | nil => rfl
  | cons file files ih =>
    obtain ⟨hfile, hfiles⟩ := List.forall_mem_cons.mp hplaced
    rw [collect, List.filterMap_cons, typesOf?]
    cases hreading : readFile analyser read file with
    | misplaced => exact absurd hreading hfile
    | declares types =>
      dsimp only
      rw [ih hfiles, List.flatten_cons, List.foldl_append, Reading.types]
    | foreign | unavailable | unreadable | unparsed | untold => exact ih hfiles t

/-- What is collected from some files depends on what is read at their paths only. -/
lemma collect_congr {read read' : Text → Except FileError (List UInt8)}
    (h : ∀ file ∈ files,
      read (Path.joinText file.root file.path) = read' (Path.joinText file.root file.path))
    (t : SymbolTable) : collect analyser read t files = collect analyser read' t files := by
  induction files generalizing t with
  | nil => rfl
  | cons file files ih =>
    obtain ⟨hfile, hfiles⟩ := List.forall_mem_cons.mp h
    have hreading : readFile analyser read file = readFile analyser read' file := by
      rw [readFile, readFile, hfile]
    rw [collect, collect, hreading]
    split
    · rfl
    · exact ih hfiles _

/-! ## Files that are found -/

/-- The bytes of a file on a disk, where a text that is no path is the name of no file. -/
def osRead (d : Disk) (path : Text) : Except OsError (List UInt8) :=
  match d.readFile path with
  | .ok bytes => .ok bytes
  | .error (.os e) => .error e
  | .error .zeroCharacter => .error (.refused .notFound path)

lemma osRead_eq_ok {d : Disk} {path : Text} {bytes : List UInt8} :
    osRead d path = .ok bytes ↔ d.readFile path = .ok bytes := by
  rw [osRead]
  split
  next bytes' h => rw [h]; simp
  next e h => rw [h]; simp
  next h => rw [h]; simp

/-- Only a text with a zero character in it is no path. -/
lemma reads_osRead {d : Disk} {path : Text} (h : Char.ofNat 0 ∉ path) :
    reads (osRead d) path = d.readFile path := by
  have hplaced : d.readFile path ≠ .error .zeroCharacter := by
    rw [Disk.readFile, if_neg (by simpa using h)]
    split
    · simp
    · split <;> simp
  rw [reads, osRead]
  split
  next bytes hread => rw [hread]; rfl
  next e hread => rw [hread]; rfl
  next hread => exact absurd hread hplaced

/-- **Files that are passed over leave no trace.** Whatever the parser makes of bytes and however
files are read, collecting the types of some files never fails. A file either is passed over, or its
tree declares types; and the table is the one that there was, with these types added in order, as it
is if the files that are passed over are not there. So a type that was not declared yet is the one
that the first of the other files declares. A scan collects the types of the files that it finds in
this way, on every disk in which no directory lists a name twice and no name holds a zero character.

**Proof sketch.** Induction over the files (`collect_eq`). A tree declares types as
`Java.Node.types_eq_ok_iff` says. Collecting could fail only at a file whose path holds a zero
character, and no file that a scan finds has such a path (`zero_not_mem_of_discover`). -/
theorem bad_files_skipped (parse : List UInt8 → Except Text Java.Node)
    (unavailable : Option Text) :
    let analyser := javaAnalyser parse unavailable
    (∀ (read : Text → Except OsError (List UInt8)) (t : SymbolTable) (files : List SourceFile),
      let types? := typesOf? analyser (reads read)
      let table := (files.filterMap types?).flatten.foldl add t
      (∀ file types, types? file = some types ↔ Yields parse unavailable read file types) ∧
      collect analyser (reads read) t files = .ok table ∧
      collect analyser (reads read) t (files.filter fun file => (types? file).isSome) = .ok table ∧
      ∀ package name, table.lookup package name =
        (t.lookup package name).or (files.findSome? fun file =>
          (types? file).bind fun types =>
            types.find? fun d => d.package = package ∧ d.name = name)) ∧
    ∀ (d : Disk) (plan : ScanPlan), d.root.Distinct → d.root.ZeroFree →
      ∃ read : Text → Except OsError (List UInt8),
        (∀ path bytes, read path = .ok bytes ↔ d.readFile path = .ok bytes) ∧
        symbolTable analyser d plan = collect analyser (reads read) {} (discover d plan) := by
  intro analyser
  refine ⟨fun read t files => ?_, fun d plan hdistinct hzero => ?_⟩
  · intro types? table
    have hplaced (files : List SourceFile) :
        ∀ file ∈ files, readFile analyser (reads read) file ≠ .misplaced :=
      fun file _ => readFile_reads_ne_misplaced analyser read file
    have hgood : (files.filter fun file => (types? file).isSome).filterMap types? =
        files.filterMap types? := by
      rw [List.filterMap_filter]
      refine List.filterMap_congr fun file _ => ?_
      cases types? file <;> rfl
    refine ⟨fun file types => typesOf?_eq_some_iff_yields, collect_eq (hplaced _) t, ?_,
      fun package name => ?_⟩
    · rw [collect_eq (hplaced _), hgood]
    · rw [lookup_addAll, List.find?_flatten, ← List.head?_filterMap, List.filterMap_filterMap,
        List.head?_filterMap]
  · refine ⟨osRead d, fun path bytes => osRead_eq_ok, ?_⟩
    refine collect_congr (fun file hfile => ?_) {}
    exact (reads_osRead (zero_not_mem_of_discover hdistinct hzero hfile)).symm

/-- A parser for files that hold nothing but the name of a class. -/
def nameParser (bytes : List UInt8) : Except Text Java.Node :=
  if bytes.isEmpty then .error (Text.lit "no name")
  else
    .ok (.mk "program" bytes 0 false false
      [.mk "class_declaration" bytes 0 false false [.mk "identifier" bytes 0 false false []]])

/-- Four files: a link that leads nowhere, a file without a name, one with a name that is no text,
and one with a name. -/
def mixedEntries : List (Text × Entry) :=
  [(Text.lit "A.java", .link (Text.lit "nowhere")), (Text.lit "B.java", .file []),
    (Text.lit "C.java", .file [0xff]), (Text.lit "D.java", .file [0x44])]

/-- A file below the directory `src`, as it is recorded. -/
def sourceFile (name : String) (size : Nat) : SourceFile :=
  ⟨Text.lit name, Text.lit "src", Text.lit "java", size⟩

lemma discover_mixed :
    discover (diskOf mixedEntries) sourcePlan =
      [sourceFile "A.java" 0, sourceFile "B.java" 0, sourceFile "C.java" 1,
        sourceFile "D.java" 1] := by
  cbv

lemma readFile_mixed :
    let d := diskOf mixedEntries
    d.readFile (Text.lit "src/A.java") =
        .error (.os (.refused .notFound (Text.lit "src/A.java"))) ∧
      d.readFile (Text.lit "src/B.java") = .ok [] ∧
      d.readFile (Text.lit "src/C.java") = .ok [0xff] ∧
      d.readFile (Text.lit "src/D.java") = .ok [0x44] :=
  ⟨by cbv, by cbv, by cbv, by cbv⟩

/-- All four files are found, the first three are passed over, and the last one declares a class. -/
theorem bad_files_skipped_mixed :
    let d := diskOf mixedEntries
    d.root.Distinct ∧ d.root.ZeroFree ∧
      discover d sourcePlan =
        [sourceFile "A.java" 0, sourceFile "B.java" 0, sourceFile "C.java" 1,
          sourceFile "D.java" 1] ∧
      symbolTable (javaAnalyser nameParser none) d sourcePlan =
        .ok (ofDeclarations [⟨Text.lit "D", [], .classType, Text.lit "D.java", 1⟩]) := by
  intro d
  have hdistinct : d.root.Distinct := by
    refine distinct_diskOf (Entry.distinct_directory.mpr ⟨by decide, ?_⟩)
    simp [mixedEntries, Entry.distinct_file, Entry.distinct_link]
  have hzero : d.root.ZeroFree := by
    refine zeroFree_diskOf (Entry.zeroFree_directory ?_)
    simp only [mixedEntries, List.forall_mem_cons]
    exact ⟨⟨by decide, Entry.zeroFree_link _⟩, ⟨by decide, Entry.zeroFree_file _⟩,
      ⟨by decide, Entry.zeroFree_file _⟩, ⟨by decide, Entry.zeroFree_file _⟩,
      List.forall_mem_nil _⟩
  obtain ⟨hmissing, hempty, hbroken, hname⟩ := readFile_mixed
  obtain ⟨hcollect, hdisk⟩ := bad_files_skipped nameParser none
  obtain ⟨read, hread, htable⟩ := hdisk d sourcePlan hdistinct hzero
  obtain ⟨hyields, hall, -, -⟩ := hcollect read {} (discover d sourcePlan)
  generalize typesOf? (javaAnalyser nameParser none) (reads read) = types? at hyields hall
  have hA : types? (sourceFile "A.java" 0) = none := by
    refine Option.eq_none_iff_forall_ne_some.mpr fun types htypes => ?_
    obtain ⟨-, -, bytes, root, package, hbytes, -⟩ := (hyields _ _).mp htypes
    cases hmissing.symm.trans ((hread _ _).mp hbytes)
  have hB : types? (sourceFile "B.java" 0) = none := by
    refine Option.eq_none_iff_forall_ne_some.mpr fun types htypes => ?_
    obtain ⟨-, -, bytes, root, package, hbytes, hparse, -⟩ := (hyields _ _).mp htypes
    cases hempty.symm.trans ((hread _ _).mp hbytes)
    cases hparse
  have hC : types? (sourceFile "C.java" 1) = none := by
    refine Option.eq_none_iff_forall_ne_some.mpr fun types htypes => ?_
    obtain ⟨-, -, bytes, root, package, hbytes, hparse, -, houtline⟩ := (hyields _ _).mp htypes
    cases hbroken.symm.trans ((hread _ _).mp hbytes)
    cases hparse
    cases houtline with
    | cons hdeclares _ =>
      obtain ⟨name, hidentifier, htext⟩ := hdeclares.name
      cases hidentifier
      cases htext
  have hD : types? (sourceFile "D.java" 1) =
      some [⟨Text.lit "D", [], .classType, Text.lit "D.java", 1⟩] := by
    refine (hyields _ _).mpr ⟨rfl, rfl, [0x44], _, [], (hread _ _).mpr hname, rfl, rfl, ?_⟩
    exact .cons ⟨rfl, ⟨_, rfl, rfl⟩, rfl, rfl, rfl⟩ .nil
  refine ⟨hdistinct, hzero, discover_mixed, ?_⟩
  rw [htable, hall, discover_mixed]
  simp only [List.filterMap_cons, hA, hB, hC, hD]
  rfl

end UnitForge.Scan
