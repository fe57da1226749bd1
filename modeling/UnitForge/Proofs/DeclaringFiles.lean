import UnitForge.Proofs.DeclaredTypes
import UnitForge.Proofs.SortedTexts

set_option autoImplicit false

/-!
# The files of a package

A symbol table tells the files of a package from the declarations that count, of which there is one
for every name. A file all of whose types have been declared by earlier files is not among them,
though it declares types of the package. So the two accounts of a table agree about the files of a
package exactly if each of these files has a declaration that counts.

## Main results

* `UnitForge.SymbolTable.mem_filesForPackage` — the files of a package are those of the declarations
  that can be looked up.
* `UnitForge.SymbolTable.files_declare` — when the files of a package are all that declare types of
  it.
-/

namespace UnitForge.SymbolTable

variable {t : SymbolTable} {package file : Text}

/-- Without its repetitions a list holds nothing twice. -/
lemma nodup_eraseDups (files : List Text) : files.eraseDups.Nodup := by
  -- The rest of the files loses the repetitions of the first one before its own are dropped.
  induction hlength : files.length using Nat.strong_induction_on generalizing files with
  | _ n ih =>
    subst hlength
    cases files with
    | nil => exact List.nodup_nil
    | cons file files =>
      rw [List.eraseDups_cons, List.nodup_cons, List.mem_eraseDups]
      refine ⟨by simp, ih _ (Nat.lt_succ_of_le (List.length_filter_le _ _)) _ rfl⟩

/-- The files of a package are in strictly ascending order. -/
lemma pairwise_filesForPackage (t : SymbolTable) (package : Text) :
    (t.filesForPackage package).Pairwise (· < ·) :=
  Text.pairwise_sort (nodup_eraseDups _)

/-- The files of a package are those of the declarations that can be looked up. -/
lemma mem_filesForPackage (h : t.WellFormed) :
    file ∈ t.filesForPackage package ↔
      ∃ name d, t.lookup package name = some d ∧ d.file = file := by
  rw [filesForPackage, Text.mem_sort, List.mem_eraseDups, List.mem_map]
  constructor
  · rintro ⟨⟨name, d⟩, hd, rfl⟩
    exact ⟨name, d, Keyed.get?_eq_some (h.distinct package) hd, rfl⟩
  · rintro ⟨name, d, hd, rfl⟩
    exact ⟨(name, d), Keyed.mem_of_get? hd, rfl⟩

/-- A file declares types of a package if and only if one of them was added with it. -/
lemma exists_typesInFile_iff {declarations : List TypeDeclaration} :
    (∃ d ∈ (ofDeclarations declarations).typesInFile file, d.package = package) ↔
      ∃ d ∈ declarations, d.file = file ∧ d.package = package := by
  simp only [typesInFile_ofDeclarations, List.mem_filter, decide_eq_true_eq, and_assoc]

/-- **The files of a package have a declaration that counts.** -/
lemma mem_filesForPackage_iff {declarations : List TypeDeclaration} :
    file ∈ (ofDeclarations declarations).filesForPackage package ↔
      ∃ d ∈ declarations, d.file = file ∧ d.package = package ∧
        (ofDeclarations declarations).lookup package d.name = some d := by
  rw [mem_filesForPackage (wellFormed_ofDeclarations declarations)]
  constructor
  · rintro ⟨name, d, hd, rfl⟩
    obtain ⟨hmem, hpackage, rfl⟩ := mem_of_lookup hd
    exact ⟨d, hmem, rfl, hpackage, hd⟩
  · rintro ⟨d, -, hfile, -, hd⟩
    exact ⟨d.name, d, hd, hfile⟩

/-- **When the files of a package are all that declare types of it.** In the table of some
declarations, the files of a package are in strictly ascending order. They are the files with a type
of the package whose declaration counts, being the first one of its name in the package. So they are
all the files with a type of the package exactly if each of these has such a declaration; and they
are, if no name is declared by two files in the package. -/
theorem files_declare (declarations : List TypeDeclaration) (package : Text) :
    let t := ofDeclarations declarations
    (t.filesForPackage package).Pairwise (· < ·) ∧
    (∀ file, file ∈ t.filesForPackage package ↔
      ∃ d ∈ t.typesInFile file, d.package = package ∧
        declarations.find? (fun x => x.package = package ∧ x.name = d.name) = some d) ∧
    ((∀ file, file ∈ t.filesForPackage package ↔
        ∃ d ∈ t.typesInFile file, d.package = package) ↔
      ∀ d ∈ declarations, d.package = package → ∃ first ∈ declarations,
        first.file = d.file ∧ first.package = package ∧
          declarations.find? (fun x => x.package = package ∧ x.name = first.name) = some first) ∧
    ((∀ d ∈ declarations, ∀ d' ∈ declarations, d.package = package → d'.package = package →
        d.name = d'.name → d.file = d'.file) →
      ∀ file, file ∈ t.filesForPackage package ↔
        ∃ d ∈ t.typesInFile file, d.package = package) := by
  intro t
  simp only [← lookup_ofDeclarations declarations package]
  have hagree : (∀ file, file ∈ t.filesForPackage package ↔
        ∃ d ∈ t.typesInFile file, d.package = package) ↔
      ∀ d ∈ declarations, d.package = package → ∃ first ∈ declarations,
        first.file = d.file ∧ first.package = package ∧
          t.lookup package first.name = some first := by
    constructor
    · intro h d hd hpackage
      exact mem_filesForPackage_iff.mp
        ((h d.file).mpr (exists_typesInFile_iff.mpr ⟨d, hd, rfl, hpackage⟩))
    · intro h file
      rw [exists_typesInFile_iff, mem_filesForPackage_iff]
      constructor
      · rintro ⟨d, hd, hfile, hpackage, -⟩
        exact ⟨d, hd, hfile, hpackage⟩
      · rintro ⟨d, hd, rfl, hpackage⟩
        exact h d hd hpackage
  refine ⟨pairwise_filesForPackage t package, fun file => ?_, hagree, fun hnames => ?_⟩
  · rw [mem_filesForPackage_iff]
    simp only [t, typesInFile_ofDeclarations, List.mem_filter, decide_eq_true_eq, and_assoc]
  · rw [hagree]
    rintro d hd rfl
    obtain ⟨first, hfirst⟩ := exists_lookup hd
    obtain ⟨hmem, hpackage, hname⟩ := mem_of_lookup hfirst
    exact ⟨first, hmem, hnames first hmem d hd hpackage rfl hname, hpackage, hname ▸ hfirst⟩

/-- Two declarations of one type, in two files. -/
def repeatedDeclarations : List TypeDeclaration :=
  [⟨Text.lit "Foo", Text.lit "p", .classType, Text.lit "a/Foo.java", 1⟩,
    ⟨Text.lit "Foo", Text.lit "p", .enumType, Text.lit "b/Foo.java", 1⟩]

/-- The second of two files that declare one type is not among the files of its package. -/
theorem file_left_out :
    (ofDeclarations repeatedDeclarations).filesForPackage (Text.lit "p") =
        [Text.lit "a/Foo.java"] ∧
      ∃ d ∈ (ofDeclarations repeatedDeclarations).typesInFile (Text.lit "b/Foo.java"),
        d.package = Text.lit "p" := by
  have hfiles : ((ofDeclarations repeatedDeclarations).package (Text.lit "p")).map (·.2.file) =
      [Text.lit "a/Foo.java"] := by
    decide
  refine ⟨?_, ⟨Text.lit "Foo", Text.lit "p", .enumType, Text.lit "b/Foo.java", 1⟩, by decide, rfl⟩
  rw [filesForPackage, hfiles]
  exact List.mergeSort_singleton _

end UnitForge.SymbolTable
