import Mathlib.Algebra.BigOperators.Group.List.Basic
import Mathlib.Algebra.Order.Ring.Nat
import Mathlib.Data.Finset.Card
import UnitForge.Proofs.DeclaredTypes
import UnitForge.Proofs.SortedTexts

set_option autoImplicit false

/-!
# The packages of a symbol table

A symbol table tells its packages, the names of the types in each, and how many there are. All of
this is determined by the pairs of a package and a name that have been declared: neither the order
of the declarations matters nor how often a type is declared.

## Main definitions

* `UnitForge.SymbolTable.typeNames` — the types that a table tells, package by package.

## Main results

* `UnitForge.SymbolTable.mem_typesInPackage`, `UnitForge.SymbolTable.mem_packages` — which names and
  which packages a table tells.
* `UnitForge.SymbolTable.size_eq_length` — the number of declarations that count is the number of
  types told.
* `UnitForge.SymbolTable.first_declaration_counts` — what a table tells of the declarations that
  were added to it.
-/

namespace UnitForge.SymbolTable

variable {t : SymbolTable} {package name : Text} {declarations : List TypeDeclaration}

/-! ## Names -/

/-- The names of the types in a package are in strictly ascending order. -/
lemma pairwise_typesInPackage (h : t.WellFormed) (package : Text) :
    (t.typesInPackage package).Pairwise (· < ·) :=
  Text.pairwise_sort (h.distinct package)

/-- The names of the types in a package are those that can be looked up. -/
lemma mem_typesInPackage :
    name ∈ t.typesInPackage package ↔ ∃ d, t.lookup package name = some d := by
  rw [typesInPackage, Text.mem_sort, ← Option.ne_none_iff_exists', ne_eq, lookup,
    Keyed.get?_eq_none_iff, not_not]

/-- A name of a package can be looked up if and only if it was declared there. -/
lemma exists_lookup_iff :
    (∃ d, (ofDeclarations declarations).lookup package name = some d) ↔
      ∃ d ∈ declarations, d.package = package ∧ d.name = name := by
  constructor
  · rintro ⟨d, hd⟩
    exact ⟨d, mem_of_lookup hd⟩
  · rintro ⟨d, hd, rfl, rfl⟩
    exact exists_lookup hd

/-! ## Packages -/

/-- The packages of a table with a further declaration. -/
lemma keys_byPackage_add (t : SymbolTable) (d : TypeDeclaration) :
    Keyed.keys (t.add d).byPackage =
      if d.package ∈ Keyed.keys t.byPackage then Keyed.keys t.byPackage
      else Keyed.keys t.byPackage ++ [d.package] :=
  Keyed.keys_put _ _ _

/-- No package is listed twice, whatever is declared. -/
lemma nodup_byPackage_addAll (h : (Keyed.keys t.byPackage).Nodup)
    (declarations : List TypeDeclaration) :
    (Keyed.keys (declarations.foldl add t).byPackage).Nodup := by
  induction declarations generalizing t with
  | nil => exact h
  | cons d declarations ih => exact ih (Keyed.nodup_keys_put h _ _)

/-- The packages of a table are those that it had and those of the declarations. -/
lemma mem_byPackage_addAll :
    package ∈ Keyed.keys (declarations.foldl add t).byPackage ↔
      package ∈ Keyed.keys t.byPackage ∨ ∃ d ∈ declarations, d.package = package := by
  induction declarations generalizing t with
  | nil => simp
  | cons d declarations ih =>
    have hadd : package ∈ Keyed.keys (t.add d).byPackage ↔
        package ∈ Keyed.keys t.byPackage ∨ d.package = package := by
      rw [keys_byPackage_add]
      split
      next hknown => exact ⟨.inl, fun h => h.elim id fun h => h ▸ hknown⟩
      next => rw [List.mem_append, List.mem_singleton, eq_comm (a := package)]
    rw [List.foldl_cons, ih, hadd, or_assoc, List.exists_mem_cons_iff]

/-- No package of some declarations is listed twice. -/
lemma nodup_byPackage (declarations : List TypeDeclaration) :
    (Keyed.keys (ofDeclarations declarations).byPackage).Nodup := by
  have hnew : (Keyed.keys ({} : SymbolTable).byPackage).Nodup := List.nodup_nil
  exact nodup_byPackage_addAll hnew declarations

/-- The packages are in strictly ascending order. -/
lemma pairwise_packages (declarations : List TypeDeclaration) :
    (ofDeclarations declarations).packages.Pairwise (· < ·) :=
  Text.pairwise_sort (nodup_byPackage declarations)

/-- The packages are those of the declarations. -/
lemma mem_packages :
    package ∈ (ofDeclarations declarations).packages ↔
      ∃ d ∈ declarations, d.package = package := by
  rw [packages, Text.mem_sort, ofDeclarations, mem_byPackage_addAll]
  exact or_iff_right List.not_mem_nil

/-! ## Sizes -/

/-- The types that a table tells, package by package. -/
def typeNames (t : SymbolTable) : List (Text × Text) :=
  t.packages.flatMap fun package => (t.typesInPackage package).map (package, ·)

/-- The types told are those that were declared. -/
lemma mem_typeNames :
    (package, name) ∈ (ofDeclarations declarations).typeNames ↔
      ∃ d ∈ declarations, d.package = package ∧ d.name = name := by
  rw [typeNames, List.mem_flatMap]
  constructor
  · rintro ⟨other, -, hname⟩
    obtain ⟨x, hx, heq⟩ := List.mem_map.mp hname
    obtain ⟨rfl, rfl⟩ := Prod.mk.inj heq
    exact exists_lookup_iff.mp (mem_typesInPackage.mp hx)
  · rintro ⟨d, hd, rfl, rfl⟩
    exact ⟨d.package, mem_packages.mpr ⟨d, hd, rfl⟩,
      List.mem_map_of_mem (mem_typesInPackage.mpr (exists_lookup hd))⟩

/-- No type is told twice. -/
lemma nodup_typeNames (declarations : List TypeDeclaration) :
    (ofDeclarations declarations).typeNames.Nodup := by
  have hne {names : List Text} (h : names.Pairwise (· < ·)) : names.Nodup := h.imp ne_of_lt
  refine List.nodup_flatMap.mpr ⟨fun package _ => ?_, ?_⟩
  · exact (hne (pairwise_typesInPackage (wellFormed_ofDeclarations declarations) package)).map
      (Prod.mk_right_injective package)
  · refine (hne (pairwise_packages declarations)).imp fun {p q} hpq pair hp hq => ?_
    obtain ⟨_, -, rfl⟩ := List.mem_map.mp hp
    obtain ⟨_, -, heq⟩ := List.mem_map.mp hq
    exact hpq (congrArg Prod.fst heq).symm

/-- The number of declarations that count, package by package. -/
lemma size_eq_sum (h : (Keyed.keys t.byPackage).Nodup) :
    t.size = (t.packages.map fun package => (t.typesInPackage package).length).sum := by
  have hentry : ∀ entry ∈ t.byPackage, (t.typesInPackage entry.1).length = entry.2.length := by
    intro entry hentry
    rw [typesInPackage, Text.sort, List.length_mergeSort, Keyed.keys, List.length_map,
      SymbolTable.package, Keyed.get?_eq_some h hentry, Option.getD_some]
  have hsum : ∀ entries : Keyed (Keyed TypeDeclaration), ∀ n,
      entries.foldl (fun n entry => n + entry.2.length) n =
        n + (entries.map fun entry => entry.2.length).sum := by
    intro entries
    induction entries with
    | nil => simp
    | cons entry entries ih =>
      intro n
      rw [List.foldl_cons, ih, List.map_cons, List.sum_cons, Nat.add_assoc]
  calc t.size
      = t.byPackage.foldl (fun n entry => n + entry.2.length) 0 := rfl
    _ = (t.byPackage.map fun entry => entry.2.length).sum := by rw [hsum, Nat.zero_add]
    _ = (t.byPackage.map fun entry => (t.typesInPackage entry.1).length).sum := by
        rw [List.map_congr_left hentry]
    _ = ((Keyed.keys t.byPackage).map fun package => (t.typesInPackage package).length).sum := by
        rw [Keyed.keys, List.map_map]
        rfl
    _ = (t.packages.map fun package => (t.typesInPackage package).length).sum :=
        ((List.mergeSort_perm _ _).symm.map _).sum_eq

/-- **The number of declarations that count is the number of types told.** -/
lemma size_eq_length (declarations : List TypeDeclaration) :
    (ofDeclarations declarations).size = (ofDeclarations declarations).typeNames.length := by
  rw [size_eq_sum (nodup_byPackage declarations), typeNames, List.length_flatMap]
  simp only [List.length_map]

/-- The number of declarations that count is the number of types that were declared. -/
lemma size_eq_card (declarations : List TypeDeclaration) :
    (ofDeclarations declarations).size =
      (declarations.map fun d => (d.package, d.name)).toFinset.card := by
  rw [size_eq_length, ← List.toFinset_card_of_nodup (nodup_typeNames declarations)]
  congr 1
  ext ⟨package, name⟩
  rw [List.mem_toFinset, List.mem_toFinset, mem_typeNames, List.mem_map]
  simp only [Prod.mk.injEq]

/-! ## What a table tells -/

/-- **The first declaration counts, and the order of the others does not matter.** In the table of
some declarations, looking a name up in a package gives the first declaration of that name there.
The names of a package are in strictly ascending order and are those that can be looked up, the
packages are in strictly ascending order and are those of the declarations, and the number of
declarations that count is that of the types declared and the sum of those of the packages. All
declarations of a file are kept in order. If the declarations are added in another order, the names
of each package, the packages and that number stay the same.

**Proof sketch.** Names and packages are sorted lists of what was declared
(`exists_lookup_iff`, `mem_packages`), and such lists are equal if they have the same members. For
the number, the types told package by package are listed without repetition. -/
theorem first_declaration_counts (declarations : List TypeDeclaration) :
    let t := ofDeclarations declarations
    (∀ package name, t.lookup package name =
      declarations.find? fun d => d.package = package ∧ d.name = name) ∧
    (∀ package, (t.typesInPackage package).Pairwise (· < ·) ∧
      ∀ name, name ∈ t.typesInPackage package ↔ ∃ d, t.lookup package name = some d) ∧
    (t.packages.Pairwise (· < ·) ∧
      ∀ package, package ∈ t.packages ↔ ∃ d ∈ declarations, d.package = package) ∧
    (t.size = (declarations.map fun d => (d.package, d.name)).toFinset.card ∧
      t.size = (t.packages.map fun package => (t.typesInPackage package).length).sum) ∧
    (∀ file, t.typesInFile file = declarations.filter (·.file = file)) ∧
    ∀ reordered : List TypeDeclaration, declarations.Perm reordered →
      (∀ package, (ofDeclarations reordered).typesInPackage package = t.typesInPackage package) ∧
      (ofDeclarations reordered).packages = t.packages ∧
      (ofDeclarations reordered).size = t.size := by
  intro t
  refine ⟨lookup_ofDeclarations declarations,
    fun package => ⟨pairwise_typesInPackage (wellFormed_ofDeclarations declarations) package,
      fun name => mem_typesInPackage⟩,
    ⟨pairwise_packages declarations, fun package => mem_packages⟩,
    ⟨size_eq_card declarations, size_eq_sum (nodup_byPackage declarations)⟩,
    typesInFile_ofDeclarations declarations, fun reordered hperm => ⟨fun package => ?_, ?_, ?_⟩⟩
  · refine Text.eq_of_mem_iff
      (pairwise_typesInPackage (wellFormed_ofDeclarations reordered) package)
      (pairwise_typesInPackage (wellFormed_ofDeclarations declarations) package) fun name => ?_
    rw [mem_typesInPackage, mem_typesInPackage, exists_lookup_iff, exists_lookup_iff]
    simp only [hperm.mem_iff]
  · refine Text.eq_of_mem_iff (pairwise_packages reordered) (pairwise_packages declarations)
      fun package => ?_
    rw [mem_packages, mem_packages]
    simp only [hperm.mem_iff]
  · rw [size_eq_card, size_eq_card,
      List.toFinset_eq_of_perm _ _ (hperm.map fun d => (d.package, d.name))]

/-- Two files that declare one type of `p`, and one of the unnamed package with a namesake. -/
def namesakes : List TypeDeclaration :=
  [⟨Text.lit "Foo", Text.lit "p", .classType, Text.lit "a/Foo.java", 1⟩,
    ⟨Text.lit "Foo", [], .recordType, Text.lit "Foo.java", 1⟩,
    ⟨Text.lit "Foo", Text.lit "p", .enumType, Text.lit "b/Foo.java", 3⟩]

/-- Another order of the files changes which declaration is looked up, but neither the names nor the
number of types. -/
theorem first_declaration_counts_namesakes :
    let t := ofDeclarations namesakes
    let t' := ofDeclarations namesakes.reverse
    namesakes.Perm namesakes.reverse ∧
      (t.lookup (Text.lit "p") (Text.lit "Foo")).map (·.kind) = some .classType ∧
      (t'.lookup (Text.lit "p") (Text.lit "Foo")).map (·.kind) = some .enumType ∧
      (∀ package, t'.typesInPackage package = t.typesInPackage package) ∧
      t'.packages = t.packages ∧ t.size = 2 ∧ t'.size = 2 := by
  intro t t'
  have hperm : namesakes.Perm namesakes.reverse := namesakes.reverse_perm.symm
  obtain ⟨hlookup, -, -, -, -, hreorder⟩ := first_declaration_counts namesakes
  obtain ⟨hnames, hpackages, hsize⟩ := hreorder namesakes.reverse hperm
  have htwo : t.size = 2 := by decide
  refine ⟨hperm, ?_, by decide, hnames, hpackages, htwo, hsize.trans htwo⟩
  rw [hlookup]
  decide

end UnitForge.SymbolTable
