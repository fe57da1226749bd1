import UnitForge.Proofs.KeyedValues
import UnitForge.Scan.SymbolTable

set_option autoImplicit false

/-!
# Declared types

A symbol table keeps two accounts of the declarations that are added to it: by package and name the
first declaration only, and by file all of them. Both can be read off the list of the declarations.

## Main definitions

* `UnitForge.SymbolTable.ofDeclarations` — the table of some declarations, added in order.
* `UnitForge.SymbolTable.WellFormed` — what all tables have in common.

## Main results

* `UnitForge.SymbolTable.lookup_addAll` — the first declaration of a name in a package counts.
* `UnitForge.SymbolTable.typesInFile_addAll` — all declarations of a file are kept in order.
* `UnitForge.SymbolTable.wellFormed_addAll` — no name is listed twice in a package.
-/

namespace UnitForge.SymbolTable

variable {t : SymbolTable}

/-- The table of some declarations, added in order. -/
def ofDeclarations (declarations : List TypeDeclaration) : SymbolTable := declarations.foldl add {}

/-! ## By package and name -/

/-- What a package declares after a further declaration. -/
lemma package_add (t : SymbolTable) (d : TypeDeclaration) (package : Text) :
    (t.add d).package package =
      if package = d.package then
        if Keyed.has (t.package package) d.name then t.package package
        else Keyed.put d.name d (t.package package)
      else t.package package := by
  rw [SymbolTable.package, add]
  dsimp only
  rw [Keyed.get?_put]
  by_cases h : package = d.package
  · rw [if_pos h, if_pos h, Option.getD_some, h]
  · rw [if_neg h, if_neg h, SymbolTable.package]

/-- A declaration counts if its name was not declared before. -/
lemma lookup_add (t : SymbolTable) (d : TypeDeclaration) (package name : Text) :
    (t.add d).lookup package name =
      (t.lookup package name).or
        (if d.package = package ∧ d.name = name then some d else none) := by
  rw [lookup, package_add]
  by_cases hpackage : package = d.package
  · subst hpackage
    rw [if_pos rfl]
    by_cases hused : Keyed.has (t.package d.package) d.name
    · rw [if_pos hused, lookup]
      by_cases hname : d.name = name
      · subst hname
        obtain ⟨first, hfirst⟩ := Keyed.exists_of_mem_keys (Keyed.has_eq_true_iff.mp hused)
        rw [hfirst, Option.some_or]
      · rw [if_neg fun h => hname h.2, Option.or_none]
    · rw [if_neg hused, Keyed.get?_put, lookup]
      by_cases hname : d.name = name
      · subst hname
        rw [Keyed.has_eq_true_iff, ← Keyed.get?_eq_none_iff] at hused
        rw [if_pos rfl, if_pos ⟨rfl, rfl⟩, hused, Option.none_or]
      · rw [if_neg (Ne.symm hname), if_neg fun h => hname h.2, Option.or_none]
  · rw [if_neg hpackage, if_neg fun h => hpackage h.1.symm, Option.or_none, lookup]

/-- **The first declaration of a name in a package counts**: the one that the table had already, or
else the first one that is added. -/
theorem lookup_addAll (t : SymbolTable) (declarations : List TypeDeclaration)
    (package name : Text) :
    (declarations.foldl add t).lookup package name =
      (t.lookup package name).or
        (declarations.find? fun d => d.package = package ∧ d.name = name) := by
  induction declarations generalizing t with
  | nil => exact Option.or_none.symm
  | cons d declarations ih =>
    rw [List.foldl_cons, ih, lookup_add, Option.or_assoc, List.find?_cons]
    by_cases h : d.package = package ∧ d.name = name
    · rw [if_pos h, decide_eq_true h, Option.some_or]
    · rw [if_neg h, decide_eq_false h, Option.none_or]

/-- In a new table a declaration can be looked up if it is the first one of its name. -/
lemma lookup_ofDeclarations (declarations : List TypeDeclaration) (package name : Text) :
    (ofDeclarations declarations).lookup package name =
      declarations.find? fun d => d.package = package ∧ d.name = name := by
  rw [ofDeclarations, lookup_addAll]
  rfl

/-- What can be looked up has been declared, in that package and by that name. -/
lemma mem_of_lookup {declarations : List TypeDeclaration} {package name : Text}
    {d : TypeDeclaration} (h : (ofDeclarations declarations).lookup package name = some d) :
    d ∈ declarations ∧ d.package = package ∧ d.name = name := by
  rw [lookup_ofDeclarations] at h
  exact ⟨List.mem_of_find?_eq_some h, by simpa using List.find?_some h⟩

/-- What has been declared can be looked up, perhaps as another declaration of the same name. -/
lemma exists_lookup {declarations : List TypeDeclaration} {d : TypeDeclaration}
    (h : d ∈ declarations) :
    ∃ first, (ofDeclarations declarations).lookup d.package d.name = some first := by
  have hfound : (declarations.find? fun x => x.package = d.package ∧ x.name = d.name).isSome :=
    List.find?_isSome.mpr ⟨d, h, by simp⟩
  rw [← lookup_ofDeclarations] at hfound
  exact Option.isSome_iff_exists.mp hfound

/-! ## By file -/

/-- A declaration comes after the earlier ones of its file. -/
lemma typesInFile_add (t : SymbolTable) (d : TypeDeclaration) (file : Text) :
    (t.add d).typesInFile file = t.typesInFile file ++ [d].filter (·.file = file) := by
  rw [typesInFile, add]
  dsimp only
  rw [Keyed.get?_put]
  by_cases h : d.file = file
  · subst h
    rw [if_pos rfl, Option.getD_some, List.filter_cons_of_pos (by simp), List.filter_nil]
  · rw [if_neg (Ne.symm h), List.filter_cons_of_neg (by simpa using h), List.filter_nil,
      List.append_nil, typesInFile]

/-- **All declarations of a file are kept in order.** -/
theorem typesInFile_addAll (t : SymbolTable) (declarations : List TypeDeclaration) (file : Text) :
    (declarations.foldl add t).typesInFile file =
      t.typesInFile file ++ declarations.filter (·.file = file) := by
  induction declarations generalizing t with
  | nil => exact (List.append_nil _).symm
  | cons d declarations ih =>
    rw [List.foldl_cons, ih, typesInFile_add, List.append_assoc, ← List.filter_append,
      List.singleton_append]

/-- A new table keeps the declarations of a file. -/
lemma typesInFile_ofDeclarations (declarations : List TypeDeclaration) (file : Text) :
    (ofDeclarations declarations).typesInFile file = declarations.filter (·.file = file) := by
  rw [ofDeclarations, typesInFile_addAll]
  rfl

/-! ## Names listed once -/

/-- What the tables have in common that declarations are added to. -/
structure WellFormed (t : SymbolTable) : Prop where
  /-- No name is listed twice in a package. -/
  distinct : ∀ package, (Keyed.keys (t.package package)).Nodup

/-- A declaration keeps a table well-formed. -/
lemma WellFormed.add (h : t.WellFormed) (d : TypeDeclaration) : (t.add d).WellFormed where
  distinct package := by
    rw [package_add]
    split
    · split
      · exact h.distinct package
      · exact Keyed.nodup_keys_put (h.distinct package) d.name d
    · exact h.distinct package

/-- **No name is listed twice in a package**, whatever is declared. -/
theorem wellFormed_addAll (h : t.WellFormed) (declarations : List TypeDeclaration) :
    (declarations.foldl SymbolTable.add t).WellFormed := by
  induction declarations generalizing t with
  | nil => exact h
  | cons d declarations ih => exact ih (h.add d)

/-- The table of some declarations is well-formed. -/
lemma wellFormed_ofDeclarations (declarations : List TypeDeclaration) :
    (ofDeclarations declarations).WellFormed := by
  have hnew : ({} : SymbolTable).WellFormed := ⟨fun _ => List.nodup_nil⟩
  exact wellFormed_addAll hnew declarations

end UnitForge.SymbolTable
