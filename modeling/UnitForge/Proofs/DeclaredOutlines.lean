import Mathlib.Data.List.Forall2
import UnitForge.Java.Outline

set_option autoImplicit false

/-!
# What syntax trees declare

The outline of a syntax tree is drawn from the nodes directly below its top, and from the names
directly below those. It can be told exactly if the bytes of these names are texts.

## Main definitions

* `UnitForge.Java.Node.DeclaresPackage` — a tree declares a package.
* `UnitForge.Java.Node.typeNodes` — the nodes of a tree that declare types.
* `UnitForge.Java.Node.Declares` — a node declares a type.

## Main results

* `UnitForge.Java.Node.package_eq_ok_iff` — which package a tree declares.
* `UnitForge.Java.Node.types_eq_ok_iff` — which types a tree declares.
-/

namespace UnitForge.Java.Node

variable {package file : Text} {n root : Node}

/-! ## The package -/

/-- The names in the package declarations directly below the top of a tree. -/
def packageNames (root : Node) : List Node :=
  (root.children.filter (·.kind == "package_declaration")).flatMap (·.children.filter isName)

/-- The first name in a package declaration is the first one of all these names. -/
lemma findSome?_packageName? (nodes : List Node) :
    nodes.findSome? packageName? =
      ((nodes.filter (·.kind == "package_declaration")).flatMap
        (·.children.filter isName)).head? := by
  induction nodes with
  | nil => rfl
  | cons n nodes ih =>
    rw [List.findSome?_cons, packageName?, ih, List.filter_cons]
    cases n.kind == "package_declaration" with
    | false => rfl
    | true =>
      rw [if_pos rfl, if_pos rfl, List.flatMap_cons, List.head?_append, List.head?_filter]
      cases n.children.find? isName <;> rfl

/-- A tree declares a package: the first of these names, or else the unnamed package. -/
def DeclaresPackage (root : Node) (package : Text) : Prop :=
  match root.packageNames with
  | [] => package = []
  | name :: _ => name.decoded = .ok package

/-- **Which package a tree declares.** It can be told exactly if the name is a text. -/
theorem package_eq_ok_iff : root.package = .ok package ↔ root.DeclaresPackage package := by
  rw [Node.package, findSome?_packageName?, ← packageNames, DeclaresPackage]
  cases root.packageNames with
  | nil => simp [eq_comm]
  | cons name names => rfl

/-! ## The types -/

/-- Whether a node is a declaration of a type that has a name. -/
def isTypeNode (n : Node) : Bool := n.typeKind?.isSome && n.typeName?.isSome

/-- The nodes directly below the top of a tree that declare types. -/
def typeNodes (root : Node) : List Node := root.children.filter isTypeNode

/-- A node declares a type, in a package and a file. -/
structure Declares (package file : Text) (n : Node) (d : TypeDeclaration) : Prop where
  /-- It is a declaration of a type of that kind. -/
  kind : n.typeKind? = some d.kind
  /-- The first name directly below it is that of the type. -/
  name : ∃ name, n.typeName? = some name ∧ name.decoded = .ok d.name
  /-- The type is in the package. -/
  package : d.package = package
  /-- The type is in the file. -/
  file : d.file = file
  /-- The line is that in which the node begins. -/
  line : d.line = n.row + 1

/-- What is no declaration of a type declares nothing. -/
lemma declaration?_of_not (h : n.isTypeNode = false) :
    declaration? package file n = .ok none := by
  rw [declaration?]
  split
  next kind name hkind hname => simp [isTypeNode, hkind, hname] at h
  next => rfl

/-- What a declaration of a type declares. -/
lemma declaration?_eq_ok (h : n.isTypeNode = true) {declared : Option TypeDeclaration} :
    declaration? package file n = .ok declared ↔
      ∃ d, declared = some d ∧ Declares package file n d := by
  obtain ⟨hkind, hname⟩ := Bool.and_eq_true_iff.mp h
  obtain ⟨kind, hkind⟩ := Option.isSome_iff_exists.mp hkind
  obtain ⟨name, hname⟩ := Option.isSome_iff_exists.mp hname
  rw [declaration?, hkind, hname]
  dsimp only
  constructor
  · intro hdeclared
    cases hdecoded : name.decoded with
    | error fault => simp [hdecoded, Except.map] at hdeclared
    | ok text =>
      rw [hdecoded, Except.map, Except.ok.injEq] at hdeclared
      exact ⟨_, hdeclared.symm, hkind, ⟨name, hname, hdecoded⟩, rfl, rfl, rfl⟩
  · rintro ⟨d, rfl, hd⟩
    obtain ⟨name', hname', hdecoded⟩ := hd.name
    obtain rfl := Option.some.inj (hname.symm.trans hname')
    obtain rfl := Option.some.inj (hkind.symm.trans hd.kind)
    obtain ⟨-, -, rfl, rfl, hline⟩ := hd
    rw [hdecoded, Except.map, ← hline]

/-- The types that some nodes declare, in order. -/
lemma mapM_declaration?_eq_ok (nodes : List Node) (types : List TypeDeclaration) :
    (∃ found, nodes.mapM (declaration? package file) = .ok found ∧ found.filterMap id = types) ↔
      List.Forall₂ (Declares package file) (nodes.filter isTypeNode) types := by
  induction nodes generalizing types with
  | nil => simp [pure, Except.pure, eq_comm]
  | cons n nodes ih =>
    have hcons : (∃ found, (n :: nodes).mapM (declaration? package file) = .ok found ∧
          found.filterMap id = types) ↔
        ∃ declared, declaration? package file n = .ok declared ∧
          ∃ found, nodes.mapM (declaration? package file) = .ok found ∧
            (declared :: found).filterMap id = types := by
      rw [List.mapM_cons]
      cases declaration? package file n with
      | error fault => simp [bind, Except.bind]
      | ok declared =>
        cases nodes.mapM (declaration? package file) with
        | error fault => simp [bind, Except.bind]
        | ok found => simp [bind, Except.bind, pure, Except.pure]
    rw [hcons]
    cases hnode : n.isTypeNode with
    | false =>
      rw [List.filter_cons_of_neg (by simp [hnode]), ← ih, declaration?_of_not hnode]
      simp
    | true =>
      rw [List.filter_cons_of_pos hnode, List.forall₂_cons_left_iff]
      simp only [declaration?_eq_ok hnode]
      constructor
      · rintro ⟨_, ⟨d, rfl, hd⟩, found, hfound, rfl⟩
        exact ⟨d, found.filterMap id, hd, (ih _).mp ⟨found, hfound, rfl⟩, rfl⟩
      · rintro ⟨d, rest, hd, hrest, rfl⟩
        obtain ⟨found, hfound, rfl⟩ := (ih rest).mpr hrest
        exact ⟨some d, ⟨d, rfl, hd⟩, found, hfound, rfl⟩

/-- **Which types a tree declares**: each node directly below the top that is a declaration of a
named type declares one, in the package of the tree. They can be told exactly if the names are
texts. -/
theorem types_eq_ok_iff {types : List TypeDeclaration} :
    root.types file = .ok types ↔
      ∃ package, root.DeclaresPackage package ∧
        List.Forall₂ (Declares package file) root.typeNodes types := by
  simp only [typeNodes, ← mapM_declaration?_eq_ok, ← package_eq_ok_iff]
  rw [Node.types]
  cases root.package with
  | error fault => simp [bind, Except.bind]
  | ok package =>
    cases hfound : root.children.mapM (declaration? package file) with
    | error fault => simp [bind, Except.bind, hfound]
    | ok found => simp [bind, Except.bind, pure, Except.pure, hfound]

end UnitForge.Java.Node
