import Mathlib.Data.List.Lex
import UnitForge.Java.Node

set_option autoImplicit false

/-!
# The first syntax error of a tree

The search for the first syntax error goes down a syntax tree where the flags of the nodes lead it.
If every flag is right, it comes to the first error node of the tree in pre-order, and never has to
fall back on a node whose flag led it nowhere.

A node is told by its address, the numbers of the children that lead to it from the top. In the
lexicographic order of addresses a node comes before those below it, and those below one child come
before those below the next; so this is the pre-order of the tree.

## Main definitions

* `UnitForge.Java.Node.at?` — the node at an address.
* `UnitForge.Java.Node.Erroneous` — there is an error node in a tree.
* `UnitForge.Java.Node.Flagged` — every flag in a tree is right.
* `UnitForge.Java.Node.IsFirstError` — the first error node of a tree.

## Main results

* `UnitForge.Java.Node.flagged_iff` — a tree is flagged if every node agrees with its children.
* `UnitForge.Java.Node.exists_isFirstError` — where the search ends.
* `UnitForge.Java.Node.first_error_told` — what the search tells.
-/

namespace UnitForge.Java.Node

variable {n m root : Node} {address : List Nat} {line : Nat}

/-- **Induction over a tree**: what holds of a node if it holds of its children holds of every
node. -/
@[elab_as_elim]
theorem induction {P : Node → Prop} (step : ∀ n : Node, (∀ child ∈ n.children, P child) → P n) :
    ∀ n, P n
  | mk kind text row hasError isMissing children =>
    step (mk kind text row hasError isMissing children) fun child _ => induction step child
termination_by n => sizeOf n
decreasing_by
  rename_i h
  have hlt := List.sizeOf_lt_of_mem h
  simp only [Node.children] at hlt
  simp only [Node.mk.sizeOf_spec]
  omega

/-! ## Addresses -/

/-- The node at an address, which lists the numbers of the children that lead to it. -/
def at? (n : Node) : List Nat → Option Node
  | [] => some n
  | i :: address => (n.children[i]?).bind (·.at? address)

lemma at?_nil (n : Node) : n.at? [] = some n := rfl

/-- What stands below a node stands in one of its children. -/
lemma at?_cons_eq_some {i : Nat} :
    n.at? (i :: address) = some m ↔
      ∃ child, n.children[i]? = some child ∧ child.at? address = some m :=
  Option.bind_eq_some_iff

/-- There is an error node in a tree, which may be its top. -/
def Erroneous (root : Node) : Prop := ∃ address n, root.at? address = some n ∧ n.isError = true

/-- An error node is the top of a tree or stands in a child. -/
lemma erroneous_iff :
    n.Erroneous ↔ n.isError = true ∨ ∃ child ∈ n.children, child.Erroneous := by
  constructor
  · rintro ⟨_ | ⟨i, address⟩, m, hm, herror⟩
    · rw [at?_nil, Option.some_inj] at hm
      exact .inl (hm ▸ herror)
    · obtain ⟨child, hchild, hm⟩ := at?_cons_eq_some.mp hm
      exact .inr ⟨child, List.mem_of_getElem? hchild, address, m, hm, herror⟩
  · rintro (herror | ⟨child, hchild, address, m, hm, herror⟩)
    · exact ⟨[], n, rfl, herror⟩
    · obtain ⟨i, hi⟩ := List.getElem?_of_mem hchild
      exact ⟨i :: address, m, at?_cons_eq_some.mpr ⟨child, hi, hm⟩, herror⟩

/-! ## Flags -/

/-- Every flag in a tree is right: a node has it exactly if there is an error node in it. -/
def Flagged (root : Node) : Prop :=
  ∀ address n, root.at? address = some n → (n.hasError = true ↔ n.Erroneous)

lemma Flagged.hasError_iff (h : n.Flagged) : n.hasError = true ↔ n.Erroneous := h [] n rfl

lemma Flagged.of_mem {child : Node} (h : n.Flagged) (hchild : child ∈ n.children) :
    child.Flagged := by
  intro address m hm
  obtain ⟨i, hi⟩ := List.getElem?_of_mem hchild
  exact h (i :: address) m (at?_cons_eq_some.mpr ⟨child, hi, hm⟩)

/-- **A tree is flagged if every node agrees with its children**: it has the flag if it is an error
node or a child has it. -/
theorem flagged_iff :
    n.Flagged ↔ n.hasError = (n.isError || n.children.any hasError) ∧
      ∀ child ∈ n.children, child.Flagged := by
  have hlocal (hchildren : ∀ child ∈ n.children, child.Flagged) :
      n.Erroneous ↔ (n.isError || n.children.any hasError) = true := by
    rw [erroneous_iff, Bool.or_eq_true, List.any_eq_true]
    refine or_congr_right (exists_congr fun child => and_congr_right fun hchild => ?_)
    exact (hchildren child hchild).hasError_iff.symm
  constructor
  · intro h
    have hchildren : ∀ child ∈ n.children, child.Flagged := fun child => h.of_mem
    exact ⟨Bool.eq_iff_iff.mpr (h.hasError_iff.trans (hlocal hchildren)), hchildren⟩
  · rintro ⟨hflag, hchildren⟩ (_ | ⟨i, address⟩) m hm
    · rw [at?_nil, Option.some_inj] at hm
      rw [← hm, hflag, hlocal hchildren]
    · obtain ⟨child, hchild, hm⟩ := at?_cons_eq_some.mp hm
      exact hchildren child (List.mem_of_getElem? hchild) address m hm

lemma flagged_mk {kind : String} {text : List UInt8} {row : Nat} {flag missing : Bool}
    {children : List Node} :
    (mk kind text row flag missing children).Flagged ↔
      flag = (kind == errorKind || missing || children.any hasError) ∧
        ∀ child ∈ children, child.Flagged :=
  flagged_iff

/-- Below a node that has the flag and is no error node, the flags lead to a child. -/
lemma Flagged.exists_find? (h : n.Flagged) (hflag : n.hasError = true)
    (herror : n.isError = false) : ∃ child, n.children.find? hasError = some child := by
  rw [(flagged_iff.mp h).1, herror, Bool.false_or, List.any_eq_true] at hflag
  exact Option.isSome_iff_exists.mp (List.find?_isSome.mpr hflag)

/-! ## The first error node -/

/-- A node is the first error node of a tree in pre-order, at its address. -/
structure IsFirstError (root : Node) (address : List Nat) (n : Node) : Prop where
  /-- The node stands at the address. -/
  at_address : root.at? address = some n
  /-- It is an error node. -/
  isError : n.isError = true
  /-- No error node comes before it. -/
  first : ∀ address' < address, ∀ n', root.at? address' = some n' → n'.isError = false

/-- There is only one first error node. -/
lemma IsFirstError.unique {address' : List Nat} (h : root.IsFirstError address n)
    (h' : root.IsFirstError address' m) : n = m := by
  rcases lt_trichotomy address address' with hlt | rfl | hlt
  · exact absurd h.isError (Bool.eq_false_iff.mp (h'.first address hlt n h.at_address))
  · exact Option.some.inj (h.at_address.symm.trans h'.at_address)
  · exact absurd h'.isError (Bool.eq_false_iff.mp (h.first address' hlt m h'.at_address))

/-- An error node at the top of a tree is the first. -/
lemma isFirstError_nil (herror : n.isError = true) : n.IsFirstError [] n :=
  ⟨rfl, herror, fun _ hlt => absurd hlt (List.not_lt_nil _)⟩

/-- Below a node that is no error node, the first one of the first child with an error is the
first. -/
lemma IsFirstError.cons {child : Node} {i : Nat} (h : child.IsFirstError address m)
    (herror : n.isError = false) (hchild : n.children[i]? = some child)
    (hbefore : ∀ j < i, ∀ child', n.children[j]? = some child' → ¬child'.Erroneous) :
    n.IsFirstError (i :: address) m := by
  refine ⟨at?_cons_eq_some.mpr ⟨child, hchild, h.at_address⟩, h.isError, ?_⟩
  rintro (_ | ⟨j, address'⟩) hlt m' hm'
  · rw [at?_nil, Option.some_inj] at hm'
    exact hm' ▸ herror
  · obtain ⟨child', hchild', hm'⟩ := at?_cons_eq_some.mp hm'
    rcases List.cons_lt_cons_iff.mp hlt with hj | ⟨rfl, haddress⟩
    · rw [← Bool.not_eq_true]
      intro herror'
      exact hbefore j hj child' hchild' ⟨address', m', hm', herror'⟩
    · rw [hchild, Option.some_inj] at hchild'
      exact h.first address' haddress m' (hchild' ▸ hm')

/-! ## The search -/

/-- The search goes into the first of the nodes that has the flag. -/
lemma errorLineIn_eq (nodes : List Node) :
    errorLineIn nodes = (nodes.find? hasError).map errorLine := by
  induction nodes with
  | nil => rw [errorLineIn, List.find?_nil, Option.map_none]
  | cons n nodes ih =>
    rw [errorLineIn, List.find?_cons, ih]
    cases n.hasError <;> rfl

/-- The search ends at an error node. -/
lemma errorLine_of_isError (herror : n.isError = true) : n.errorLine = n.row + 1 := by
  obtain ⟨kind, text, row, hasError, isMissing, children⟩ := n
  rw [errorLine]
  exact if_pos herror

/-- The search goes on below a node that is no error node, where the flags lead to an error. -/
lemma errorLine_of_find? {child : Node} (herror : n.isError = false)
    (hchild : n.children.find? hasError = some child) : n.errorLine = child.errorLine := by
  obtain ⟨kind, text, row, hasError, isMissing, children⟩ := n
  replace hchild : children.find? Node.hasError = some child := hchild
  rw [errorLine, errorLineIn_eq, hchild]
  exact if_neg (Bool.eq_false_iff.mp herror)

/-- **Where the search ends**: in a flagged tree with the flag at its top, at the first error node.

**Proof sketch.** Induction over the tree. The search ends at the top if that is an error node.
Otherwise some child has the flag, so the search does not fall back on the top: it goes on in the
first such child, where by induction it ends at the first error node. The children before that one
have no flag, and hence no error node in them. -/
theorem exists_isFirstError (h : n.Flagged) (hflag : n.hasError = true) :
    ∃ address m, n.IsFirstError address m ∧ n.errorLine = m.row + 1 := by
  induction n using Node.induction with
  | step n ih =>
    cases herror : n.isError with
    | true => exact ⟨[], n, isFirstError_nil herror, errorLine_of_isError herror⟩
    | false =>
      -- the flags lead on, so that the search does not fall back on this node
      obtain ⟨child, hchild⟩ := h.exists_find? hflag herror
      obtain ⟨hflagged, i, hi, rfl, hbefore⟩ := List.find?_eq_some_iff_getElem.mp hchild
      have hmem : n.children[i] ∈ n.children := List.getElem_mem hi
      obtain ⟨address, m, hfirst, hline⟩ := ih _ hmem (h.of_mem hmem) hflagged
      refine ⟨i :: address, m, hfirst.cons herror (List.getElem?_eq_getElem hi) ?_,
        (errorLine_of_find? herror hchild).trans hline⟩
      intro j hj child' hchild' herroneous
      obtain ⟨hj', rfl⟩ := List.getElem?_eq_some_iff.mp hchild'
      have hunflagged := hbefore j hj
      rw [(h.of_mem (List.getElem_mem hj')).hasError_iff.mpr herroneous] at hunflagged
      cases hunflagged

/-- The line told is that of the first error node, and there is one if a line is told. -/
lemma firstErrorLine_eq_some_iff (h : root.Flagged) :
    root.firstErrorLine = some line ↔
      ∃ address n, root.IsFirstError address n ∧ line = n.row + 1 := by
  rw [firstErrorLine]
  cases hflag : root.hasError with
  | false =>
    refine iff_of_false (fun hline => nomatch hline) ?_
    rintro ⟨address, n, hfirst, -⟩
    have herroneous : root.Erroneous := ⟨address, n, hfirst.at_address, hfirst.isError⟩
    rw [h.hasError_iff.mpr herroneous] at hflag
    cases hflag
  | true =>
    obtain ⟨address, n, hfirst, hline⟩ := exists_isFirstError h hflag
    rw [if_pos rfl, hline, Option.some_inj]
    constructor
    · rintro rfl
      exact ⟨address, n, hfirst, rfl⟩
    · rintro ⟨address', m, hfirst', rfl⟩
      rw [hfirst.unique hfirst']

/-- No line is told exactly if there is no error node. -/
lemma firstErrorLine_eq_none_iff (h : root.Flagged) :
    root.firstErrorLine = none ↔ ¬root.Erroneous := by
  rw [← h.hasError_iff, firstErrorLine]
  cases root.hasError <;> simp

/-- **What the search tells**: of a flagged tree without error nodes nothing, and of any other the
line of the first error node. -/
theorem first_error_told (h : root.Flagged) :
    (root.firstErrorLine = none ↔ ¬root.Erroneous) ∧
      ∀ line, root.firstErrorLine = some line ↔
        ∃ address n, root.IsFirstError address n ∧ line = n.row + 1 :=
  ⟨firstErrorLine_eq_none_iff h, fun _ => firstErrorLine_eq_some_iff h⟩

/-- The tree of a class that lacks a semicolon in its fifth line, after another class and before a
stray brace. -/
def brokenClass : Node :=
  .mk "program" [] 0 true false [
    .mk "class_declaration" [] 0 false false [.mk "identifier" [] 0 false false []],
    .mk "class_declaration" [] 2 true false [
      .mk "identifier" [] 2 false false [],
      .mk "class_body" [] 2 true false [
        .mk "\x7b" [] 2 false false [],
        .mk "field_declaration" [] 4 true false [
          .mk "variable_declarator" [] 4 false false [],
          .mk ";" [] 4 true true []],
        .mk "\x7d" [] 5 false false []]],
    .mk errorKind [] 6 true false [.mk "\x7d" [] 6 false false []]]

theorem first_error_told_brokenClass :
    brokenClass.Flagged ∧ brokenClass.Erroneous ∧
      ∃ address n, brokenClass.IsFirstError address n ∧ 5 = n.row + 1 := by
  have hflagged : brokenClass.Flagged := by
    simp [brokenClass, flagged_mk, hasError, errorKind]
  have hline : brokenClass.firstErrorLine = some 5 := by decide
  obtain ⟨hnone, hsome⟩ := first_error_told hflagged
  refine ⟨hflagged, ?_, (hsome 5).mp hline⟩
  by_contra hclean
  rw [hnone.mpr hclean] at hline
  cases hline

end UnitForge.Java.Node
