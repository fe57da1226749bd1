import UnitForge.Proofs.DiskGrowth
import UnitForge.Proofs.TreeOrder

set_option autoImplicit false

/-!
# Trees listed in another order

Two trees may differ in nothing but the order in which their directories list their entries. Then
the same stands at every place, directories aside, and every path leads to the same place.

## Main definitions

* `UnitForge.Entry.Reordered` — trees that differ at most in the order of entries.
* `UnitForge.Disk.Reordered` — disks that do.
* `UnitForge.Disk.through` — what stands at a place, or what a link there leads to.

## Main results

* `UnitForge.Entry.Reordered.get?` — what stands at a place of both trees.
* `UnitForge.Disk.Reordered.resolve_of_directory` — where a path to a directory leads on both disks.
* `UnitForge.Disk.Reordered.through` — what links lead to on both disks.
-/

namespace UnitForge

namespace Entry

mutual

/-- Two trees differ at most in the order in which directories list their entries. -/
inductive Reordered : Entry → Entry → Prop where
  /-- A file is the same in both. -/
  | file (content : List UInt8) : Reordered (.file content) (.file content)
  /-- A link is the same in both. -/
  | link (target : Text) : Reordered (.link target) (.link target)
  /-- A directory lists entries that differ as trees do, perhaps in another order. -/
  | directory {entries inner entries' : List (Text × Entry)} : Relisted entries inner →
      inner.Perm entries' → Reordered (.directory entries) (.directory entries')

/-- Two lists have the same names, with trees that differ at most in the order of entries. -/
inductive Relisted : List (Text × Entry) → List (Text × Entry) → Prop where
  /-- There are no entries. -/
  | nil : Relisted [] []
  /-- The first entries differ as trees do, and so do the others. -/
  | cons {name : Text} {e e' : Entry} {rest rest' : List (Text × Entry)} : Reordered e e' →
      Relisted rest rest' → Relisted ((name, e) :: rest) ((name, e') :: rest')

end

variable {e e' : Entry} {entries inner : List (Text × Entry)} {x y : Option Entry}

/-- The entries of a tree may be in the same order. -/
lemma Reordered.refl (e : Entry) : Reordered e e := by
  induction e using Entry.induction with
  | file content => exact .file content
  | link target => exact .link target
  | directory entries ih =>
    have hrelisted : Relisted entries entries := by
      induction entries with
      | nil => exact .nil
      | cons entry entries ihrest =>
        obtain ⟨name, e⟩ := entry
        exact .cons (ih name e List.mem_cons_self)
          (ihrest fun name e hmem => ih name e (List.mem_cons_of_mem _ hmem))
    exact .directory hrelisted (.refl entries)

/-- A directory may list the same entries in another order. -/
lemma Reordered.of_perm {entries' : List (Text × Entry)} (h : entries.Perm entries') :
    Reordered (.directory entries) (.directory entries') := by
  cases Reordered.refl (.directory entries) with
  | directory hlisted hperm => exact .directory hlisted (hperm.trans h)

/-- Entries that differ as trees do have the same names. -/
lemma Relisted.keys_eq (h : Relisted entries inner) : Keyed.keys entries = Keyed.keys inner := by
  induction entries generalizing inner with
  | nil =>
    cases h
    rfl
  | cons entry entries ih =>
    cases h with
    | cons hentry hrest =>
      rw [Keyed.keys, Keyed.keys, List.map_cons, List.map_cons, ← Keyed.keys, ← Keyed.keys,
        ih hrest]

/-- Under each name stand trees that differ at most in the order of entries. -/
lemma Relisted.get? (h : Relisted entries inner) (name : Text) :
    Option.Rel Reordered (Keyed.get? entries name) (Keyed.get? inner name) := by
  induction entries generalizing inner with
  | nil =>
    cases h
    exact .none
  | cons entry entries ih =>
    cases h with
    | @cons other e e' rest rest' hentry hrest =>
      have hlater := ih hrest
      rw [Keyed.get?, Keyed.get?] at hlater ⊢
      by_cases hname : other = name
      · rw [List.find?_cons_of_pos (by simpa using hname),
          List.find?_cons_of_pos (by simpa using hname)]
        exact .some hentry
      · rw [List.find?_cons_of_neg (by simpa using hname),
          List.find?_cons_of_neg (by simpa using hname)]
        exact hlater

/-- Under each name of two directories stand trees that differ at most in the order of entries. -/
lemma Reordered.child? (h : Reordered e e') (hdistinct : e.Distinct) (name : Text) :
    Option.Rel Reordered (e.child? name) (e'.child? name) := by
  cases h with
  | file content => exact .none
  | link target => exact .none
  | directory hlisted hperm =>
    have hnodup := hdistinct.nodup
    rw [hlisted.keys_eq] at hnodup
    rw [child?_directory, child?_directory, ← Keyed.get?_eq_of_perm hperm hnodup]
    exact hlisted.get? name

/-- **At each place of two trees stand trees that differ at most in the order of entries**, or
nothing in both. -/
theorem Reordered.get? (h : Reordered e e') (hdistinct : e.Distinct) (names : List Text) :
    Option.Rel Reordered (e.get? names) (e'.get? names) := by
  induction names generalizing e e' with
  | nil => exact .some h
  | cons name names ih =>
    have hchild := h.child? hdistinct name
    rw [get?_cons, get?_cons]
    cases hx : e.child? name with
    | none =>
      rw [hx] at hchild
      cases hy : e'.child? name with
      | none => exact .none
      | some child' =>
        rw [hy] at hchild
        cases hchild
    | some child =>
      rw [hx] at hchild
      cases hy : e'.child? name with
      | none =>
        rw [hy] at hchild
        cases hchild
      | some child' =>
        rw [hy] at hchild
        cases hchild with
        | some hrest =>
          have hget : e.get? [name] = some child := by rw [get?_cons, hx]; rfl
          exact ih hrest (hdistinct.of_get? hget)

/-- If no directory of a tree lists a name twice, neither does one of the other tree. -/
lemma Reordered.distinct (h : e.Reordered e') (hdistinct : e.Distinct) : e'.Distinct := by
  intro names entries' hentries'
  have hhere := h.get? hdistinct names
  rw [hentries'] at hhere
  generalize hx : e.get? names = x at hhere
  cases hhere with
  | some htrees =>
    cases htrees with
    | directory hlisted hperm =>
      have hnodup := hdistinct names _ hx
      rw [hlisted.keys_eq] at hnodup
      exact (Keyed.perm_keys hperm).nodup_iff.mp hnodup

/-- What stands at a place of both trees is the same, or a directory in both. -/
lemma growth_of_rel (h : Option.Rel Reordered x y) : Growth False x y ∧ Growth False y x := by
  cases h with
  | none => exact ⟨.same _, .same _⟩
  | some htrees =>
    cases htrees with
    | file => exact ⟨.same _, .same _⟩
    | link => exact ⟨.same _, .same _⟩
    | directory => exact ⟨.directory _ _, .directory _ _⟩

/-- Each of two trees has grown to the other, without anything new in it. -/
lemma Reordered.grows (h : Reordered e e') (hdistinct : e.Distinct) :
    Grows [] e e' ∧ Grows [] e' e :=
  ⟨fun names => (growth_of_rel (h.get? hdistinct names)).1.mono False.elim,
    fun names => (growth_of_rel (h.get? hdistinct names)).2.mono False.elim⟩

end Entry

namespace Disk

variable {d d' : Disk} {path : Path} {top : List Text} {directory : List Text} {name : Text}

/-- Two disks differ at most in the order in which directories list their entries. -/
structure Reordered (d d' : Disk) : Prop where
  /-- The trees differ in no other way. -/
  tree : d.root.Reordered d'.root
  /-- The working directory is the same. -/
  workingDirectory : d'.workingDirectory = d.workingDirectory

/-- What stands at a place of a directory, or, if that is a link, what the link leads to. -/
def through (d : Disk) (directory : List Text) (name : Text) : Option Entry :=
  match d.root.get? (directory ++ [name]) with
  | some (.link _) =>
    match walk d.root true maxLinks directory [name] with
    | .ok place => place.entry
    | .error _ => none
  | x => x

/-- A path leads to a directory if the place that it leads to is one. -/
lemma isDirectory_eq_true :
    d.isDirectory path = true ↔
      ∃ top entries, d.resolve true path = .ok ⟨top, some (.directory entries)⟩ := by
  rw [isDirectory, find?]
  constructor
  · intro h
    cases hplace : d.resolve true path with
    | error fault => simp [hplace] at h
    | ok place =>
      obtain ⟨top, _ | x⟩ := place
      · simp [hplace] at h
      · cases x with
        | directory entries => exact ⟨top, entries, rfl⟩
        | file content => simp [hplace] at h
        | link target => simp [hplace] at h
  · rintro ⟨top, entries, hplace⟩
    rw [hplace]

namespace Reordered

/-- Each of two disks has grown to the other, without anything new on it. -/
lemma grows (h : d.Reordered d') (hdistinct : d.root.Distinct) : Grows [] d d' ∧ Grows [] d' d :=
  ⟨⟨(h.tree.grows hdistinct).1, h.workingDirectory⟩,
    ⟨(h.tree.grows hdistinct).2, h.workingDirectory.symm⟩⟩

/-- A path that leads to a directory leads to one at the same place on both disks. -/
lemma resolve_of_directory (h : Grows [] d d') {entries : List (Text × Entry)}
    (hplace : d.resolve true path = .ok ⟨top, some (.directory entries)⟩) :
    ∃ entries', d'.resolve true path = .ok ⟨top, some (.directory entries')⟩ := by
  have hentry : d.root.get? top = some (.directory entries) :=
    (walk_eq_ok_iff.mp hplace).entry_eq.symm
  obtain ⟨entries', hentries'⟩ := h.tree.hasDirectory ⟨entries, hentry⟩
  exact ⟨entries', by rw [h.resolve hplace, hentries']⟩

/-- A path leads to a directory on both disks, or on none. -/
lemma isDirectory_eq (h : d.Reordered d') (hdistinct : d.root.Distinct) (path : Path) :
    d'.isDirectory path = d.isDirectory path := by
  obtain ⟨hgrows, hgrows'⟩ := h.grows hdistinct
  rw [Bool.eq_iff_iff, isDirectory_eq_true, isDirectory_eq_true]
  constructor
  · rintro ⟨top, entries, hplace⟩
    exact ⟨top, resolve_of_directory hgrows' hplace⟩
  · rintro ⟨top, entries, hplace⟩
    exact ⟨top, resolve_of_directory hgrows hplace⟩

/-- **Links lead to trees that differ at most in the order of entries**, or to nothing on both
disks. -/
theorem through (h : d.Reordered d') (hdistinct : d.root.Distinct) (directory : List Text)
    (name : Text) :
    Option.Rel Entry.Reordered (d.through directory name) (d'.through directory name) := by
  obtain ⟨hgrows, hgrows'⟩ := h.grows hdistinct
  have hplace (names : List Text) :
      Option.Rel Entry.Reordered (d.root.get? names) (d'.root.get? names) :=
    h.tree.get? hdistinct names
  have hhere := hplace (directory ++ [name])
  rw [Disk.through, Disk.through]
  generalize d.root.get? (directory ++ [name]) = x at hhere
  generalize d'.root.get? (directory ++ [name]) = y at hhere
  cases hhere with
  | none => exact .none
  | some htrees =>
    cases htrees with
    | file content => exact .some (.file content)
    | directory hlisted hperm => exact .some (.directory hlisted hperm)
    | link target =>
      dsimp only
      cases hwalk : walk d.root true maxLinks directory [name] with
      | ok place =>
        have hwalk' := walk_eq_ok_iff.mpr ((walk_eq_ok_iff.mp hwalk).grows hgrows.tree)
        rw [hwalk']
        dsimp only
        rw [(walk_eq_ok_iff.mp hwalk).entry_eq]
        exact hplace place.names
      | error fault =>
        cases hwalk' : walk d'.root true maxLinks directory [name] with
        | error fault' => exact .none
        | ok place =>
          have hback := walk_eq_ok_iff.mpr ((walk_eq_ok_iff.mp hwalk').grows hgrows'.tree)
          rw [hwalk] at hback
          cases hback

end Reordered

end Disk

end UnitForge
