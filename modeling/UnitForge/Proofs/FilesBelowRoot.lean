import UnitForge.Proofs.DistinctTargets

set_option autoImplicit false

/-!
# Files below the output directory

The file of a type is found by descending from the output directory along the segments of its name.
Each segment is read as a path of its own there, so the file lies below the output directory with
one component for each segment only as long as no segment holds a slash. The segment `a/b` makes two
components, and one that starts with a slash leads out of the output directory: names as `a/b:Foo`
and `/tmp:Foo` are accepted all the same.

## Main definitions

* `UnitForge.QualifiedName.Rooted` — some segment of a name starts with a slash.
* `UnitForge.DirectoryStore.trail` — the names along which the file of a type is found.

## Main results

* `UnitForge.Path.descend_of_relative`, `UnitForge.Path.descend_of_rooted` — descending along names
  none of which, or one of which, starts with a slash.
* `UnitForge.DirectoryStore.pathFor_eq_iff` — which types have one component for each segment.
* `UnitForge.DirectoryStore.pathFor_of_relative`, `UnitForge.DirectoryStore.pathFor_of_rooted` —
  which types have their files below the output directory.
* `UnitForge.DirectoryStore.file_below_root` — what file is opened for a name that is accepted.
* `UnitForge.DirectoryStore.file_strays` — names whose files are elsewhere.
-/

namespace UnitForge

namespace Text

variable {sep : Char} {front back part : Text}

/-- A segment of a text with another in front of it is a segment of the text alone, if it is not
empty and shares no character with the text in front. -/
lemma mem_split_of_disjoint (hne : part ≠ []) (hfront : part.Disjoint front)
    (h : part ∈ split sep (front ++ back)) : part ∈ split sep back := by
  induction front with
  | nil => exact h
  | cons c front ih =>
    rw [List.disjoint_cons_right] at hfront
    rw [List.cons_append, split] at h
    split at h
    · exact ih hfront.2 (List.mem_of_ne_of_mem hne h)
    · cases hs : split sep (front ++ back) with
      | nil => exact absurd hs (split_ne_nil sep _)
      | cons first others =>
        rw [hs] at h ih
        have hfirst : part ≠ c :: first := fun e => hfront.1 (e ▸ List.mem_cons_self)
        exact ih hfront.2 (List.mem_cons_of_mem first (List.mem_of_ne_of_mem hfirst h))

end Text

namespace Path

variable {p q : Path} {names : List Text} {name part text : Text}

/-- A path does not start at the working directory exactly if its text starts with a slash. -/
lemma isAbsolute_parse : (parse text).isAbsolute = true ↔ text.head? = some '/' := by
  constructor
  · intro h
    by_contra hslash
    rw [isAbsolute, parse, anchorOf_eq_nil hslash] at h
    exact Bool.false_ne_true h
  · intro h
    obtain ⟨rest, rfl⟩ := List.head?_eq_some_iff.mp h
    rw [isAbsolute, parse, anchorOf.eq_def]
    split <;> simp_all

/-- No component of a path that is read holds a slash. -/
lemma slash_not_mem_part (h : part ∈ (parse text).parts) : '/' ∉ part :=
  Text.sep_not_mem_of_mem_split (List.mem_of_mem_filter h)

/-- Descending along a name and then along others. -/
lemma descend_cons (p : Path) (name : Text) (names : List Text) :
    p.descend (name :: names) = (p.append (parse name)).descend names := rfl

/-- Descending along names none of which starts with a slash adds their components. -/
lemma descend_of_relative (h : ∀ name ∈ names, name.head? ≠ some '/') (p : Path) :
    p.descend names =
      { p with parts := p.parts ++ names.flatMap fun name => (parse name).parts } := by
  induction names generalizing p with
  | nil => rw [descend, List.foldl_nil, List.flatMap_nil, List.append_nil]
  | cons name names ih =>
    obtain ⟨hname, hnames⟩ := List.forall_mem_cons.mp h
    rw [descend_cons, append, if_neg (mt isAbsolute_parse.mp hname), ih hnames, List.flatMap_cons,
      List.append_assoc]

/-- Where descending along names leads does not depend on where it starts if one of them starts
with a slash. -/
lemma descend_of_rooted (h : ∃ name ∈ names, name.head? = some '/') (p q : Path) :
    p.descend names = q.descend names := by
  induction names generalizing p q with
  | nil =>
    obtain ⟨name, hname, -⟩ := h
    exact absurd hname List.not_mem_nil
  | cons name names ih =>
    rw [descend_cons, descend_cons]
    by_cases hname : name.head? = some '/'
    · rw [append, append, if_pos (isAbsolute_parse.mpr hname), if_pos (isAbsolute_parse.mpr hname)]
    · obtain ⟨other, hother, hslash⟩ := h
      refine ih ⟨other, ?_, hslash⟩ _ _
      rcases List.mem_cons.mp hother with rfl | hmem
      · exact absurd hslash hname
      · exact hmem

/-- Descending along names leads away from the working directory if one of them starts with a
slash. -/
lemma isAbsolute_descend (h : p.isAbsolute = true ∨ ∃ name ∈ names, name.head? = some '/') :
    (p.descend names).isAbsolute = true := by
  induction names generalizing p with
  | nil => simpa [descend] using h
  | cons name names ih =>
    rw [descend_cons]
    refine ih ?_
    by_cases hname : name.head? = some '/'
    · have habsolute : (parse name).isAbsolute = true := isAbsolute_parse.mpr hname
      rw [append, if_pos habsolute]
      exact .inl habsolute
    · rw [append, if_neg (mt isAbsolute_parse.mp hname)]
      rcases h with hp | ⟨other, hother, hslash⟩
      · exact .inl hp
      · rcases List.mem_cons.mp hother with rfl | hmem
        · exact absurd hslash hname
        · exact .inr ⟨other, hmem, hslash⟩

/-- Descending from a path without slashes in its components leads to one without. -/
lemma slash_not_mem_descend (hp : ∀ part ∈ p.parts, '/' ∉ part) :
    ∀ part ∈ (p.descend names).parts, '/' ∉ part := by
  induction names generalizing p with
  | nil => exact hp
  | cons name names ih =>
    rw [descend_cons]
    refine ih fun part hpart => ?_
    rw [append] at hpart
    split at hpart
    · exact slash_not_mem_part hpart
    · rcases List.mem_append.mp hpart with hpart | hpart
      · exact hp part hpart
      · exact slash_not_mem_part hpart

/-- Names along which descending adds just themselves as components have no slashes. -/
lemma slash_not_mem_of_descend (h : p.descend names = { p with parts := p.parts ++ names }) :
    ∀ name ∈ names, '/' ∉ name := by
  intro name hname
  by_cases hrooted : ∃ name ∈ names, name.head? = some '/'
  · -- it does not matter where the descent starts: at the working directory there is no component
    have hparts : (descend ⟨[], []⟩ names).parts = p.parts ++ names := by
      rw [descend_of_rooted hrooted ⟨[], []⟩ p, h]
    have hfree := @slash_not_mem_descend ⟨[], []⟩ names fun part hpart =>
      absurd hpart List.not_mem_nil
    rw [hparts] at hfree
    exact hfree name (List.mem_append_right _ hname)
  · push Not at hrooted
    rw [descend_of_relative hrooted] at h
    have hparts := List.append_cancel_left (Path.mk.inj h).2
    rw [← hparts, List.mem_flatMap] at hname
    obtain ⟨source, -, hmem⟩ := hname
    exact slash_not_mem_part hmem

/-- Descending along names none of which starts with a slash leads below the start, along segments
of the names. -/
lemma exists_parts_of_relative (h : ∀ name ∈ names, name.head? ≠ some '/') (p : Path) :
    ∃ parts, p.descend names = { p with parts := p.parts ++ parts } ∧
      ∀ part ∈ parts, ∃ name ∈ names, part ∈ Text.split '/' name := by
  refine ⟨_, descend_of_relative h p, fun part hpart => ?_⟩
  obtain ⟨name, hname, hmem⟩ := List.mem_flatMap.mp hpart
  exact ⟨name, hname, List.mem_of_mem_filter hmem⟩

end Path

namespace QualifiedName

/-- Some segment of a name starts with a slash. -/
def Rooted (n : QualifiedName) : Prop :=
  ∃ segment ∈ n.package ++ n.simpleNames, segment.head? = some '/'

end QualifiedName

namespace DirectoryStore

variable {s t : DirectoryStore} {n : QualifiedName} {name : Text} {originating : Value}
  {sink : SinkId}

/-! ## The file of a type -/

/-- The names along which the file of a type is found. -/
def trail (s : DirectoryStore) (n : QualifiedName) : List Text :=
  n.package ++ [n.simpleName ++ s.extension]

/-- Some name on the way to the file of a type starts with a slash exactly if a segment does. -/
lemma rooted_iff (htop : n.isTopLevel = true) :
    (∃ name ∈ s.trail n, name.head? = some '/') ↔ n.Rooted := by
  have hne : n.simpleName ≠ [] :=
    n.segments_ne_nil _ (List.mem_append_right _ n.simpleName_mem)
  rw [QualifiedName.Rooted, trail, QualifiedName.simpleNames_of_isTopLevel htop]
  simp only [List.mem_append, List.mem_singleton, or_and_right, exists_or, exists_eq_left,
    List.head?_append_of_ne_nil _ hne]

/-- **Which types have a component for each segment**: those whose segments have no slashes, if the
extension has none either. -/
theorem pathFor_eq_iff (hdot : ∀ segment ∈ n.package ++ n.simpleNames, '.' ∉ segment)
    (htop : n.isTopLevel = true) :
    s.pathFor n = { s.root with parts := s.root.parts ++ s.trail n } ↔
      n.Slashless ∧ '/' ∉ s.extension := by
  constructor
  · intro h
    have hslash := Path.slash_not_mem_of_descend h
    have hlast := hslash (n.simpleName ++ s.extension)
      (List.mem_append_right _ (List.mem_singleton_self _))
    rw [List.mem_append, not_or] at hlast
    refine ⟨fun segment hs => ?_, hlast.2⟩
    rw [QualifiedName.simpleNames_of_isTopLevel htop] at hs
    rcases List.mem_append.mp hs with hs | hs
    · exact hslash segment (List.mem_append_left _ hs)
    · rw [List.mem_singleton.mp hs]
      exact hlast.1
  · rintro ⟨hslash, hextension⟩
    rw [pathFor_parts hdot hslash, trail]
    simp [Text.split_of_not_mem hextension]

/-- **The file of a type is below the output directory** if no segment of its name starts with a
slash, and no component of it leads up if the extension does not lead up. -/
theorem pathFor_of_relative (hdot : ∀ segment ∈ n.package ++ n.simpleNames, '.' ∉ segment)
    (htop : n.isTopLevel = true) (h : ¬ n.Rooted) :
    ∃ parts, s.pathFor n = { s.root with parts := s.root.parts ++ parts } ∧
      (['.', '.'] ∉ Text.split '/' s.extension → ['.', '.'] ∉ parts) := by
  rw [← rooted_iff (s := s) htop] at h
  push Not at h
  obtain ⟨parts, hpath, hparts⟩ := Path.exists_parts_of_relative h s.root
  refine ⟨parts, hpath, fun hextension hup => ?_⟩
  have hdisjoint {segment : Text} (hs : segment ∈ n.package ++ n.simpleNames) :
      List.Disjoint ['.', '.'] segment := by
    have hfree := hdot segment hs
    simp [List.disjoint_cons_left, hfree]
  obtain ⟨name, hname, hmem⟩ := hparts _ hup
  rcases List.mem_append.mp hname with hname | hname
  · rw [← List.append_nil name] at hmem
    have hnone := Text.mem_split_of_disjoint (by simp)
      (hdisjoint (List.mem_append_left _ hname)) hmem
    simp [Text.split] at hnone
  · rw [List.mem_singleton.mp hname] at hmem
    exact hextension (Text.mem_split_of_disjoint (by simp)
      (hdisjoint (List.mem_append_right _ n.simpleName_mem)) hmem)

/-- **The file of a type is somewhere else**, and in the same place whatever the output directory
is, if a segment of its name starts with a slash. -/
theorem pathFor_of_rooted (htop : n.isTopLevel = true) (h : n.Rooted) :
    (s.pathFor n).isAbsolute = true ∧
      ∀ t : DirectoryStore, t.extension = s.extension → t.pathFor n = s.pathFor n := by
  rw [← rooted_iff (s := s) htop] at h
  refine ⟨Path.isAbsolute_descend (.inr h), fun t hextension => ?_⟩
  rw [pathFor, pathFor, hextension]
  exact Path.descend_of_rooted h t.root s.root

/-! ## The file of a target -/

/-- **What file is opened for a name that is accepted.** The name is read as a type that is not
nested, and the file opened, which is the one recorded, is the file of that type. It has the
components of the output directory, one for each segment of the package, and one for the type,
exactly if there are no slashes in the segments and the extension. It is below the output directory
if no segment starts with a slash, and no component leads up from there unless the extension does;
and if a segment starts with a slash, the file is found from the top of the tree, and in the same
place for every output directory.

**Proof sketch.** A creation that ends with a sink opens the file of the type that the name is read
as (`creation_create`), and no segment of a name that is read holds a dot (`parse_eq_ok_iff`). What
remains is a fact about descending along the segments (`pathFor_eq_iff`, `pathFor_of_relative`,
`pathFor_of_rooted`). -/
theorem file_below_root (h : s.create name originating = (.ok sink, t)) :
    ∃ n names, QualifiedName.parse name = .ok n ∧ n.isTopLevel = true ∧
      s.disk.Opens (s.pathFor n) t.disk names ∧
      t.sinks = s.sinks ++ [({ names } : FileSink)] ∧
      t.created = s.created ++ [(name, s.pathFor n)] ∧
      (s.pathFor n =
          { s.root with
            parts := s.root.parts ++ (n.package ++ [n.simpleName ++ s.extension]) } ↔
        n.Slashless ∧ '/' ∉ s.extension) ∧
      (¬ n.Rooted → ∃ parts, s.pathFor n = { s.root with parts := s.root.parts ++ parts } ∧
        (['.', '.'] ∉ Text.split '/' s.extension → ['.', '.'] ∉ parts)) ∧
      (n.Rooted → (s.pathFor n).isAbsolute = true ∧
        ∀ u : DirectoryStore, u.extension = s.extension → u.pathFor n = s.pathFor n) := by
  have hcreation := s.creation_create name originating
  rw [h] at hcreation
  cases hcreation with
  | @opened n disk names hnew htarget hopens =>
    obtain ⟨hread, htop⟩ := checkTarget_eq_ok_iff.mp htarget
    have hdot := (QualifiedName.parse_eq_ok_iff.mp hread).1
    exact ⟨n, names, hread, htop, hopens, rfl, rfl, pathFor_eq_iff hdot htop,
      pathFor_of_relative hdot htop, pathFor_of_rooted htop⟩

/-- A type of a package is opened below the output directory, with a component for each segment. -/
theorem file_below_root_foo :
    ∃ sink t, blankStore.create (Text.lit "com.x.Foo") .absent = (.ok sink, t) ∧
      ∃ n names, QualifiedName.parse (Text.lit "com.x.Foo") = .ok n ∧
        blankStore.disk.Opens (blankStore.pathFor n) t.disk names ∧
        blankStore.pathFor n =
          { blankStore.root with
            parts := blankStore.root.parts ++
              (n.package ++ [n.simpleName ++ blankStore.extension]) } := by
  have hcreate : blankStore.create (Text.lit "com.x.Foo") .absent =
      (.ok 0, (blankStore.create (Text.lit "com.x.Foo") .absent).2) := by
    refine Prod.ext ?_ rfl
    cbv
  obtain ⟨n, names, hread, -, hopens, -, -, hexact, -⟩ := file_below_root hcreate
  refine ⟨_, _, hcreate, n, names, hread, hopens, hexact.mpr ⟨?_, by decide⟩⟩
  exact QualifiedName.slashless_of_parse hread (by decide)

/-- A name with a slash in it is accepted, and its file has one component more than the name has
segments; one that starts with a slash is accepted too, and its file is not below the output
directory. -/
theorem file_strays :
    ((blankStore.create (Text.lit "a/b:Foo") .absent).1.isOk = true ∧
        (QualifiedName.parse (Text.lit "a/b:Foo")).map (fun n => (n.package, n.simpleNames)) =
          .ok ([Text.lit "a/b"], [Text.lit "Foo"]) ∧
        (blankStore.create (Text.lit "a/b:Foo") .absent).2.created.map (·.2.parts) =
          [[Text.lit "out", Text.lit "a", Text.lit "b", Text.lit "Foo.java"]]) ∧
      (blankStore.create (Text.lit "/tmp:Foo") .absent).1.isOk = true ∧
        (blankStore.create (Text.lit "/tmp:Foo") .absent).2.created.map (·.2) =
          [⟨['/'], [Text.lit "tmp", Text.lit "Foo.java"]⟩] ∧
        ¬ blankStore.root.parts <+: [Text.lit "tmp", Text.lit "Foo.java"] := by
  refine ⟨⟨?_, ?_, ?_⟩, ?_, ?_, by decide⟩
  all_goals cbv

end DirectoryStore

end UnitForge
