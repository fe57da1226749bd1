import Mathlib
import UnitForge.Proofs.ReorderedTrees
import UnitForge.Proofs.ScanSites
import UnitForge.Proofs.Segments

set_option autoImplicit false

/-!
# The files that a scan finds

A scan finds, below each root that is a directory, exactly the files that its plan asks for, each
of them once and in a fixed order that does not depend on how directories list their entries. It
records the path of a file with slashes for backslashes. So a file with a backslash in its name, or
in that of a directory, is recorded under the path of another file, which may be none or one that is
ignored; all other files are recorded under their own paths.

## Main definitions

* `UnitForge.Scan.Wanted` — the files below a root that a plan asks for.
* `UnitForge.Scan.record` — what is recorded of a file.
* `UnitForge.Scan.filesUnder` — the files found below one root.

## Main results

* `UnitForge.Scan.filesUnder_eq` — what is found below a root that is a directory.
* `UnitForge.Scan.scan_finds` — what is found below all roots, and under which paths.
-/

namespace UnitForge.Scan

variable {d d' : Disk} {plan : ScanPlan} {root : Text} {top : List Text} {p : Site}

/-! ## What is asked for -/

/-- The number of bytes of what a name in a directory leads to; zero if that is no file. -/
def sizeAt (d : Disk) (directory : List Text) (name : Text) : Nat :=
  match d.through directory name with
  | some (.file content) => content.length
  | _ => 0

/-- A site below the root at `top` is one of the files that a plan asks for. -/
structure Wanted (d : Disk) (plan : ScanPlan) (top : List Text) (p : Site) : Prop where
  /-- Something stands there. -/
  stands : ∃ e, d.root.get? (top ++ p.names) = some e
  /-- It is no directory and no link to one. -/
  notDirectory : ∀ entries, d.through (top ++ p.below) p.name ≠ some (.directory entries)
  /-- Neither its name nor that of a directory on the way is ignored. -/
  passes : ∀ name ∈ p.names, isIgnored (defaultIgnored ++ plan.excluded) name = false
  /-- Its extension is that of a known language. -/
  language : (languageOfPath p.name).isSome
  /-- It is not too large. -/
  size : (sizeAt d (top ++ p.below) p.name : Int) ≤ plan.maxFileSize

/-- What is recorded of the file at a site below a root at `top`. -/
def record (d : Disk) (root : Text) (top : List Text) (p : Site) : SourceFile where
  path := Text.replaceChar '\\' ['/'] (Text.join ['/'] p.names)
  root := (Path.parse root).toText
  language := (languageOfPath p.name).getD []
  size := sizeAt d (top ++ p.below) p.name

/-- The files found below one root. -/
def filesUnder (d : Disk) (plan : ScanPlan) (root : Text) : List SourceFile :=
  ((findingsUnder d plan root).getD []).filterMap Finding.file?

/-- The search below one root. -/
def searchAt (d : Disk) (plan : ScanPlan) (root : Text) (top : List Text) : Search where
  disk := d
  root := (Path.parse root).toText
  place := top
  ignored := isIgnored (defaultIgnored ++ plan.excluded)
  maxFileSize := plan.maxFileSize

/-! ## Single sites -/

/-- When a search finds a file in a directory, and which. -/
lemma file?_finding (s : Search) (below : List Text) (name : Text) (e : Entry) (file : SourceFile) :
    (s.finding? below name e).bind Finding.file? = some file ↔
      s.isDirectory below name e = false ∧ s.ignored name = false ∧
        (languageOfPath name).isSome ∧ (s.size below name e : Int) ≤ s.maxFileSize ∧
        file = ⟨Text.replaceChar '\\' ['/'] (Text.join ['/'] (below ++ [name])), s.root,
          (languageOfPath name).getD [], s.size below name e⟩ := by
  rw [Search.finding?]
  cases hdirectory : s.isDirectory below name e with
  | true => simp
  | false =>
    cases hignored : s.ignored name with
    | true => simp
    | false =>
      cases hlanguage : languageOfPath name with
      | none => simp
      | some language =>
        by_cases hsize : s.maxFileSize < s.size below name e
        · simp [hsize, Finding.file?]
        · simp [hsize, Finding.file?, eq_comm, Int.not_lt.mp hsize]

section Site

variable {e : Entry} (hstands : d.root.get? (top ++ p.names) = some e)

include hstands

/-- A search sees a directory where one stands, or a link to one. -/
lemma isDirectory_searchAt :
    (searchAt d plan root top).isDirectory p.below p.name e.sorted = false ↔
      ∀ entries, d.through (top ++ p.below) p.name ≠ some (.directory entries) := by
  rw [Site.names, ← List.append_assoc] at hstands
  rw [Search.isDirectory, Disk.through, hstands]
  cases e with
  | file content => exact iff_of_true rfl (by rintro _ ⟨⟩)
  | directory entries => exact iff_of_false Bool.false_ne_true.symm fun h => h entries rfl
  | link target =>
    rw [Entry.sorted, Search.target?, searchAt]
    dsimp only
    split
    next entries hentries =>
      exact iff_of_false Bool.false_ne_true.symm fun h => h entries hentries
    next hother => exact iff_of_true rfl hother

/-- A search takes the size of a file that stands at a site, or that a link there leads to. -/
lemma size_searchAt :
    (searchAt d plan root top).size p.below p.name e.sorted = sizeAt d (top ++ p.below) p.name := by
  rw [Site.names, ← List.append_assoc] at hstands
  rw [Search.size, sizeAt, Disk.through, hstands]
  cases e with
  | file content => rfl
  | directory entries => rfl
  | link target => rfl

/-- A search finds the file at a site that it comes to if the plan asks for it. -/
lemma file?_finding_searchAt (hbelow : ∀ name ∈ p.below,
      isIgnored (defaultIgnored ++ plan.excluded) name = false) (file : SourceFile) :
    ((searchAt d plan root top).finding? p.below p.name e.sorted).bind Finding.file? = some file ↔
      Wanted d plan top p ∧ file = record d root top p := by
  rw [file?_finding, isDirectory_searchAt hstands, size_searchAt hstands]
  constructor
  · rintro ⟨hdirectory, hignored, hlanguage, hsize, rfl⟩
    have hpasses : ∀ name ∈ p.names, isIgnored (defaultIgnored ++ plan.excluded) name = false := by
      rw [Site.names, List.forall_mem_append, List.forall_mem_singleton]
      exact ⟨hbelow, hignored⟩
    exact ⟨⟨⟨e, hstands⟩, hdirectory, hpasses, hlanguage, hsize⟩, rfl⟩
  · rintro ⟨hwanted, rfl⟩
    exact ⟨hwanted.notDirectory, hwanted.passes p.name (by simp [Site.names]), hwanted.language,
      hwanted.size, rfl⟩

end Site

/-! ## One root -/

section Root

variable {entries : List (Text × Entry)} (hdistinct : d.root.Distinct)
  (hroot : d.resolve true (Path.parse root) = .ok ⟨top, some (.directory entries)⟩)

include hdistinct hroot

/-- The sites that a search comes to. -/
lemma mem_sites_sorted {ignored : Text → Bool} {x : Entry} :
    (p, x) ∈ (Entry.directory entries).sorted.sites ignored [] ↔
      (∀ name ∈ p.below, ignored name = false) ∧
        ∃ e, d.root.get? (top ++ p.names) = some e ∧ e.sorted = x := by
  have hentry : d.root.get? top = some (.directory entries) :=
    (Disk.walk_eq_ok_iff.mp hroot).entry_eq.symm
  have htree : (Entry.directory entries).Distinct := hdistinct.of_get? hentry
  have hget (names : List Text) :
      d.root.get? (top ++ names) = (Entry.directory entries).get? names := by
    rw [Entry.get?_append, hentry, Option.bind_some]
  rw [Entry.mem_sites (Entry.ordered_sorted htree).distinct]
  constructor
  · rintro ⟨rest, hbelow, hrest, hx⟩
    rw [List.nil_append] at hbelow
    rw [← hbelow] at hrest hx
    rw [Entry.get?_sorted htree, ← Site.names, ← hget] at hx
    exact ⟨hrest, Option.map_eq_some_iff.mp hx⟩
  · rintro ⟨hrest, hx⟩
    refine ⟨p.below, (List.nil_append _).symm, hrest, ?_⟩
    rw [Entry.get?_sorted htree, ← Site.names, ← hget]
    exact Option.map_eq_some_iff.mpr hx

/-- **What is found below a root that is a directory**: the files that the plan asks for, in the
order of their sites. -/
theorem filesUnder_eq (plan : ScanPlan) :
    ∃ sites : List Site, sites.Pairwise Site.Before ∧ (∀ p, p ∈ sites ↔ Wanted d plan top p) ∧
      filesUnder d plan root = sites.map (record d root top) := by
  classical
  have hentry : d.root.get? top = some (.directory entries) :=
    (Disk.walk_eq_ok_iff.mp hroot).entry_eq.symm
  have htree : (Entry.directory entries).Distinct := hdistinct.of_get? hentry
  let found := (Entry.directory entries).sorted.sites
    (isIgnored (defaultIgnored ++ plan.excluded)) []
  have hfound : found.Pairwise fun a b => a.1.Before b.1 :=
    Entry.pairwise_sites (Entry.ordered_sorted htree)
  refine ⟨(found.filter (Wanted d plan top ·.1)).map (·.1), List.pairwise_map.mpr (hfound.filter _),
    fun p => ?_, ?_⟩
  · simp only [List.mem_map, List.mem_filter, decide_eq_true_eq]
    constructor
    · rintro ⟨⟨q, x⟩, ⟨-, hwanted⟩, rfl⟩
      exact hwanted
    · intro hwanted
      obtain ⟨e, he⟩ := hwanted.stands
      have hbelow : ∀ name ∈ p.below, isIgnored (defaultIgnored ++ plan.excluded) name = false :=
        fun name hname => hwanted.passes name (List.mem_append_left _ hname)
      have hp : (p, e.sorted) ∈ found :=
        (mem_sites_sorted hdistinct hroot).mpr ⟨hbelow, e, he, rfl⟩
      exact ⟨(p, e.sorted), ⟨hp, hwanted⟩, rfl⟩
  · have hfindings : findingsUnder d plan root =
        some ((searchAt d plan root top).findings [] (Entry.directory entries).sorted) := by
      rw [findingsUnder, hroot]
      rfl
    rw [filesUnder, hfindings, Option.getD_some, Search.findings_eq, List.filterMap_filterMap,
      List.map_map, ← List.filterMap_eq_map, List.filterMap_filter]
    refine List.filterMap_congr ?_
    rintro ⟨q, x⟩ hq
    obtain ⟨hbelow, e, he, rfl⟩ := (mem_sites_sorted hdistinct hroot).mp hq
    ext file
    rw [file?_finding_searchAt he hbelow]
    simp [eq_comm]

end Root

/-- Nothing is found below a root that is no directory. -/
lemma filesUnder_eq_nil (h : d.isDirectory (Path.parse root) = false) (plan : ScanPlan) :
    filesUnder d plan root = [] := by
  rw [filesUnder, findingsUnder]
  dsimp only
  split
  next top entries hroot =>
    rw [Disk.isDirectory_eq_true.mpr ⟨top, entries, hroot⟩] at h
    cases h
  next => rfl

/-! ## Recorded paths -/

/-- A text that another character replaces one in stays the same if that one does not occur. -/
lemma replaceChar_eq_self {c c' : Char} (hne : c' ≠ c) {text : Text} :
    Text.replaceChar c [c'] text = text ↔ c ∉ text := by
  induction text with
  | nil => simp [Text.replaceChar]
  | cons x text ih =>
    rw [Text.replaceChar] at ih
    rw [Text.replaceChar, List.flatMap_cons]
    by_cases hx : x = c
    · subst hx
      simp [hne]
    · simp [hx, ih, Ne.symm hx]

/-- **The path of a file is recorded** unless its name or that of a directory on the way holds a
backslash. -/
theorem path_record_eq (d : Disk) (root : Text) (top : List Text) (p : Site) :
    (record d root top p).path = Text.join ['/'] p.names ↔ ∀ name ∈ p.names, '\\' ∉ name := by
  rw [record, replaceChar_eq_self (by decide)]
  refine ⟨fun h name hname hc => h (Text.mem_join_of_mem hc hname), fun h hc => ?_⟩
  rcases Text.mem_join hc with hc | ⟨name, hname, hc⟩
  · exact absurd hc (by decide)
  · exact h name hname hc

/-- Different files have different paths if no name holds a slash or a backslash. -/
lemma nodup_paths {sites : List Site} (hsites : sites.Pairwise Site.Before)
    (hplain : ∀ p ∈ sites, ∀ name ∈ p.names, '/' ∉ name ∧ '\\' ∉ name) :
    ((sites.map (record d root top)).map (·.path)).Nodup := by
  rw [List.map_map]
  refine List.Nodup.map_on (fun p hp q hq hpath => ?_) (hsites.imp Site.Before.ne)
  have hpaths : Text.join ['/'] p.names = Text.join ['/'] q.names := by
    rw [← (path_record_eq d root top p).mpr fun name hname => (hplain p hp name hname).2,
      ← (path_record_eq d root top q).mpr fun name hname => (hplain q hq name hname).2]
    exact hpath
  have hsplit (p : Site) (hp : p ∈ sites) :
      Text.split '/' (Text.join ['/'] p.names) = p.names :=
    Text.split_join (by simp [Site.names]) fun name hname => (hplain p hp name hname).1
  exact Site.names_injective (by rw [← hsplit p hp, hpaths, hsplit q hq])

/-! ## Other listings -/

section Reordered

variable (hreordered : d.Reordered d') (hdistinct : d.root.Distinct)

include hreordered hdistinct

lemma sizeAt_eq (directory : List Text) (name : Text) :
    sizeAt d' directory name = sizeAt d directory name := by
  have hthrough := hreordered.through hdistinct directory name
  rw [sizeAt, sizeAt]
  generalize d.through directory name = x at hthrough
  generalize d'.through directory name = y at hthrough
  cases hthrough with
  | none => rfl
  | some htrees => cases htrees <;> rfl

lemma wanted_iff : Wanted d' plan top p ↔ Wanted d plan top p := by
  have hstands : (∃ e, d'.root.get? (top ++ p.names) = some e) ↔
      ∃ e, d.root.get? (top ++ p.names) = some e := by
    have hhere := hreordered.tree.get? hdistinct (top ++ p.names)
    generalize d.root.get? (top ++ p.names) = x at hhere
    generalize d'.root.get? (top ++ p.names) = y at hhere
    cases hhere <;> simp
  have hdirectory : (∀ entries, d'.through (top ++ p.below) p.name ≠ some (.directory entries)) ↔
      ∀ entries, d.through (top ++ p.below) p.name ≠ some (.directory entries) := by
    have hthrough := hreordered.through hdistinct (top ++ p.below) p.name
    generalize d.through (top ++ p.below) p.name = x at hthrough
    generalize d'.through (top ++ p.below) p.name = y at hthrough
    cases hthrough with
    | none => simp
    | some htrees => cases htrees <;> simp
  have hsize := sizeAt_eq hreordered hdistinct (top ++ p.below) p.name
  constructor
  · rintro ⟨h₁, h₂, h₃, h₄, h₅⟩
    exact ⟨hstands.mp h₁, hdirectory.mp h₂, h₃, h₄, hsize ▸ h₅⟩
  · rintro ⟨h₁, h₂, h₃, h₄, h₅⟩
    exact ⟨hstands.mpr h₁, hdirectory.mpr h₂, h₃, h₄, hsize.symm ▸ h₅⟩

/-- **The order in which directories list their entries does not matter.** -/
theorem filesUnder_reordered (plan : ScanPlan) (root : Text) :
    filesUnder d' plan root = filesUnder d plan root := by
  cases hdirectory : d.isDirectory (Path.parse root) with
  | false =>
    have hdirectory' := (hreordered.isDirectory_eq hdistinct (Path.parse root)).trans hdirectory
    rw [filesUnder_eq_nil hdirectory, filesUnder_eq_nil hdirectory']
  | true =>
    obtain ⟨top, entries, hroot⟩ := Disk.isDirectory_eq_true.mp hdirectory
    obtain ⟨entries', hroot'⟩ :=
      Disk.Reordered.resolve_of_directory (hreordered.grows hdistinct).1 hroot
    obtain ⟨sites, hsites, hmem, hfiles⟩ := filesUnder_eq hdistinct hroot plan
    obtain ⟨sites', hsites', hmem', hfiles'⟩ :=
      filesUnder_eq (hreordered.tree.distinct hdistinct) hroot' plan
    have hsame : sites' = sites := Site.eq_of_mem_iff hsites' hsites fun p => by
      rw [hmem, hmem', wanted_iff hreordered hdistinct]
    have hrecord : record d' root top = record d root top := by
      funext p
      rw [record, record, sizeAt_eq hreordered hdistinct]
    rw [hfiles, hfiles', hsame, hrecord]

end Reordered

/-! ## All roots -/

/-- **What a scan finds.** It finds something below those roots only that are directories, root by
root. Below such a root it finds exactly the files that the plan asks for, each of them once: in
each directory they come in ascending order, and then those of its subdirectories, in ascending
order too. The order in which directories list their entries does not matter. A file is recorded
under its path exactly if no name on the way to it holds a backslash; and if no name below a root
holds a slash or a backslash, no two files are recorded under one path.

**Proof sketch.** A search finds something site by site (`Search.findings_eq`), and the sites of the
tree with its entries in order come in order (`Entry.pairwise_sites`). As sites in order can be
listed in one way only, it is enough that another listing has the same sites. -/
theorem scan_finds (hdistinct : d.root.Distinct) (plan : ScanPlan) :
    discover d plan = plan.roots.flatMap (filesUnder d plan) ∧
    (∀ root, d.isDirectory (Path.parse root) = false → filesUnder d plan root = []) ∧
    (∀ root top entries,
      d.resolve true (Path.parse root) = .ok ⟨top, some (.directory entries)⟩ →
      ∃ sites : List Site, sites.Pairwise Site.Before ∧ (∀ p, p ∈ sites ↔ Wanted d plan top p) ∧
        filesUnder d plan root = sites.map (record d root top) ∧
        ((∀ p ∈ sites, ∀ name ∈ p.names, '/' ∉ name ∧ '\\' ∉ name) →
          ((filesUnder d plan root).map (·.path)).Nodup)) ∧
    (∀ root top p, (record d root top p).path = Text.join ['/'] p.names ↔
      ∀ name ∈ p.names, '\\' ∉ name) ∧
    ∀ d', d.Reordered d' → discover d' plan = discover d plan := by
  refine ⟨rfl, fun root h => filesUnder_eq_nil h plan, fun root top entries hroot => ?_,
    path_record_eq d, fun d' hreordered => ?_⟩
  · obtain ⟨sites, hsites, hmem, hfiles⟩ := filesUnder_eq hdistinct hroot plan
    exact ⟨sites, hsites, hmem, hfiles, fun hplain => hfiles ▸ nodup_paths hsites hplain⟩
  · have hroots : filesUnder d' plan = filesUnder d plan :=
      funext (filesUnder_reordered hreordered hdistinct plan)
    calc
      discover d' plan = plan.roots.flatMap (filesUnder d' plan) := rfl
      _ = plan.roots.flatMap (filesUnder d plan) := by rw [hroots]

/-- Files of which two hold a backslash in their names, each beside the file whose path it has if
the backslash is read as a slash. -/
def slashEntries : List (Text × Entry) :=
  [(Text.lit "target\\X.java", .file [1]),
    (Text.lit "target", .directory [(Text.lit "X.java", .file [2])]),
    (Text.lit "a\\b.java", .file [3]), (Text.lit "a", .directory [(Text.lit "b.java", .file [4])])]

/-- A disk with some files below the directory `src`. -/
def diskOf (entries : List (Text × Entry)) : Disk where
  root := .directory [(Text.lit "work", .directory [(Text.lit "src", .directory entries)])]
  workingDirectory := [Text.lit "work"]

lemma distinct_diskOf {entries : List (Text × Entry)} (h : (Entry.directory entries).Distinct) :
    (diskOf entries).root.Distinct := by
  simp only [diskOf, Entry.distinct_directory, List.forall_mem_singleton] at h ⊢
  exact ⟨List.nodup_singleton _, List.nodup_singleton _, h⟩

/-- The plan to look for the files below `src`. -/
def sourcePlan : ScanPlan := { roots := [Text.lit "src"] }

/-- The files are listed the other way round, and the same is found. -/
theorem scan_finds_slash :
    let d := diskOf slashEntries
    let d' := diskOf slashEntries.reverse
    let top := [Text.lit "work", Text.lit "src"]
    d.root.Distinct ∧ d.Reordered d' ∧ discover d' sourcePlan = discover d sourcePlan ∧
      ∃ sites : List Site, sites.Pairwise Site.Before ∧
        (∀ p, p ∈ sites ↔ Wanted d sourcePlan top p) ∧
        discover d sourcePlan = sites.map (record d (Text.lit "src") top) := by
  intro d d' top
  have hdistinct : d.root.Distinct := by
    refine distinct_diskOf (Entry.distinct_directory.mpr ⟨by decide, ?_⟩)
    simp [slashEntries, Entry.distinct_directory, Entry.distinct_file, Keyed.keys]
  have hreordered : d.Reordered d' := by
    have hsrc : (Entry.directory slashEntries).Reordered (.directory slashEntries.reverse) :=
      .of_perm (List.reverse_perm slashEntries).symm
    exact ⟨.directory (.cons (.directory (.cons hsrc .nil) (.refl _)) .nil) (.refl _), rfl⟩
  have hroot : d.resolve true (Path.parse (Text.lit "src")) =
      .ok ⟨top, some (.directory slashEntries)⟩ := by
    cbv
  obtain ⟨hroots, -, hfound, -, hsame⟩ := scan_finds hdistinct sourcePlan
  obtain ⟨sites, hsites, hmem, hfiles, -⟩ := hfound (Text.lit "src") top slashEntries hroot
  refine ⟨hdistinct, hreordered, hsame d' hreordered, sites, hsites, hmem, ?_⟩
  rw [hroots, sourcePlan, List.flatMap_singleton, ← hfiles, sourcePlan]

/-- A file with a backslash in its name is recorded under the path of another file, so that this
path is recorded twice; and so is one whose path becomes that of an ignored file. -/
theorem slash_misread :
    let d := diskOf slashEntries
    d.root.get? [Text.lit "work", Text.lit "src", Text.lit "a\\b.java"] = some (.file [3]) ∧
      discover d sourcePlan =
        [⟨Text.lit "a/b.java", Text.lit "src", Text.lit "java", 1⟩,
          ⟨Text.lit "target/X.java", Text.lit "src", Text.lit "java", 1⟩,
          ⟨Text.lit "a/b.java", Text.lit "src", Text.lit "java", 1⟩] := by
  exact ⟨rfl, by cbv⟩

end UnitForge.Scan
