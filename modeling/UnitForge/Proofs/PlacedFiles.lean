import UnitForge.Proofs.ScannedFiles

set_option autoImplicit false

/-!
# The paths of the files that a scan finds

A text with a zero character in it is no path, and nothing can be read there. The files that a scan
finds all have paths, as the names of a disk hold no zero character: their own paths are made of
such names, and their roots lead to directories.

## Main definitions

* `UnitForge.Entry.ZeroFree` — no name in a tree holds a zero character.

## Main results

* `UnitForge.Scan.zero_not_mem_of_discover` — the path of a file that is found is one.
-/

namespace UnitForge

namespace Entry

/-- No name in a tree holds a zero character. -/
def ZeroFree (e : Entry) : Prop :=
  ∀ names x, e.get? names = some x → ∀ name ∈ names, Char.ofNat 0 ∉ name

/-- In a directory no name holds a zero character if neither those of its entries do nor those in
them. -/
lemma zeroFree_directory {entries : List (Text × Entry)}
    (h : ∀ entry ∈ entries, Char.ofNat 0 ∉ entry.1 ∧ entry.2.ZeroFree) :
    (directory entries).ZeroFree := by
  intro names x hx
  cases names with
  | nil => exact List.forall_mem_nil _
  | cons name rest =>
    rw [get?_cons, child?_directory] at hx
    obtain ⟨e, he, hx⟩ := Option.bind_eq_some_iff.mp hx
    obtain ⟨hname, hentry⟩ := h (name, e) (Keyed.mem_of_get? he)
    exact List.forall_mem_cons.mpr ⟨hname, hentry rest x hx⟩

/-- In a file there are no names. -/
lemma zeroFree_file (content : List UInt8) : (file content).ZeroFree := by
  rintro (_ | ⟨name, names⟩) x h
  · exact List.forall_mem_nil _
  · cases h

/-- In a link there are no names. -/
lemma zeroFree_link (target : Text) : (link target).ZeroFree := by
  rintro (_ | ⟨name, names⟩) x h
  · exact List.forall_mem_nil _
  · cases h

end Entry

namespace Path

variable {root path : Text} {p : Path}

/-- The path of a file below a root holds a zero character only if one of the two does. -/
lemma zero_not_mem_joinText (hroot : Char.ofNat 0 ∉ root) (hpath : Char.ofNat 0 ∉ path) :
    Char.ofNat 0 ∉ joinText root path := by
  rw [joinText]
  split
  · exact hpath
  split
  · exact List.not_mem_append hroot hpath
  · refine List.not_mem_append hroot ?_
    rw [List.mem_cons, not_or]
    exact ⟨by decide, hpath⟩

/-- An anchor is made of slashes. -/
lemma zero_not_mem_anchorOf (text : Text) : Char.ofNat 0 ∉ anchorOf text := by
  unfold anchorOf
  split <;> decide

/-- The text of a path that was read holds a zero character only if one of its components does. -/
lemma zero_not_mem_toText (h : ∀ part ∈ (parse root).parts, Char.ofNat 0 ∉ part) :
    Char.ofNat 0 ∉ (parse root).toText := by
  rw [toText]
  split
  · decide
  · refine List.not_mem_append (zero_not_mem_anchorOf root) fun hmem => ?_
    rcases Text.mem_join hmem with hslash | ⟨part, hpart, hzero⟩
    · exact absurd hslash (by decide)
    · exact h part hpart hzero

end Path

namespace Scan

variable {d : Disk} {plan : ScanPlan} {root : Text} {top : List Text} {p : Site}
  {entries : List (Text × Entry)} {file : SourceFile}

/-- A root that leads to a directory holds no zero character. -/
lemma zero_not_mem_root (hzero : d.root.ZeroFree)
    (hroot : d.resolve true (Path.parse root) = .ok ⟨top, some (.directory entries)⟩) :
    Char.ofNat 0 ∉ (Path.parse root).toText := by
  refine Path.zero_not_mem_toText fun part hpart => ?_
  rcases (Disk.walk_eq_ok_iff.mp hroot).part_cases (by simp) part hpart with
    rfl | ⟨names, x, hx⟩
  · decide
  · exact hzero _ x hx part (List.mem_append_right _ (List.mem_singleton_self part))

/-- The recorded path of a file that stands on a disk holds no zero character. -/
lemma zero_not_mem_path (hzero : d.root.ZeroFree) {e : Entry}
    (hstands : d.root.get? (top ++ p.names) = some e) :
    Char.ofNat 0 ∉ (record d root top p).path := by
  rw [record, Text.replaceChar, List.mem_flatMap]
  rintro ⟨c, hc, hmem⟩
  split at hmem
  · exact absurd hmem (by decide)
  · obtain rfl := List.mem_singleton.mp hmem
    rcases Text.mem_join hc with hslash | ⟨name, hname, hmem⟩
    · exact absurd hslash (by decide)
    · exact hzero _ e hstands name (List.mem_append_right _ hname) hmem

/-- **The path of a file that is found is one.** -/
theorem zero_not_mem_of_discover (hdistinct : d.root.Distinct) (hzero : d.root.ZeroFree)
    (hfile : file ∈ discover d plan) : Char.ofNat 0 ∉ Path.joinText file.root file.path := by
  obtain ⟨root, -, hfile⟩ := List.mem_flatMap.mp hfile
  change file ∈ filesUnder d plan root at hfile
  cases hdirectory : d.isDirectory (Path.parse root) with
  | false =>
    rw [filesUnder_eq_nil hdirectory] at hfile
    exact absurd hfile List.not_mem_nil
  | true =>
    obtain ⟨top, entries, hroot⟩ := Disk.isDirectory_eq_true.mp hdirectory
    obtain ⟨sites, -, hmem, hfiles⟩ := filesUnder_eq hdistinct hroot plan
    rw [hfiles] at hfile
    obtain ⟨p, hp, rfl⟩ := List.mem_map.mp hfile
    obtain ⟨e, hstands⟩ := ((hmem p).mp hp).stands
    exact Path.zero_not_mem_joinText (zero_not_mem_root hzero hroot)
      (zero_not_mem_path hzero hstands)

lemma zeroFree_diskOf {entries : List (Text × Entry)} (h : (Entry.directory entries).ZeroFree) :
    (diskOf entries).root.ZeroFree := by
  have hwork : Char.ofNat 0 ∉ Text.lit "work" := by decide
  have hsrc : Char.ofNat 0 ∉ Text.lit "src" := by decide
  refine Entry.zeroFree_directory (List.forall_mem_singleton.mpr ⟨hwork, ?_⟩)
  exact Entry.zeroFree_directory (List.forall_mem_singleton.mpr ⟨hsrc, h⟩)

end Scan

end UnitForge
