import UnitForge.Proofs.Walks

set_option autoImplicit false

/-!
# How a disk grows

Making directories, opening files and writing to them lets a disk grow: nothing on it goes away, and
a path leads where it led before. Where the output directory was empty, each of the paths below it
leads to a place of its own.

## Main definitions

* `UnitForge.Disk.Sound` — the working directory is a directory.
* `UnitForge.Disk.Grows` — one disk has grown to another.

## Main results

* `UnitForge.Disk.Grows.resolve` — a path leads where it led before.
* `UnitForge.Disk.grows_makeDirectories`, `UnitForge.Disk.grows_openFile`,
  `UnitForge.Disk.grows_overwrite` — what the operations do to a disk.
* `UnitForge.Disk.resolve_below` — where a path leads that begins with an empty directory.
-/

namespace UnitForge

/-- A file stands below a directory. -/
lemma Entry.hasDirectory_above {e : Entry} {names : List Text} {content : List UInt8}
    (htop : e.HasDirectory []) (hfile : e.get? names = some (.file content)) :
    names ≠ [] ∧ e.HasDirectory names.dropLast := by
  rcases List.eq_nil_or_concat' names with rfl | ⟨init, last, rfl⟩
  · obtain ⟨entries, hentries⟩ := htop
    rw [hfile] at hentries
    cases hentries
  · rw [List.dropLast_concat]
    exact ⟨by simp, hasDirectory_of_get?_append hfile (List.cons_ne_nil _ _)⟩

namespace Disk

variable {d d' d'' : Disk} {touched more : List (List Text)} {path : Path} {place : Place}
  {names : List Text}

/-- The working directory of a disk is a directory. -/
def Sound (d : Disk) : Prop := d.root.HasDirectory d.workingDirectory

lemma Sound.top (h : d.Sound) : d.root.HasDirectory [] := by
  have htop := Entry.HasDirectory.ite_top h True
  rwa [if_pos trivial] at htop

/-- One disk has grown to another: nothing is gone, and what is new is a directory or, at one of the
places `touched`, a file. -/
structure Grows (touched : List (List Text)) (d d' : Disk) : Prop where
  /-- The tree has grown. -/
  tree : Entry.Grows touched d.root d'.root
  /-- The working directory is the same. -/
  workingDirectory : d'.workingDirectory = d.workingDirectory

namespace Grows

lemma refl (touched : List (List Text)) (d : Disk) : Grows touched d d := ⟨.refl _ _, rfl⟩

lemma trans (h : Grows touched d d') (h' : Grows touched d' d'') : Grows touched d d'' :=
  ⟨h.tree.trans h'.tree, h'.workingDirectory.trans h.workingDirectory⟩

lemma mono (h : Grows touched d d') (hsub : touched ⊆ more) : Grows more d d' :=
  ⟨h.tree.mono hsub, h.workingDirectory⟩

lemma sound (h : Grows touched d d') (hsound : d.Sound) : d'.Sound := by
  rw [Sound, h.workingDirectory]
  exact h.tree.hasDirectory hsound

/-- **A path leads where it led before**, to what stands there now. -/
lemma resolve (h : Grows touched d d') (hplace : d.resolve true path = .ok place) :
    d'.resolve true path = .ok ⟨place.names, d'.root.get? place.names⟩ := by
  rw [Disk.resolve, walk_eq_ok_iff] at hplace ⊢
  rw [h.workingDirectory]
  exact hplace.grows h.tree

end Grows

/-- A path leads to an entry if it leads to a place with that entry. -/
lemma find?_eq_some {entry : Entry} :
    d.find? path = some entry ↔
      ∃ place, d.resolve true path = .ok place ∧ place.entry = some entry := by
  rw [find?]
  cases d.resolve true path <;> simp

/-! ## The operations -/

/-- The place of a path is a directory or below one. -/
lemma resolve_cases {follow : Bool} (hsound : d.Sound)
    (h : d.resolve follow path = .ok place) :
    place.entry = d.root.get? place.names ∧
      (d.root.HasDirectory place.names ∨
        place.names ≠ [] ∧ d.root.HasDirectory place.names.dropLast) :=
  (walk_eq_ok_iff.1 h).place_cases (hsound.ite_top _)

/-- A disk grows when a directory is made. -/
lemma grows_makeDirectory (hsound : d.Sound) (h : d.makeDirectory path = .ok d') :
    d.Grows [] d' := by
  rw [makeDirectory] at h
  split at h
  next => cases h
  next names hplace =>
    obtain rfl := Except.ok.inj h
    obtain ⟨hentry, ⟨entries, hdir⟩ | ⟨hne, hparent⟩⟩ := resolve_cases hsound hplace
    · exact absurd (hentry.trans hdir) (by simp)
    · exact ⟨Entry.grows_put_directory [] hne hparent hentry.symm, rfl⟩
  next => cases h

/-- A disk grows when directories are made, even if one of them is refused.

**Proof sketch.** Induction on the components: where the directory cannot be made at first, those
above it are made before it is tried again. -/
lemma grows_makeAll (hsound : d.Sound) (anchor : Text) (parts : List Text) :
    d.Grows [] (d.makeAll anchor parts).1 := by
  induction parts with
  | nil =>
    rw [makeAll]
    cases hmade : d.makeDirectory ⟨anchor, []⟩ with
    | ok d' => exact grows_makeDirectory hsound hmade
    | error fault => exact .refl [] d
  | cons part above ih =>
    rw [makeAll]
    dsimp only
    split
    next hmissing =>
      rcases habove : d.makeAll anchor above with ⟨d', _ | refusal⟩
      · rw [habove] at ih
        dsimp only
        cases hmade : d'.makeDirectory ⟨anchor, (part :: above).reverse⟩ with
        | ok d'' => exact ih.trans (grows_makeDirectory (ih.sound hsound) hmade)
        | error fault => exact ih
      · rw [habove] at ih
        exact ih
    next result hresult =>
      cases hmade : d.makeDirectory ⟨anchor, (part :: above).reverse⟩ with
      | ok d' => exact grows_makeDirectory hsound hmade
      | error fault => exact .refl [] d

/-- **A disk grows when the directories of a path are made.** -/
lemma grows_makeDirectories (hsound : d.Sound) (path : Path) :
    d.Grows [] (d.makeDirectories path).1 := by
  rw [makeDirectories]
  split
  · exact .refl [] d
  · exact grows_makeAll hsound path.anchor path.parts.reverse

/-- **A disk grows when a file is opened**, and then the path leads to the empty file. -/
lemma grows_openFile (hsound : d.Sound) (h : d.openFile path = .ok (d', names)) :
    d.Grows [names] d' ∧ d'.resolve true path = .ok ⟨names, some (.file [])⟩ := by
  rw [openFile] at h
  split at h
  next => cases h
  next =>
  split at h
  next => cases h
  next => cases h
  next target entry hnot hplace =>
    obtain ⟨rfl, rfl⟩ := Prod.mk.inj (Except.ok.inj h)
    obtain ⟨hentry, ⟨entries, hdir⟩ | ⟨hne, hparent⟩⟩ := resolve_cases hsound hplace
    · obtain rfl : entry = some (.directory entries) := hentry.trans hdir
      exact (hnot entries rfl).elim
    have hold : d.root.get? target = none ∨
        ∃ content, d.root.get? target = some (.file content) := by
      cases entry with
      | none => exact .inl hentry.symm
      | some x =>
        cases x with
        | file content => exact .inr ⟨content, hentry.symm⟩
        | directory entries => exact (hnot entries rfl).elim
        | link text =>
          exact absurd rfl ((walk_eq_ok_iff.1 hplace).entry_ne_link (hsound.ite_top _) text)
    have hgrows : d.Grows [target] (d.put target (.file [])) :=
      ⟨Entry.grows_put_file hne hparent hold, rfl⟩
    refine ⟨hgrows, ?_⟩
    have hfile : (d.put target (.file [])).root.get? target = some (.file []) :=
      Entry.get?_put_self _ _ target
    rw [hgrows.resolve hplace, hfile]

/-- A disk grows when bytes are written over those of a file. -/
lemma grows_overwrite (hsound : d.Sound) (names : List Text) (bytes : List UInt8) :
    d.Grows [names] (d.overwrite names bytes) := by
  rw [overwrite]
  split
  next content hfile =>
    obtain ⟨hne, hparent⟩ := Entry.hasDirectory_above hsound.top hfile
    exact ⟨Entry.grows_put_file hne hparent (.inr ⟨content, hfile⟩), rfl⟩
  next => exact .refl _ d

/-- **The bytes are written over the first ones of the file.** -/
lemma get?_overwrite {content : List UInt8} (h : d.root.get? names = some (.file content))
    (bytes : List UInt8) :
    (d.overwrite names bytes).root.get? names =
      some (.file (bytes ++ content.drop bytes.length)) := by
  rw [overwrite, h]
  exact Entry.get?_put_self _ _ names

/-! ## Paths below an empty directory -/

/-- **Below an empty directory a path leads straight on.** If the disk has grown from one on which
nothing stands below the place of the first path, then a path that begins with it and never goes up
leads to the place with the further components. -/
lemma resolve_below {base : Disk} {root : Path} {parts : List Text} (hgrows : base.Grows touched d)
    (hsound : d.Sound)
    (hempty : ∀ top rest, d.resolve true root = .ok top → rest ≠ [] →
      base.root.get? (top.names ++ rest) = none)
    (hparts : parts ≠ []) (hup : Text.lit ".." ∉ parts)
    (h : d.resolve true { root with parts := root.parts ++ parts } = .ok place) :
    ∃ top, d.resolve true root = .ok top ∧ place.names = top.names ++ parts := by
  obtain ⟨links, mid, hfront, -, hback⟩ :=
    (walk_eq_ok_iff.1 h).split (hsound.ite_top _) hparts
  have htop : d.resolve true root = .ok ⟨mid, d.root.get? mid⟩ := walk_eq_ok_iff.2 hfront
  refine ⟨_, htop, hback.names_of_linkless hup fun rest target hrest hlink => ?_⟩
  have hnone := hempty _ rest htop hrest
  rw [hgrows.tree.get?_of_link hlink] at hnone
  cases hnone

end Disk

end UnitForge
