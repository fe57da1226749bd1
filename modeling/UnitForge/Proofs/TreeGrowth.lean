import Mathlib.Data.List.Infix
import UnitForge.FileTree.Disk
import UnitForge.Keyed

set_option autoImplicit false

/-!
# How a tree of files grows

The operations on a tree of files remove nothing: whatever stands at a place stays what it is, a
file, a link or a directory. They add directories, and they put files at the places that they name,
so that every other file keeps its bytes.

## Main definitions

* `UnitForge.Entry.HasDirectory` — a directory stands at a place.
* `UnitForge.Entry.Growth` — what may become of what stands at a place.
* `UnitForge.Entry.Grows` — one tree has grown to another, with files put at certain places only.

## Main results

* `UnitForge.Entry.get?_put_append`, `UnitForge.Entry.hasDirectory_put`,
  `UnitForge.Entry.get?_put_of_apart` — what stands at, above and apart from the place where an
  entry is put.
* `UnitForge.Entry.grows_put_directory`, `UnitForge.Entry.grows_put_file` — a tree grows when an
  empty directory or a file is put into it.
-/

namespace UnitForge.Entry

variable {e e' leaf x : Entry} {name other : Text} {names others rest : List Text}

/-! ## Entries below an entry -/

@[simp] lemma get?_nil (e : Entry) : e.get? [] = some e := rfl

lemma get?_cons (e : Entry) (name : Text) (rest : List Text) :
    e.get? (name :: rest) = (e.child? name).bind (·.get? rest) := rfl

lemma get?_append (e : Entry) (names rest : List Text) :
    e.get? (names ++ rest) = (e.get? names).bind (·.get? rest) := by
  induction names generalizing e with
  | nil => rfl
  | cons name names ih =>
    rw [List.cons_append, get?_cons, get?_cons]
    cases e.child? name with
    | none => rfl
    | some child => exact ih child

/-- There is nothing below what is no directory. -/
lemma get?_eq_none_of_child? (h : ∀ name, e.child? name = none) (hrest : rest ≠ []) :
    e.get? rest = none := by
  obtain ⟨name, more, rfl⟩ := List.exists_cons_of_ne_nil hrest
  rw [get?_cons, h name, Option.bind_none]

/-- A directory stands at the end of a sequence of names. -/
def HasDirectory (e : Entry) (names : List Text) : Prop :=
  ∃ entries, e.get? names = some (.directory entries)

/-- What something stands below is a directory. -/
lemma hasDirectory_of_get?_append (h : e.get? (names ++ rest) = some x) (hrest : rest ≠ []) :
    e.HasDirectory names := by
  obtain ⟨name, more, rfl⟩ := List.exists_cons_of_ne_nil hrest
  rw [get?_append] at h
  obtain ⟨y, hy, hbelow⟩ := Option.bind_eq_some_iff.1 h
  cases y with
  | directory entries => exact ⟨entries, hy⟩
  | file content => exact absurd hbelow (by simp [get?_cons, child?])
  | link target => exact absurd hbelow (by simp [get?_cons, child?])

/-- What a directory stands below is a directory. -/
lemma HasDirectory.of_append (h : e.HasDirectory (names ++ rest)) : e.HasDirectory names := by
  obtain ⟨entries, hentries⟩ := h
  rcases eq_or_ne rest [] with rfl | hrest
  · exact ⟨entries, by rwa [List.append_nil] at hentries⟩
  · exact hasDirectory_of_get?_append hentries hrest

lemma HasDirectory.dropLast (h : e.HasDirectory names) : e.HasDirectory names.dropLast := by
  rcases List.eq_nil_or_concat' names with rfl | ⟨init, last, rfl⟩
  · exact h
  · rw [List.dropLast_concat]
    exact h.of_append

/-- If something is a directory, then the top of the tree is one. -/
lemma HasDirectory.ite_top (h : e.HasDirectory names) (p : Prop) [Decidable p] :
    e.HasDirectory (if p then [] else names) := by
  split
  · rw [← List.nil_append names] at h
    exact h.of_append
  · exact h

/-! ## Putting an entry into a tree -/

lemma putChild_eq (name : Text) (child : Entry) (entries : List (Text × Entry)) :
    putChild name child entries = Keyed.put name child entries := by
  induction entries with
  | nil => rfl
  | cons entry entries ih =>
    obtain ⟨n, old⟩ := entry
    rw [putChild, Keyed.put, ih]
    split
    next h => rw [h]
    next => rfl

/-- The entry of a given name after something was put below one of a perhaps different name. -/
lemma child?_put (leaf : Entry) (name : Text) (rest : List Text) (e : Entry) (other : Text) :
    (put leaf (name :: rest) e).child? other =
      if other = name then some (put leaf rest ((e.child? name).getD (.directory [])))
      else e.child? other := by
  have hput (child : Entry) (entries : List (Text × Entry)) :
      (directory (putChild name child entries)).child? other =
        if other = name then some child else Keyed.get? entries other := by
    rw [child?, putChild_eq]
    exact Keyed.get?_put entries name other child
  cases e <;> exact hput _ _

/-- **Where an entry is put, it stands** with what is below it. -/
lemma get?_put_append (leaf e : Entry) (names rest : List Text) :
    (put leaf names e).get? (names ++ rest) = leaf.get? rest := by
  induction names generalizing e with
  | nil => rfl
  | cons name names ih =>
    rw [List.cons_append, get?_cons, child?_put, if_pos rfl, Option.bind_some, ih]

lemma get?_put_self (leaf e : Entry) (names : List Text) :
    (put leaf names e).get? names = some leaf := by
  have h := get?_put_append leaf e names []
  rwa [List.append_nil] at h

/-- **Above the place where an entry is put stand directories.** -/
lemma hasDirectory_put (leaf e : Entry) (names : List Text) (hrest : rest ≠ []) :
    (put leaf (names ++ rest) e).HasDirectory names :=
  hasDirectory_of_get?_append (get?_put_self leaf e (names ++ rest)) hrest

/-- **Apart from the place where an entry is put nothing changes.** -/
lemma get?_put_of_apart (leaf e : Entry) (hbelow : ¬names <+: others) (habove : ¬others <+: names) :
    (put leaf names e).get? others = e.get? others := by
  induction names generalizing e others with
  | nil => exact absurd List.nil_prefix hbelow
  | cons name names ih =>
    cases others with
    | nil => exact absurd List.nil_prefix habove
    | cons other others =>
      rw [get?_cons, get?_cons, child?_put]
      by_cases hname : other = name
      · subst hname
        rw [List.cons_prefix_cons, not_and] at hbelow habove
        rw [if_pos rfl, Option.bind_some, ih _ (hbelow rfl) (habove rfl)]
        cases e.child? other with
        | some child => rfl
        | none =>
          have hne : others ≠ [] := by
            rintro rfl
            exact habove rfl List.nil_prefix
          exact get?_eq_none_of_child? (fun _ => rfl) hne
      · rw [if_neg hname]

/-! ## Growth -/

/-- What may become of what stands at a place, where `touched` says that files are put there. -/
inductive Growth (touched : Prop) : Option Entry → Option Entry → Prop where
  /-- Nothing changes. -/
  | same (x : Option Entry) : Growth touched x x
  /-- A directory stays one. -/
  | directory (entries entries' : List (Text × Entry)) :
      Growth touched (some (.directory entries)) (some (.directory entries'))
  /-- A directory is made. -/
  | made (entries : List (Text × Entry)) : Growth touched none (some (.directory entries))
  /-- A file is put where nothing stood. -/
  | opened (content : List UInt8) : touched → Growth touched none (some (.file content))
  /-- A file is put where a file stood. -/
  | rewritten (content content' : List UInt8) : touched →
      Growth touched (some (.file content)) (some (.file content'))

lemma Growth.trans {touched : Prop} {x y z : Option Entry} (h : Growth touched x y)
    (h' : Growth touched y z) : Growth touched x z := by
  cases h with
  | same => exact h'
  | directory => cases h' <;> constructor
  | made => cases h' <;> constructor
  | opened _ htouched => cases h' <;> exact .opened _ htouched
  | rewritten _ _ htouched => cases h' <;> exact .rewritten _ _ htouched

lemma Growth.mono {touched more : Prop} {x y : Option Entry} (h : Growth touched x y)
    (hmore : touched → more) : Growth more x y := by
  cases h with
  | same => exact .same _
  | directory => exact .directory _ _
  | made => exact .made _
  | opened _ htouched => exact .opened _ (hmore htouched)
  | rewritten _ _ htouched => exact .rewritten _ _ (hmore htouched)

/-- One tree has grown to another: nothing is gone, and what is new is a directory or, at one of the
places `touched`, a file. -/
def Grows (touched : List (List Text)) (e e' : Entry) : Prop :=
  ∀ names, Growth (names ∈ touched) (e.get? names) (e'.get? names)

namespace Grows

variable {touched more : List (List Text)} {content : List UInt8}

lemma refl (touched : List (List Text)) (e : Entry) : Grows touched e e := fun _ => .same _

lemma trans (h : Grows touched e e') (h' : Grows touched e' x) : Grows touched e x :=
  fun names => (h names).trans (h' names)

lemma mono (h : Grows touched e e') (hsub : touched ⊆ more) : Grows more e e' :=
  fun names => (h names).mono fun hm => hsub hm

/-- A directory stays one. -/
lemma hasDirectory (h : Grows touched e e') (hdir : e.HasDirectory names) :
    e'.HasDirectory names := by
  obtain ⟨entries, hentries⟩ := hdir
  have hgrowth := h names
  rw [hentries] at hgrowth
  generalize hnew : e'.get? names = y at hgrowth
  cases hgrowth with
  | same => exact ⟨entries, hnew⟩
  | directory _ entries' => exact ⟨entries', hnew⟩

/-- A link stays one. -/
lemma get?_link {target : Text} (h : Grows touched e e')
    (hlink : e.get? names = some (.link target)) : e'.get? names = some (.link target) := by
  have hgrowth := h names
  rw [hlink] at hgrowth
  generalize e'.get? names = y at hgrowth ⊢
  cases hgrowth
  rfl

/-- No link is new. -/
lemma get?_of_link {target : Text} (h : Grows touched e e')
    (hlink : e'.get? names = some (.link target)) : e.get? names = some (.link target) := by
  have hgrowth := h names
  rw [hlink] at hgrowth
  generalize e.get? names = y at hgrowth ⊢
  cases hgrowth
  rfl

/-- A file at a place that is not touched keeps its bytes. -/
lemma get?_file (h : Grows touched e e') (hnot : names ∉ touched)
    (hfile : e.get? names = some (.file content)) : e'.get? names = some (.file content) := by
  have hgrowth := h names
  rw [hfile] at hgrowth
  generalize e'.get? names = y at hgrowth ⊢
  cases hgrowth with
  | same => rfl
  | rewritten _ _ htouched => exact absurd htouched hnot

/-- A file is new only at one of the places touched. -/
lemma mem_of_file (h : Grows touched e e') (hnone : e.get? names = none)
    (hfile : e'.get? names = some (.file content)) : names ∈ touched := by
  have hgrowth := h names
  rw [hnone, hfile] at hgrowth
  cases hgrowth with
  | opened _ htouched => exact htouched

end Grows

/-- What stands at a place after an entry with nothing below it was put somewhere: that entry, a
directory as before, or what stood there before. -/
lemma get?_put_cases (leaf : Entry) (hne : names ≠ []) (hparent : e.HasDirectory names.dropLast)
    (hleaf : ∀ name, leaf.child? name = none)
    (hold : ∀ x ∈ e.get? names, ∀ name, x.child? name = none) (others : List Text) :
    others = names ∧ (put leaf names e).get? others = some leaf ∨
      e.HasDirectory others ∧ (put leaf names e).HasDirectory others ∨
      (put leaf names e).get? others = e.get? others := by
  by_cases hbelow : names <+: others
  · obtain ⟨rest, rfl⟩ := hbelow
    rcases eq_or_ne rest [] with rfl | hrest
    · rw [List.append_nil]
      exact .inl ⟨rfl, get?_put_self leaf e names⟩
    · refine .inr (.inr ?_)
      rw [get?_put_append, get?_eq_none_of_child? hleaf hrest, get?_append]
      cases hx : e.get? names with
      | none => rfl
      | some x => exact (get?_eq_none_of_child? (hold x hx) hrest).symm
  by_cases habove : others <+: names
  · obtain ⟨rest, rfl⟩ := habove
    have hrest : rest ≠ [] := by
      rintro rfl
      exact hbelow (by rw [List.append_nil])
    rw [List.dropLast_append_of_ne_nil hrest] at hparent
    exact .inr (.inl ⟨hparent.of_append, hasDirectory_put leaf e others hrest⟩)
  · exact .inr (.inr (get?_put_of_apart leaf e hbelow habove))

/-- **A tree grows when an empty directory is put** where nothing stands, below a directory. -/
theorem grows_put_directory (touched : List (List Text)) (hne : names ≠ [])
    (hparent : e.HasDirectory names.dropLast) (hnone : e.get? names = none) :
    Grows touched e (put (.directory []) names e) := by
  intro others
  have hcases := get?_put_cases (.directory []) hne hparent (fun _ => rfl)
    (by simp [hnone]) others
  rcases hcases with ⟨rfl, hnew⟩ | ⟨⟨entries, hold⟩, entries', hnew⟩ | hsame
  · rw [hnone, hnew]
    exact .made []
  · rw [hold, hnew]
    exact .directory entries entries'
  · rw [hsame]
    exact .same _

/-- **A tree grows when a file is put** where nothing or a file stands, below a directory. -/
theorem grows_put_file {content : List UInt8} (hne : names ≠ [])
    (hparent : e.HasDirectory names.dropLast)
    (hold : e.get? names = none ∨ ∃ content, e.get? names = some (.file content)) :
    Grows [names] e (put (.file content) names e) := by
  intro others
  have hempty : ∀ x ∈ e.get? names, ∀ name, x.child? name = none := by
    intro x hx name
    rcases hold with hnone | ⟨content, hfile⟩
    · rw [hnone] at hx
      cases hx
    · obtain rfl := Option.some.inj (hfile.symm.trans hx)
      rfl
  rcases get?_put_cases (.file content) hne hparent (fun _ => rfl) hempty others with
    ⟨rfl, hnew⟩ | ⟨⟨entries, hdir⟩, entries', hnew⟩ | hsame
  · rw [hnew]
    rcases hold with hnone | ⟨content', hfile⟩
    · rw [hnone]
      exact .opened _ (List.mem_singleton_self _)
    · rw [hfile]
      exact .rewritten _ _ (List.mem_singleton_self _)
  · rw [hdir, hnew]
    exact .directory entries entries'
  · rw [hsame]
    exact .same _

end UnitForge.Entry
