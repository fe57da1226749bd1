import UnitForge.Proofs.TreeGrowth

set_option autoImplicit false

/-!
# Walks through a tree of files

Where a path leads in a tree, as a relation that follows the steps of a walk, and what becomes of it
when the tree grows.

## Main definitions

* `UnitForge.Disk.Walks` — the walks that succeed, step by step.

## Main results

* `UnitForge.Disk.walk_eq_ok_iff` — the walks that succeed are these.
* `UnitForge.Disk.Walks.place_cases` — where a walk ends.
* `UnitForge.Disk.Walks.grows` — a walk ends where it ended before the tree grew.
* `UnitForge.Disk.Walks.split` — a walk along a path passes through the place of its beginning.
* `UnitForge.Disk.Walks.names_of_linkless` — a walk through new directories goes straight on.
-/

namespace UnitForge.Disk

variable {root root' : Entry} {follow : Bool} {links : Nat} {names parts : List Text}
  {place : Place} {touched : List (List Text)}

/-- The walks that succeed: from the directory at `names` along components to a place, where at most
`links` links are followed on the way. -/
inductive Walks (root : Entry) (follow : Bool) :
    (links : Nat) → (names parts : List Text) → Place → Prop where
  /-- There is no component. -/
  | done {links : Nat} {names : List Text} :
      Walks root follow links names [] ⟨names, root.get? names⟩
  /-- Two dots lead to the directory above. -/
  | up {links : Nat} {names rest : List Text} {place : Place} :
      Walks root follow links names.dropLast rest place →
      Walks root follow links names (Text.lit ".." :: rest) place
  /-- The last component is the name of nothing. -/
  | missing {links : Nat} {names : List Text} {part : Text} : part ≠ Text.lit ".." →
      (Text.encodeUtf8 part).length ≤ maxNameBytes → root.get? (names ++ [part]) = none →
      Walks root follow links names [part] ⟨names ++ [part], none⟩
  /-- The last component is the name of a file. -/
  | file {links : Nat} {names : List Text} {part : Text} {content : List UInt8} :
      part ≠ Text.lit ".." → (Text.encodeUtf8 part).length ≤ maxNameBytes →
      root.get? (names ++ [part]) = some (.file content) →
      Walks root follow links names [part] ⟨names ++ [part], some (.file content)⟩
  /-- A component is the name of a directory. -/
  | directory {links : Nat} {names rest : List Text} {part : Text}
      {entries : List (Text × Entry)} {place : Place} :
      part ≠ Text.lit ".." → (Text.encodeUtf8 part).length ≤ maxNameBytes →
      root.get? (names ++ [part]) = some (.directory entries) →
      Walks root follow links (names ++ [part]) rest place →
      Walks root follow links names (part :: rest) place
  /-- The last component is the name of a link that is not followed. -/
  | link {links : Nat} {names : List Text} {part target : Text} : follow = false →
      part ≠ Text.lit ".." → (Text.encodeUtf8 part).length ≤ maxNameBytes →
      root.get? (names ++ [part]) = some (.link target) →
      Walks root follow links names [part] ⟨names ++ [part], some (.link target)⟩
  /-- A component is the name of a link, which is followed. -/
  | followed {links : Nat} {names rest : List Text} {part target : Text} {place : Place} :
      rest ≠ [] ∨ follow = true → part ≠ Text.lit ".." →
      (Text.encodeUtf8 part).length ≤ maxNameBytes →
      root.get? (names ++ [part]) = some (.link target) →
      Walks root follow links (if (Path.parse target).isAbsolute then [] else names)
        ((Path.parse target).parts ++ rest) place →
      Walks root follow (links + 1) names (part :: rest) place

/-- **The walks that succeed are these.** -/
theorem walk_eq_ok_iff :
    walk root follow links names parts = .ok place ↔
      Walks root follow links names parts place := by
  constructor
  · intro h
    induction links, names, parts using walk.induct root follow with
    | case1 links names =>
      rw [walk] at h
      obtain rfl := Except.ok.inj h
      exact .done
    | case2 links names rest ih =>
      rw [walk, if_pos rfl] at h
      exact .up (ih h)
    | case3 links names part rest hpart hlong =>
      rw [walk, if_neg hpart, if_pos hlong] at h
      cases h
    | case4 links names part rest hpart hlong hnone hrest =>
      rw [walk, if_neg hpart, if_neg hlong, hnone] at h
      obtain rfl := List.isEmpty_iff.1 hrest
      obtain rfl := Except.ok.inj h
      exact .missing hpart (Nat.le_of_not_lt hlong) hnone
    | case5 links names part rest hpart hlong hnone hrest =>
      rw [walk, if_neg hpart, if_neg hlong, hnone] at h
      simp [hrest] at h
    | case6 links names part rest hpart hlong content hfile hrest =>
      rw [walk, if_neg hpart, if_neg hlong, hfile] at h
      obtain rfl := List.isEmpty_iff.1 hrest
      obtain rfl := Except.ok.inj h
      exact .file hpart (Nat.le_of_not_lt hlong) hfile
    | case7 links names part rest hpart hlong content hfile hrest =>
      rw [walk, if_neg hpart, if_neg hlong, hfile] at h
      simp [hrest] at h
    | case8 links names part rest hpart hlong entries hdir ih =>
      rw [walk, if_neg hpart, if_neg hlong, hdir] at h
      exact .directory hpart (Nat.le_of_not_lt hlong) hdir (ih h)
    | case9 links names part rest hpart hlong target hlink hlast =>
      rw [walk, if_neg hpart, if_neg hlong, hlink] at h
      simp only [if_pos hlast] at h
      obtain ⟨hrest, hfollow⟩ := by simpa using hlast
      subst hrest hfollow
      obtain rfl := Except.ok.inj h
      exact .link rfl hpart (Nat.le_of_not_lt hlong) hlink
    | case10 names part rest hpart hlong target hlink hlast =>
      rw [walk, if_neg hpart, if_neg hlong, hlink] at h
      simp only [if_neg hlast] at h
      cases h
    | case11 names part rest hpart hlong target hlink hlast links path ih =>
      rw [walk, if_neg hpart, if_neg hlong, hlink] at h
      simp only [if_neg hlast] at h
      refine .followed ?_ hpart (Nat.le_of_not_lt hlong) hlink (ih h)
      simpa [or_iff_not_imp_left] using hlast
  · intro h
    induction h with
    | done => rw [walk]
    | up _ ih => rw [walk, if_pos rfl, ih]
    | missing hpart hlong hnone =>
      rw [walk, if_neg hpart, if_neg (by omega), hnone]
      rfl
    | file hpart hlong hfile =>
      rw [walk, if_neg hpart, if_neg (by omega), hfile]
      rfl
    | directory hpart hlong hdir _ ih =>
      rw [walk, if_neg hpart, if_neg (by omega), hdir]
      exact ih
    | link hfollow hpart hlong hlink =>
      rw [walk, if_neg hpart, if_neg (by omega), hlink, hfollow]
      rfl
    | followed hmore hpart hlong hlink _ ih =>
      rw [walk, if_neg hpart, if_neg (by omega), hlink]
      simp only
      rw [if_neg (by simpa [or_iff_not_imp_left] using hmore)]
      exact ih

namespace Walks

/-- A walk ends where a directory stands or below a directory, with what stands there. -/
lemma place_cases (h : Walks root follow links names parts place)
    (hdir : root.HasDirectory names) :
    place.entry = root.get? place.names ∧
      (root.HasDirectory place.names ∨
        place.names ≠ [] ∧ root.HasDirectory place.names.dropLast) := by
  have hlast {names : List Text} (part : Text) (hdir : root.HasDirectory names) :
      names ++ [part] ≠ [] ∧ root.HasDirectory (names ++ [part]).dropLast := by
    rw [List.dropLast_concat]
    exact ⟨by simp, hdir⟩
  induction h with
  | done => exact ⟨rfl, .inl hdir⟩
  | up _ ih => exact ih hdir.dropLast
  | missing _ _ hnone => exact ⟨hnone.symm, .inr (hlast _ hdir)⟩
  | file _ _ hfile => exact ⟨hfile.symm, .inr (hlast _ hdir)⟩
  | directory _ _ hentries _ ih => exact ih ⟨_, hentries⟩
  | link _ _ _ hlink => exact ⟨hlink.symm, .inr (hlast _ hdir)⟩
  | followed _ _ _ _ _ ih => exact ih (hdir.ite_top _)

/-- A walk says what stands at the place where it ends. -/
lemma entry_eq (h : Walks root follow links names parts place) :
    place.entry = root.get? place.names := by
  induction h with
  | done => rfl
  | up _ ih => exact ih
  | missing _ _ hnone => exact hnone.symm
  | file _ _ hfile => exact hfile.symm
  | directory _ _ _ _ ih => exact ih
  | link _ _ _ hlink => exact hlink.symm
  | followed _ _ _ _ _ ih => exact ih

/-- The components of a path that leads to something are names in the tree, but for double dots. -/
lemma part_cases (h : Walks root follow links names parts place) (hplace : place.entry ≠ none) :
    ∀ part ∈ parts, part = Text.lit ".." ∨ ∃ names x, root.get? (names ++ [part]) = some x := by
  induction h with
  | done => exact List.forall_mem_nil _
  | up _ ih => exact List.forall_mem_cons.mpr ⟨.inl rfl, ih hplace⟩
  | missing => exact absurd rfl hplace
  | file _ _ hfile => exact List.forall_mem_singleton.mpr (.inr ⟨_, _, hfile⟩)
  | directory _ _ hentries _ ih =>
    exact List.forall_mem_cons.mpr ⟨.inr ⟨_, _, hentries⟩, ih hplace⟩
  | link _ _ _ hlink => exact List.forall_mem_singleton.mpr (.inr ⟨_, _, hlink⟩)
  | followed _ _ _ hlink _ ih =>
    have hrest := (List.forall_mem_append.mp (ih hplace)).2
    exact List.forall_mem_cons.mpr ⟨.inr ⟨_, _, hlink⟩, hrest⟩

/-- A walk that follows links ends at no link. -/
lemma entry_ne_link (h : Walks root true links names parts place) (hdir : root.HasDirectory names)
    (target : Text) : place.entry ≠ some (.link target) := by
  induction h with
  | done =>
    obtain ⟨entries, hentries⟩ := hdir
    simp [hentries]
  | up _ ih => exact ih hdir.dropLast
  | missing | file => simp
  | directory _ _ hentries _ ih => exact ih ⟨_, hentries⟩
  | link hfollow => cases hfollow
  | followed _ _ _ _ _ ih => exact ih (hdir.ite_top _)

/-- **A walk ends where it ended before the tree grew**: no step of it goes another way, and only at
its end something may be new. -/
lemma grows (h : Walks root true links names parts place) (hgrows : root.Grows touched root') :
    Walks root' true links names parts ⟨place.names, root'.get? place.names⟩ := by
  induction h with
  | done => exact .done
  | up _ ih => exact .up ih
  | @missing _ names part hpart hlong hnone =>
    have hgrowth := hgrows (names ++ [part])
    rw [hnone] at hgrowth
    generalize hnew : root'.get? (names ++ [part]) = y at hgrowth
    cases hgrowth with
    | same => exact .missing hpart hlong hnew
    | made entries => exact .directory hpart hlong hnew (hnew ▸ .done)
    | opened content => exact .file hpart hlong hnew
  | @file _ names part content hpart hlong hfile =>
    have hgrowth := hgrows (names ++ [part])
    rw [hfile] at hgrowth
    generalize hnew : root'.get? (names ++ [part]) = y at hgrowth
    cases hgrowth with
    | same => exact .file hpart hlong hnew
    | rewritten _ content' => exact .file hpart hlong hnew
  | directory hpart hlong hentries _ ih =>
    obtain ⟨entries, hnew⟩ := hgrows.hasDirectory ⟨_, hentries⟩
    exact .directory hpart hlong hnew ih
  | link hfollow => cases hfollow
  | followed hmore hpart hlong hlink _ ih =>
    exact .followed hmore hpart hlong (hgrows.get?_link hlink) ih

/-- **A walk along a path passes through the place of its beginning**, which is a directory. -/
lemma split {front back : List Text} (h : Walks root true links names (front ++ back) place)
    (hdir : root.HasDirectory names) (hback : back ≠ []) :
    ∃ links' mid, Walks root true links names front ⟨mid, root.get? mid⟩ ∧
      root.HasDirectory mid ∧ Walks root true links' mid back place := by
  have hstart {links : Nat} {names parts : List Text} {place : Place}
      (hdir : root.HasDirectory names) (hparts : [] ++ back = parts)
      (hwalk : Walks root true links names parts place) :
      ∃ links' mid, Walks root true links names [] ⟨mid, root.get? mid⟩ ∧
        root.HasDirectory mid ∧ Walks root true links' mid back place := by
    subst hparts
    exact ⟨links, names, .done, hdir, hwalk⟩
  generalize hparts : front ++ back = parts at h
  induction h generalizing front with
  | done => exact absurd (List.append_eq_nil_iff.1 hparts).2 hback
  | up hwalk ih =>
    cases front with
    | nil => exact hstart hdir hparts (.up hwalk)
    | cons part front =>
      obtain ⟨rfl, hrest⟩ := List.cons.inj hparts
      obtain ⟨links', mid, hfront, hmid, hwalk⟩ := ih hdir.dropLast hrest
      exact ⟨links', mid, .up hfront, hmid, hwalk⟩
  | missing hpart hlong hnone =>
    cases front with
    | nil => exact hstart hdir hparts (.missing hpart hlong hnone)
    | cons part front =>
      exact absurd (List.append_eq_nil_iff.1 (List.cons.inj hparts).2).2 hback
  | file hpart hlong hfile =>
    cases front with
    | nil => exact hstart hdir hparts (.file hpart hlong hfile)
    | cons part front =>
      exact absurd (List.append_eq_nil_iff.1 (List.cons.inj hparts).2).2 hback
  | directory hpart hlong hentries hwalk ih =>
    cases front with
    | nil => exact hstart hdir hparts (.directory hpart hlong hentries hwalk)
    | cons part front =>
      obtain ⟨rfl, hrest⟩ := List.cons.inj hparts
      obtain ⟨links', mid, hfront, hmid, hwalk⟩ := ih ⟨_, hentries⟩ hrest
      exact ⟨links', mid, .directory hpart hlong hentries hfront, hmid, hwalk⟩
  | link hfollow => cases hfollow
  | @followed _ _ rest part target _ hmore hpart hlong hlink hwalk ih =>
    cases front with
    | nil => exact hstart hdir hparts (.followed hmore hpart hlong hlink hwalk)
    | cons part front =>
      obtain ⟨rfl, hrest⟩ := List.cons.inj hparts
      have hparts : (Path.parse target).parts ++ front ++ back =
          (Path.parse target).parts ++ rest := by
        rw [List.append_assoc, ← hrest]
        rfl
      obtain ⟨links', mid, hfront, hmid, hwalk⟩ := ih (hdir.ite_top _) hparts
      exact ⟨links', mid, .followed (.inr rfl) hpart hlong hlink hfront, hmid, hwalk⟩

/-- **A walk below which there are no links goes straight on**, if it never goes up. -/
lemma names_of_linkless (h : Walks root follow links names parts place)
    (hup : Text.lit ".." ∉ parts)
    (hlinks : ∀ rest target, rest ≠ [] → root.get? (names ++ rest) ≠ some (.link target)) :
    place.names = names ++ parts := by
  induction h with
  | done => exact (List.append_nil _).symm
  | up => exact absurd List.mem_cons_self hup
  | missing | file | link => rfl
  | @directory _ names rest part _ _ _ _ _ _ ih =>
    have hrest := ih (fun hm => hup (List.mem_cons_of_mem _ hm)) fun more target hmore => by
      rw [List.append_assoc]
      exact hlinks _ target (by simp)
    rw [hrest, List.append_assoc, List.singleton_append]
  | followed _ _ _ hlink => exact absurd hlink (hlinks [_] _ (by simp))

end Walks

end UnitForge.Disk
