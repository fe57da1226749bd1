import UnitForge.Proofs.TreeOrder

set_option autoImplicit false

/-!
# The sites of a scan

A scan comes to every name in a directory before it goes into the subdirectories, and it goes into
those only that are not ignored. Every name that it comes to is a site. What a scan finds is made of
its sites one by one, so that it is enough to know which the sites of a tree are and in what order
they come.

## Main definitions

* `UnitForge.Site` — a name in a directory below the top of a tree.
* `UnitForge.Site.Before` — the order of sites.
* `UnitForge.Entry.sites` — the sites of a tree with what stands there.

## Main results

* `UnitForge.Site.eq_of_mem_iff` — sites in order can be listed in one way only.
* `UnitForge.Entry.mem_sites` — which the sites of a tree are.
* `UnitForge.Entry.pairwise_sites` — the sites of an ordered tree come in order.
* `UnitForge.Scan.Search.findings_eq` — a search finds something site by site.
-/

namespace UnitForge

/-- A name in a directory below the top of a tree. -/
structure Site where
  /-- The names that lead from the top to the directory. -/
  below : List Text
  /-- The name. -/
  name : Text
  deriving DecidableEq, Repr

namespace Site

variable {p q r : Site}

/-- The names that lead from the top to what stands there. -/
def names (p : Site) : List Text := p.below ++ [p.name]

/-- The order of sites: a directory comes before those below it and before the later ones, and its
names come in ascending order. -/
def Before (p q : Site) : Prop := p.below < q.below ∨ p.below = q.below ∧ p.name < q.name

/-- What a site is called tells which site it is. -/
lemma names_injective (h : p.names = q.names) : p = q := by
  obtain ⟨hbelow, hname⟩ := List.append_inj' h rfl
  cases p
  cases q
  cases hbelow
  cases hname
  rfl

lemma Before.ne (h : Before p q) : p ≠ q := by
  rintro rfl
  rcases h with h | ⟨-, h⟩
  · exact lt_irrefl _ h
  · exact lt_irrefl _ h

lemma Before.asymm (h : Before p q) : ¬Before q p := by
  rintro (h' | ⟨hbelow, h'⟩)
  · rcases h with h | ⟨hbelow, -⟩
    · exact lt_asymm h h'
    · exact lt_irrefl _ (hbelow ▸ h')
  · rcases h with h | ⟨-, h⟩
    · exact lt_irrefl _ (hbelow ▸ h)
    · exact lt_asymm h h'

/-- The names of a directory come before the sites below it. -/
lemma before_of_below {name : Text} {rest : List Text} (h : q.below = p.below ++ name :: rest) :
    Before p q := by
  have hshort : p.below ++ [] < p.below ++ name :: rest :=
    List.append_left_lt (List.nil_lt_cons name rest)
  rw [List.append_nil, ← h] at hshort
  exact .inl hshort

/-- The sites below a name of a directory come before those below a later one. -/
lemma before_of_lt {below rest rest' : List Text} {name name' : Text} (hlt : name < name')
    (hp : p.below = below ++ name :: rest) (hq : q.below = below ++ name' :: rest') :
    Before p q := by
  refine .inl ?_
  rw [hp, hq]
  exact List.append_left_lt (List.cons_lt_cons_iff.mpr (.inl hlt))

/-- **Sites in order can be listed in one way only.** -/
theorem eq_of_mem_iff {sites sites' : List Site} (h : sites.Pairwise Before)
    (h' : sites'.Pairwise Before) (hmem : ∀ p, p ∈ sites ↔ p ∈ sites') : sites = sites' := by
  have hperm : sites.Perm sites' :=
    (List.perm_ext_iff_of_nodup (h.imp Before.ne) (h'.imp Before.ne)).mpr hmem
  exact hperm.eq_of_pairwise (fun _ _ _ _ hpq hqp => absurd hqp hpq.asymm) h h'

end Site

namespace Entry

variable {ignored : Text → Bool} {below : List Text} {e x : Entry} {p : Site}
  {entries : List (Text × Entry)}

mutual

/-- The sites of a tree with what stands there, where `below` leads to the tree. -/
def sites (ignored : Text → Bool) (below : List Text) : Entry → List (Site × Entry)
  | .directory entries =>
    entries.map (fun (name, e) => (⟨below, name⟩, e)) ++ sitesBelow ignored below entries
  | _ => []

/-- The sites below named entries that are not ignored. -/
def sitesBelow (ignored : Text → Bool) (below : List Text) :
    List (Text × Entry) → List (Site × Entry)
  | [] => []
  | (name, e) :: rest =>
    (if ignored name then [] else e.sites ignored (below ++ [name])) ++
      sitesBelow ignored below rest

end

@[simp] lemma sites_file (ignored : Text → Bool) (below : List Text) (content : List UInt8) :
    (file content).sites ignored below = [] := by
  rw [sites]
  rintro _ ⟨⟩

@[simp] lemma sites_link (ignored : Text → Bool) (below : List Text) (target : Text) :
    (link target).sites ignored below = [] := by
  rw [sites]
  rintro _ ⟨⟩

lemma sitesBelow_eq_flatMap (ignored : Text → Bool) (below : List Text)
    (entries : List (Text × Entry)) :
    sitesBelow ignored below entries =
      entries.flatMap fun (name, e) =>
        if ignored name then [] else e.sites ignored (below ++ [name]) := by
  induction entries with
  | nil => rfl
  | cons entry entries ih =>
    obtain ⟨name, e⟩ := entry
    rw [sitesBelow, ih, List.flatMap_cons]

/-- The sites of a directory are its names and the sites below those that are not ignored. -/
lemma mem_sites_directory :
    (p, x) ∈ (directory entries).sites ignored below ↔
      p.below = below ∧ (p.name, x) ∈ entries ∨
        ∃ name e, (name, e) ∈ entries ∧ ignored name = false ∧
          (p, x) ∈ e.sites ignored (below ++ [name]) := by
  rw [sites, List.mem_append, sitesBelow_eq_flatMap, List.mem_map, List.mem_flatMap]
  constructor
  · rintro (⟨⟨name, e⟩, hmem, hp⟩ | ⟨⟨name, e⟩, hmem, hp⟩)
    · obtain ⟨rfl, rfl⟩ := Prod.mk.inj hp
      exact .inl ⟨rfl, hmem⟩
    · cases hname : ignored name with
      | true => simp [hname] at hp
      | false => exact .inr ⟨name, e, hmem, hname, by simpa [hname] using hp⟩
  · rintro (⟨rfl, hmem⟩ | ⟨name, e, hmem, hname, hp⟩)
    · exact .inl ⟨(p.name, x), hmem, rfl⟩
    · exact .inr ⟨(name, e), hmem, by simpa [hname] using hp⟩

/-- Where there is no directory there are no sites, and nothing stands below. -/
lemma mem_sites_of_childless (hsites : e.sites ignored below = [])
    (hchild : ∀ name, e.child? name = none) :
    (p, x) ∈ e.sites ignored below ↔
      ∃ rest, p.below = below ++ rest ∧ (∀ name ∈ rest, ignored name = false) ∧
        e.get? (rest ++ [p.name]) = some x := by
  rw [hsites]
  refine ⟨fun h => absurd h List.not_mem_nil, ?_⟩
  rintro ⟨rest, -, -, hget⟩
  rw [get?_eq_none_of_child? hchild (by simp)] at hget
  cases hget

/-- **Which the sites of a tree are**: the names in all directories that are reached without an
ignored name.

**Proof sketch.** Induction over the tree. A site below an entry of a directory is reached by the
name of the entry first. -/
theorem mem_sites (h : e.Distinct) :
    (p, x) ∈ e.sites ignored below ↔
      ∃ rest, p.below = below ++ rest ∧ (∀ name ∈ rest, ignored name = false) ∧
        e.get? (rest ++ [p.name]) = some x := by
  induction e using Entry.induction generalizing below with
  | file content => exact mem_sites_of_childless (sites_file ..) fun _ => rfl
  | link target => exact mem_sites_of_childless (sites_link ..) fun _ => rfl
  | directory entries ih =>
    rw [mem_sites_directory]
    constructor
    · rintro (⟨hbelow, hmem⟩ | ⟨name, e, hmem, hname, hp⟩)
      · exact ⟨[], by rw [hbelow, List.append_nil], by simp, h.get?_singleton hmem⟩
      · obtain ⟨rest, hbelow, hrest, hget⟩ := (ih name e hmem (h.of_mem hmem)).mp hp
        refine ⟨name :: rest, ?_, List.forall_mem_cons.mpr ⟨hname, hrest⟩,
          h.get?_cons_eq_some.mpr ⟨e, hmem, hget⟩⟩
        rw [hbelow, List.append_assoc, List.singleton_append]
    · rintro ⟨rest, hbelow, hrest, hget⟩
      cases rest with
      | nil =>
        obtain ⟨e, hmem, hget⟩ := h.get?_cons_eq_some.mp hget
        obtain rfl := Option.some.inj hget
        exact .inl ⟨by rw [hbelow, List.append_nil], hmem⟩
      | cons name rest =>
        obtain ⟨hname, hrest⟩ := List.forall_mem_cons.mp hrest
        obtain ⟨e, hmem, hget⟩ := h.get?_cons_eq_some.mp hget
        refine .inr ⟨name, e, hmem, hname, (ih name e hmem (h.of_mem hmem)).mpr ?_⟩
        exact ⟨rest, by rw [hbelow, List.append_assoc, List.singleton_append], hrest, hget⟩

/-- A site below an entry of a directory is reached by the name of the entry first. -/
lemma below_of_mem_sites {name : Text} (h : e.Distinct)
    (hp : (p, x) ∈ if ignored name then [] else e.sites ignored (below ++ [name])) :
    ∃ rest, p.below = below ++ name :: rest := by
  cases hname : ignored name with
  | true => simp [hname] at hp
  | false =>
    rw [hname, if_neg Bool.false_ne_true] at hp
    obtain ⟨rest, hbelow, -⟩ := (mem_sites h).mp hp
    exact ⟨rest, by rw [hbelow, List.append_assoc, List.singleton_append]⟩

/-- **The sites of an ordered tree come in order.**

**Proof sketch.** Induction over the tree. The names of a directory come before the sites below it,
as they are below fewer names; and the sites below its entries come as the entries do. -/
theorem pairwise_sites (h : e.Ordered) :
    (e.sites ignored below).Pairwise fun a b => a.1.Before b.1 := by
  induction e using Entry.induction generalizing below with
  | file content => simp
  | link target => simp
  | directory entries ih =>
    have hkeys : entries.Pairwise fun a b => a.1 < b.1 := List.pairwise_map.mp (h [] entries rfl)
    rw [sites, sitesBelow_eq_flatMap, List.pairwise_append, List.pairwise_map,
      List.pairwise_flatMap]
    refine ⟨hkeys.imp fun hab => .inr ⟨rfl, hab⟩, ⟨?_, ?_⟩, ?_⟩
    · rintro ⟨name, e⟩ hmem
      dsimp only
      split
      · exact .nil
      · exact ih name e hmem (h.of_mem hmem)
    · refine hkeys.imp_of_mem ?_
      rintro ⟨name, e⟩ ⟨name', e'⟩ hmem hmem' hlt ⟨p, x⟩ hp ⟨q, y⟩ hq
      obtain ⟨rest, hbelow⟩ := below_of_mem_sites (h.of_mem hmem).distinct hp
      obtain ⟨rest', hbelow'⟩ := below_of_mem_sites (h.of_mem hmem').distinct hq
      exact Site.before_of_lt hlt hbelow hbelow'
    · intro a ha b hb
      obtain ⟨⟨name, e⟩, hmem, hq⟩ := List.mem_flatMap.mp hb
      obtain ⟨entry, -, rfl⟩ := List.mem_map.mp ha
      obtain ⟨rest, hbelow⟩ := below_of_mem_sites (h.of_mem hmem).distinct hq
      exact Site.before_of_below hbelow

end Entry

namespace Scan.Search

variable {s : Search}

lemma findingsBelow_eq_flatMap (s : Search) (below : List Text) (entries : List (Text × Entry)) :
    s.findingsBelow below entries =
      entries.flatMap fun (name, e) =>
        if s.ignored name then [] else s.findings (below ++ [name]) e := by
  induction entries with
  | nil => rfl
  | cons entry entries ih =>
    obtain ⟨name, e⟩ := entry
    rw [findingsBelow, ih, List.flatMap_cons]

/-- **A search finds something site by site.** -/
theorem findings_eq (s : Search) (below : List Text) (e : Entry) :
    s.findings below e =
      (e.sites s.ignored below).filterMap fun (p, x) => s.finding? p.below p.name x := by
  induction e using Entry.induction generalizing below with
  | file content => simp [findings]
  | link target => simp [findings]
  | directory entries ih =>
    rw [findings, Entry.sites, filesHere, findingsBelow_eq_flatMap, Entry.sitesBelow_eq_flatMap,
      List.filterMap_append, List.filterMap_map, List.filterMap_flatMap]
    congr 1
    refine List.flatMap_congr ?_
    rintro ⟨name, e⟩ hmem
    dsimp only
    split
    · rfl
    · exact ih name e hmem _

end Scan.Search

end UnitForge
