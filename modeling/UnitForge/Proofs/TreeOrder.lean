import UnitForge.Proofs.KeyedValues
import UnitForge.Proofs.SortedTexts
import UnitForge.Proofs.TreeGrowth
import UnitForge.Scan.Discovery

set_option autoImplicit false

/-!
# Trees with their entries in order

A directory lists its entries in some order. If no directory lists a name twice, the order does not
matter for what stands where, and every tree has a form in which each directory lists its entries in
ascending order.

## Main definitions

* `UnitForge.Entry.Distinct` — no directory of a tree lists a name twice.
* `UnitForge.Entry.Ordered` — every directory of a tree lists its entries in ascending order.

## Main results

* `UnitForge.Entry.induction` — induction over a tree.
* `UnitForge.Entry.get?_sorted` — what stands in the sorted form of a tree.
* `UnitForge.Entry.ordered_sorted` — the sorted form of a tree is ordered.
-/

namespace UnitForge

namespace Entry

variable {e : Entry} {entries : List (Text × Entry)} {name : Text} {names : List Text}

/-- **Induction over a tree**: what holds of files and links, and of a directory if it holds of its
entries, holds of every tree. -/
@[elab_as_elim]
theorem induction {P : Entry → Prop} (file : ∀ content, P (.file content))
    (link : ∀ target, P (.link target))
    (directory : ∀ entries, (∀ name e, (name, e) ∈ entries → P e) → P (.directory entries)) :
    ∀ e, P e
  | .file content => file content
  | .link target => link target
  | .directory entries => directory entries fun _ e _ => induction file link directory e
termination_by e => sizeOf e
decreasing_by
  rename_i h
  have hlt := List.sizeOf_lt_of_mem h
  simp only [Prod.mk.sizeOf_spec] at hlt
  simp only [Entry.directory.sizeOf_spec]
  omega

lemma child?_directory (entries : List (Text × Entry)) (name : Text) :
    (directory entries).child? name = Keyed.get? entries name := rfl

/-! ## Names listed once -/

/-- No directory of a tree lists a name twice. -/
def Distinct (e : Entry) : Prop :=
  ∀ names entries, e.get? names = some (.directory entries) → (Keyed.keys entries).Nodup

/-- In a part of a tree no directory lists a name twice, if none does in the whole tree. -/
lemma Distinct.of_get? {part : Entry} (h : e.Distinct) (hpart : e.get? names = some part) :
    part.Distinct := by
  intro rest entries hentries
  apply h (names ++ rest)
  rw [get?_append, hpart, Option.bind_some, hentries]

lemma Distinct.nodup (h : (directory entries).Distinct) : (Keyed.keys entries).Nodup :=
  h [] entries rfl

/-- What stands in a directory stands in what it lists. -/
lemma Distinct.get?_cons_eq_some {x : Entry} (h : (directory entries).Distinct) :
    (directory entries).get? (name :: names) = some x ↔
      ∃ e, (name, e) ∈ entries ∧ e.get? names = some x := by
  simp only [get?_cons, child?_directory, Option.bind_eq_some_iff, Keyed.get?_eq_some_iff h.nodup]

/-- What a directory lists stands in it. -/
lemma Distinct.get?_singleton (h : (directory entries).Distinct) (hmem : (name, e) ∈ entries) :
    (directory entries).get? [name] = some e :=
  h.get?_cons_eq_some.mpr ⟨e, hmem, rfl⟩

/-- In an entry of a directory no directory lists a name twice, if none does in the whole. -/
lemma Distinct.of_mem (h : (directory entries).Distinct) (hmem : (name, e) ∈ entries) :
    e.Distinct :=
  h.of_get? (h.get?_singleton hmem)

/-- In a directory no directory lists a name twice if it does not itself, and none of its entries
does. -/
lemma distinct_directory :
    (directory entries).Distinct ↔
      (Keyed.keys entries).Nodup ∧ ∀ entry ∈ entries, entry.2.Distinct := by
  refine ⟨fun h => ⟨h.nodup, fun entry hmem => h.of_mem hmem⟩, ?_⟩
  rintro ⟨hnodup, hentries⟩ names inner hinner
  cases names with
  | nil =>
    rw [get?_nil, Option.some_inj, directory.injEq] at hinner
    exact hinner ▸ hnodup
  | cons name rest =>
    rw [get?_cons, child?_directory] at hinner
    obtain ⟨e, he, hinner⟩ := Option.bind_eq_some_iff.mp hinner
    exact hentries (name, e) (Keyed.mem_of_get? he) rest inner hinner

/-- In a file there is no directory. -/
lemma distinct_file (content : List UInt8) : (file content).Distinct := by
  rintro (_ | ⟨name, names⟩) entries ⟨⟩

/-- In a link there is no directory. -/
lemma distinct_link (target : Text) : (link target).Distinct := by
  rintro (_ | ⟨name, names⟩) entries ⟨⟩

/-! ## Entries in order -/

/-- Every directory of a tree lists its entries in strictly ascending order. -/
def Ordered (e : Entry) : Prop :=
  ∀ names entries, e.get? names = some (.directory entries) →
    (Keyed.keys entries).Pairwise (· < ·)

/-- In an ordered tree no directory lists a name twice. -/
lemma Ordered.distinct (h : e.Ordered) : e.Distinct :=
  fun names entries hentries => (h names entries hentries).imp ne_of_lt

/-- The entries of an ordered directory are ordered. -/
lemma Ordered.of_mem (h : (directory entries).Ordered) (hmem : (name, e) ∈ entries) :
    e.Ordered := by
  intro rest inner hinner
  apply h ([name] ++ rest)
  rw [get?_append, h.distinct.get?_singleton hmem, Option.bind_some, hinner]

lemma sortedAll_eq_map (entries : List (Text × Entry)) :
    sortedAll entries = entries.map fun (name, e) => (name, e.sorted) := by
  induction entries with
  | nil => rfl
  | cons entry entries ih =>
    obtain ⟨name, e⟩ := entry
    rw [sortedAll, ih, List.map_cons]

/-- What stands in the sorted form of a tree under a name. -/
lemma child?_sorted (h : e.Distinct) (name : Text) :
    e.sorted.child? name = (e.child? name).map sorted := by
  cases e with
  | file content => rfl
  | link target => rfl
  | directory entries =>
    have hnodup : (Keyed.keys (sortedAll entries)).Nodup := by
      rw [sortedAll_eq_map, Keyed.keys_map]
      exact h.nodup
    rw [sorted, child?_directory, child?_directory,
      ← Keyed.get?_eq_of_perm (List.mergeSort_perm _ nameLe).symm hnodup, sortedAll_eq_map,
      Keyed.get?_map]

/-- **What stands in the sorted form of a tree** is the sorted form of what stands in the tree. -/
theorem get?_sorted (h : e.Distinct) (names : List Text) :
    e.sorted.get? names = (e.get? names).map sorted := by
  induction names generalizing e with
  | nil => rfl
  | cons name names ih =>
    rw [get?_cons, get?_cons, child?_sorted h]
    cases hchild : e.child? name with
    | none => rfl
    | some child =>
      have hget : e.get? [name] = some child := by rw [get?_cons, hchild]; rfl
      exact ih (h.of_get? hget)

/-- Sorted entries are in ascending order. -/
lemma pairwise_keys_mergeSort (entries : List (Text × Entry)) :
    (Keyed.keys (entries.mergeSort nameLe)).Pairwise (· ≤ ·) := by
  rw [Keyed.keys, List.pairwise_map]
  have hle : (entries.mergeSort nameLe).Pairwise fun a b => nameLe a b = true :=
    List.pairwise_mergeSort (fun a b c => Text.trans_le a.1 b.1 c.1)
      (fun a b => Text.total_le a.1 b.1) entries
  exact hle.imp fun h => (Text.le_iff _ _).mp h

/-- **The sorted form of a tree is ordered.** -/
theorem ordered_sorted (h : e.Distinct) : e.sorted.Ordered := by
  intro names entries hentries
  rw [get?_sorted h] at hentries
  obtain ⟨part, hpart, hsorted⟩ := Option.map_eq_some_iff.mp hentries
  cases part with
  | file content => cases hsorted
  | link target => cases hsorted
  | directory inner =>
    rw [sorted, directory.injEq] at hsorted
    subst hsorted
    have hnodup : (Keyed.keys ((sortedAll inner).mergeSort nameLe)).Nodup := by
      rw [(Keyed.perm_keys (List.mergeSort_perm (sortedAll inner) nameLe)).nodup_iff,
        sortedAll_eq_map, Keyed.keys_map]
      exact h names inner hpart
    refine (List.Pairwise.and (pairwise_keys_mergeSort _) hnodup).imp ?_
    rintro a b ⟨hab, hne⟩
    exact lt_of_le_of_ne hab hne

end Entry

end UnitForge
