import Mathlib.Data.List.Nodup
import UnitForge.Keyed

set_option autoImplicit false

/-!
# Laws of values by key

What can be looked up among values by key is what is listed there, as long as no key occurs twice,
and putting a value under a key keeps it so.

## Main results

* `UnitForge.Keyed.get?_eq_some_iff` — what can be looked up is what is listed.
* `UnitForge.Keyed.keys_put` — the keys after a value has been put under one.
* `UnitForge.Keyed.get?_eq_of_perm` — the order of the keys does not matter.
-/

namespace UnitForge.Keyed

variable {α : Type} {entries : Keyed α} {key : Text} {value : α}

/-- There is a value under a key if and only if it is one of the keys. -/
lemma has_eq_true_iff : has entries key = true ↔ key ∈ keys entries := by
  simp [has, keys]

/-- What can be looked up is listed. -/
lemma mem_of_get? (h : get? entries key = some value) : (key, value) ∈ entries := by
  rw [get?] at h
  obtain ⟨⟨k, v⟩, hentry, rfl⟩ := Option.map_eq_some_iff.mp h
  obtain rfl : k = key := by simpa using List.find?_some hentry
  exact List.mem_of_find?_eq_some hentry

/-- What there is a value under is a key. -/
lemma mem_keys (h : get? entries key = some value) : key ∈ keys entries :=
  List.mem_map_of_mem (f := (·.1)) (mem_of_get? h)

/-- The value under a key that occurs once. -/
lemma get?_eq_some (hnodup : (keys entries).Nodup) (h : (key, value) ∈ entries) :
    get? entries key = some value := by
  induction entries with
  | nil => exact absurd h List.not_mem_nil
  | cons entry entries ih =>
    rw [keys, List.map_cons, List.nodup_cons] at hnodup
    rcases List.mem_cons.mp h with rfl | h
    · simp [get?]
    · have hne : entry.1 ≠ key := by
        rintro rfl
        exact hnodup.1 (List.mem_map_of_mem (f := (·.1)) h)
      have hrest := ih hnodup.2 h
      rw [get?] at hrest ⊢
      rw [List.find?_cons_of_neg (by simpa using hne), hrest]

/-- **What can be looked up is what is listed**, if no key occurs twice. -/
theorem get?_eq_some_iff (hnodup : (keys entries).Nodup) :
    get? entries key = some value ↔ (key, value) ∈ entries :=
  ⟨mem_of_get?, get?_eq_some hnodup⟩

/-- There is a value under every key. -/
lemma exists_of_mem_keys (h : key ∈ keys entries) : ∃ value, get? entries key = some value := by
  obtain ⟨⟨k, v⟩, hentry, rfl⟩ := List.mem_map.mp h
  have hfound : (entries.find? (·.1 == k)).isSome := List.find?_isSome.mpr ⟨_, hentry, by simp⟩
  obtain ⟨found, hfound⟩ := Option.isSome_iff_exists.mp hfound
  exact ⟨found.2, by rw [get?, hfound, Option.map_some]⟩

/-- A key has no value under it if and only if it is none of the keys. -/
lemma get?_eq_none_iff : get? entries key = none ↔ key ∉ keys entries := by
  refine ⟨fun h hkey => ?_, fun h => ?_⟩
  · obtain ⟨value, hvalue⟩ := exists_of_mem_keys hkey
    exact absurd (h.symm.trans hvalue) (by simp)
  · cases hvalue : get? entries key with
    | none => rfl
    | some value => exact absurd (mem_keys hvalue) h

/-- **The keys after a value has been put under one** are the same ones, with the new key at the
end if it is new. -/
theorem keys_put (key : Text) (value : α) (entries : Keyed α) :
    keys (put key value entries) =
      if key ∈ keys entries then keys entries else keys entries ++ [key] := by
  induction entries with
  | nil => rfl
  | cons entry entries ih =>
    obtain ⟨k, v⟩ := entry
    rw [put]
    rcases eq_or_ne k key with rfl | hne
    · rw [if_pos rfl, if_pos (by simp [keys])]
      rfl
    · have hmem : key ∈ keys ((k, v) :: entries) ↔ key ∈ keys entries := by
        simp [keys, hne.symm]
      rw [if_neg hne, keys, List.map_cons, ← keys, ih]
      simp only [hmem]
      split <;> rfl

/-- Putting a value under a key makes no key occur twice. -/
lemma nodup_keys_put (h : (keys entries).Nodup) (key : Text) (value : α) :
    (keys (put key value entries)).Nodup := by
  rw [keys_put]
  split
  next => exact h
  next hnew =>
    rw [← List.concat_eq_append]
    exact h.concat hnew

/-! ## Other listings -/

/-- The values that a function makes of others are found under the same keys. -/
lemma get?_map {β : Type} (f : α → β) (entries : Keyed α) (key : Text) :
    get? (entries.map fun (k, v) => (k, f v)) key = (get? entries key).map f := by
  rw [get?, get?, List.find?_map, Option.map_map, Option.map_map]
  rfl

/-- The keys stay when a function makes other values of those under them. -/
lemma keys_map {β : Type} (f : α → β) (entries : Keyed α) :
    keys (entries.map fun (k, v) => (k, f v)) = keys entries := by
  rw [keys, keys, List.map_map]
  rfl

/-- Values listed in another order have the same keys. -/
lemma perm_keys {entries' : Keyed α} (h : entries.Perm entries') :
    (keys entries).Perm (keys entries') :=
  h.map _

/-- **What is found under a key does not depend on the order in which the keys are listed**, if none
of them is listed twice. -/
theorem get?_eq_of_perm {entries' : Keyed α} (h : entries.Perm entries')
    (hnodup : (keys entries).Nodup) (key : Text) : get? entries key = get? entries' key := by
  ext value
  rw [get?_eq_some_iff hnodup, get?_eq_some_iff ((perm_keys h).nodup_iff.mp hnodup), h.mem_iff]

end UnitForge.Keyed
