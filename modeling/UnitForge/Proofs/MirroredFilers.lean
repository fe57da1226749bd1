import UnitForge.Proofs.UnitPlacement

set_option autoImplicit false

/-!
# Filers in step

A filer in memory and one in a directory keep the same account of a run: the same names with the
same texts, and the same values on whose behalf they were created. As long as the operating system
refuses nothing, every creation has the same outcome on both. Only a chunk that is no text tells
them apart: it is kept in memory and refused by the sink of a file, and from then on what is kept in
memory is no text either.

## Main definitions

* `UnitForge.Filer.outcomes` — the outcomes of the creations among calls.
* `UnitForge.FileSink.Follows` — a sink of a file holds what one in memory keeps, if that is a text.
* `UnitForge.Mirrors` — a store in memory and one in a directory keep the same account.

## Main results

* `UnitForge.Mirrors.step` — one call keeps the accounts the same.
* `UnitForge.Mirrors.run` — so does a run, and every creation has the same outcome.
-/

namespace UnitForge

namespace Filer

variable {σ : Type}

/-- The outcomes of the creations among calls, in order. -/
def outcomes (F : Filer σ) (s : σ) : List FilerCall → List (Except Failure SinkId)
  | [] => []
  | .create name originating :: calls =>
    (F.create name originating s).1 :: F.outcomes (F.create name originating s).2 calls
  | call :: calls => F.outcomes (F.step s call) calls

/-- The creations of a run end as those of its first call do, and then as those of the others. -/
lemma outcomes_cons (F : Filer σ) (s : σ) (call : FilerCall) (calls : List FilerCall) :
    F.outcomes s (call :: calls) = F.outcomes s [call] ++ F.outcomes (F.step s call) calls := by
  cases call <;> rfl

/-- The operating system refuses none of the creations. -/
def Unhindered (F : Filer σ) (s : σ) (calls : List FilerCall) : Prop :=
  ∀ e, .error (Failure.ofFile e) ∉ F.outcomes s calls

lemma Unhindered.of_cons {F : Filer σ} {s : σ} {call : FilerCall} {calls : List FilerCall}
    (h : F.Unhindered s (call :: calls)) :
    F.Unhindered s [call] ∧ F.Unhindered (F.step s call) calls := by
  rw [Unhindered, outcomes_cons] at h
  exact ⟨fun e hm => h e (List.mem_append_left _ hm), fun e hm => h e (List.mem_append_right _ hm)⟩

/-- The operating system does not refuse a creation. -/
lemma Unhindered.create {F : Filer σ} {s : σ} {name : Text} {originating : Value}
    (h : F.Unhindered s [.create name originating]) (e : FileError) :
    (F.create name originating s).1 ≠ .error (Failure.ofFile e) :=
  fun he => h e (he ▸ List.mem_singleton_self _)

end Filer

/-- What a change of the elements of a list leaves as it is, it leaves as it is in the list. -/
lemma map_modify_eq {α β : Type} {g : α → β} {f : α → α} (h : ∀ x, g (f x) = g x) (i : Nat)
    (l : List α) : (l.modify i f).map g = l.map g := by
  apply List.ext_getElem?
  intro j
  rw [List.getElem?_map, List.getElem?_map, List.getElem?_modify]
  cases l[j]? with
  | none => rfl
  | some x => by_cases hj : i = j <;> simp [hj, h]

namespace RawText

/-- The raw text of a text determines it. -/
lemma ofText_injective : Function.Injective ofText :=
  List.map_injective_iff.mpr fun _ _ h => CodePoint.char.inj h

/-- If a raw text with another appended is a text, then both are. -/
lemma append_eq_ofText {a b : RawText} {text : Text} (h : a ++ b = ofText text) :
    ∃ first second, text = first ++ second ∧ a = ofText first ∧ b = ofText second := by
  obtain ⟨first, second, htext, ha, hb⟩ := List.append_eq_map_iff.mp h
  exact ⟨first, second, htext, ha.symm, hb.symm⟩

end RawText

/-- A sink that writes a file follows one in memory: both are open or closed, and if what is kept in
memory is a text, then it is the text written. -/
structure FileSink.Follows (sink : FileSink) (kept : MemorySink) : Prop where
  /-- The sinks are open or closed alike. -/
  closed : sink.closed = kept.closed
  /-- A text that is kept in memory has been written. -/
  text : ∀ {text : Text}, kept.text = .ofText text → sink.text = text

namespace FileSink.Follows

variable {sink : FileSink} {kept : MemorySink} {chunk : RawText}

/-- A sink goes on following if a text is written to both. -/
lemma append {text : Text} (h : sink.Follows kept) (hchunk : chunk = .ofText text) :
    { sink with text := sink.text ++ text }.Follows { kept with text := kept.text ++ chunk } where
  closed := h.closed
  text {whole} hwhole := by
    obtain ⟨first, second, rfl, hfirst, hsecond⟩ := RawText.append_eq_ofText hwhole
    obtain rfl := RawText.ofText_injective (hchunk.symm.trans hsecond)
    exact congrArg (· ++ _) (h.text hfirst)

/-- A sink goes on following if a chunk is refused that is no text: what is kept in memory is no
text from then on. -/
lemma refuse {e : EncodeError} (h : sink.Follows kept) (hchunk : chunk.toText = .error e) :
    sink.Follows { kept with text := kept.text ++ chunk } where
  closed := h.closed
  text hwhole := by
    obtain ⟨first, second, -, -, rfl⟩ := RawText.append_eq_ofText hwhole
    simp at hchunk

/-- A sink goes on following if both are closed. -/
lemma close (h : sink.Follows kept) :
    { sink with closed := true }.Follows { kept with closed := true } :=
  ⟨rfl, h.text⟩

end FileSink.Follows

/-- A store in memory and one in a directory keep the same account of the units created. -/
structure Mirrors (m : MemoryStore) (s : DirectoryStore) : Prop where
  /-- The names are the same. -/
  names : Keyed.keys m.sinks = Keyed.keys s.created
  /-- The sinks of the directory follow those in memory. -/
  sinks : ∀ id, Option.Rel FileSink.Follows s.sinks[id]? (m.sink? id)
  /-- The values on whose behalf the units were created are the same. -/
  originating : m.originating = s.originating

namespace Mirrors

variable {m : MemoryStore} {s : DirectoryStore} {id : SinkId}

/-- A sink of the directory follows one in memory. -/
lemma exists_kept (h : Mirrors m s) {sink : FileSink} (hsink : s.sinks[id]? = some sink) :
    ∃ kept, m.sink? id = some kept ∧ sink.Follows kept := by
  have hrel := h.sinks id
  rw [hsink] at hrel
  cases hm : m.sink? id with
  | none => rw [hm] at hrel; cases hrel
  | some kept =>
    rw [hm] at hrel
    cases hrel with
    | some hfollows => exact ⟨kept, rfl, hfollows⟩

/-- There is no sink in memory that none follows. -/
lemma sink?_eq_none (h : Mirrors m s) (hsink : s.sinks[id]? = none) : m.sink? id = none := by
  have hrel := h.sinks id
  rw [hsink] at hrel
  cases hm : m.sink? id with
  | none => rfl
  | some kept => rw [hm] at hrel; cases hrel

lemma length_sinks (h : Mirrors m s) : m.sinks.length = s.sinks.length := by
  apply Nat.le_antisymm
  · have hnone := h.sink?_eq_none (List.getElem?_eq_none (Nat.le_refl s.sinks.length))
    exact List.getElem?_eq_none_iff.mp (Option.map_eq_none_iff.mp hnone)
  · by_contra hlt
    obtain ⟨kept, hkept, -⟩ := h.exists_kept (List.getElem?_eq_getElem (Nat.not_le.mp hlt))
    simp [MemoryStore.sink?] at hkept

/-- Changing a sink in memory keeps the accounts the same if the sink that follows it changes so
that it goes on following, and the other sinks stay as they are. -/
lemma modifySink (h : Mirrors m s) {t : DirectoryStore} (id : SinkId) (f : MemorySink → MemorySink)
    (hcreated : t.created = s.created) (horiginating : t.originating = s.originating)
    (hothers : ∀ other, id ≠ other → t.sinks[other]? = s.sinks[other]?)
    (hchanged : Option.Rel FileSink.Follows t.sinks[id]? ((m.sink? id).map f)) :
    Mirrors (m.modifySink id f) t where
  names := by
    rw [hcreated, ← h.names]
    exact map_modify_eq (g := Prod.fst) (f := fun x => (x.1, f x.2)) (fun _ => rfl) id m.sinks
  sinks other := by
    rw [MemoryStore.sink?_modifySink]
    by_cases hid : id = other
    · subst hid
      simpa using hchanged
    · simpa [hid, hothers other hid] using h.sinks other
  originating := h.originating.trans horiginating.symm

/-- Writing to a sink keeps the accounts the same. -/
lemma write (h : Mirrors m s) (id : SinkId) (chunk : RawText) :
    Mirrors (m.write id chunk).2 (s.write id chunk).2 := by
  rw [MemoryStore.write, DirectoryStore.write]
  cases hsink : s.sinks[id]? with
  | none => simpa [h.sink?_eq_none hsink] using h
  | some sink =>
    obtain ⟨kept, hkept, hfollows⟩ := h.exists_kept hsink
    simp only [hkept, ← hfollows.closed]
    split
    next => exact h
    next =>
      cases hchunk : chunk.toText with
      | error e =>
        dsimp only
        refine h.modifySink id _ rfl rfl (fun _ _ => rfl) ?_
        rw [hsink, hkept]
        exact .some (hfollows.refuse hchunk)
      | ok text =>
        dsimp only
        refine h.modifySink id _ rfl rfl (fun other hid => ?_) ?_
        · simp [DirectoryStore.modifySink, hid]
        · rw [DirectoryStore.getElem?_modifySink, hsink, hkept]
          exact .some (hfollows.append (RawText.toText_eq_ok_iff.mp hchunk))

/-- Closing a sink keeps the accounts the same: one that has been closed before stays as it is in
memory too. -/
lemma close (h : Mirrors m s) (id : SinkId) : Mirrors (m.close id).2 (s.close id).2 := by
  rw [MemoryStore.close, DirectoryStore.close]
  dsimp only
  cases hsink : s.sinks[id]? with
  | none =>
    refine h.modifySink id _ rfl rfl (fun _ _ => rfl) ?_
    rw [hsink, h.sink?_eq_none hsink]
    exact .none
  | some sink =>
    obtain ⟨kept, hkept, hfollows⟩ := h.exists_kept hsink
    dsimp only
    split
    next hclosed =>
      refine h.modifySink id _ rfl rfl (fun _ _ => rfl) ?_
      rw [hsink, hkept]
      exact .some ⟨hclosed, hfollows.text⟩
    next =>
      refine h.modifySink id _ rfl rfl (fun other hid => ?_) ?_
      · simp [DirectoryStore.modifySink, hid]
      · simp only [DirectoryStore.getElem?_modifySink, hsink, hkept]
        exact .some hfollows.close

/-- A creation that the operating system does not refuse ends alike, and keeps the accounts the
same. -/
lemma create (h : Mirrors m s) (name : Text) (originating : Value)
    (hfree : ∀ e, (s.create name originating).1 ≠ .error (Failure.ofFile e)) :
    (m.create name originating).1 = (s.create name originating).1 ∧
      Mirrors (m.create name originating).2 (s.create name originating).2 := by
  have hcreation := s.creation_create name originating
  generalize s.create name originating = r at hcreation hfree ⊢
  cases hcreation with
  | duplicate hused =>
    rw [← h.names, ← Keyed.has_eq_true_iff] at hused
    rw [MemoryStore.create, if_pos hused]
    exact ⟨rfl, h⟩
  | unsuited hnew htarget =>
    rw [← h.names, ← Keyed.has_eq_true_iff] at hnew
    rw [MemoryStore.create, if_neg hnew, htarget]
    exact ⟨rfl, h⟩
  | failed => exact absurd rfl (hfree _)
  | opened hnew htarget =>
    rw [← h.names] at hnew
    rw [MemoryStore.create_of_new hnew htarget]
    refine ⟨congrArg Except.ok h.length_sinks, ?_, fun id => ?_, ?_⟩
    · simpa [Keyed.keys] using h.names
    · have hrel := h.sinks id
      rw [MemoryStore.sink?] at hrel ⊢
      rcases Nat.lt_trichotomy id s.sinks.length with hid | rfl | hid
      · rwa [List.getElem?_append_left hid, List.getElem?_append_left (h.length_sinks ▸ hid)]
      · rw [List.getElem?_concat_length, ← h.length_sinks, List.getElem?_concat_length]
        exact .some ⟨rfl, fun h => (List.map_eq_nil_iff.mp h.symm).symm⟩
      · rw [List.getElem?_eq_none (by simpa using hid),
          List.getElem?_eq_none (by simpa [h.length_sinks] using hid)]
        exact .none
    · simp [h.originating]

/-- **One call keeps the accounts the same**, and if it is a creation, then it ends alike. -/
theorem step (h : Mirrors m s) (call : FilerCall) (hfree : directoryFiler.Unhindered s [call]) :
    memoryFiler.outcomes m [call] = directoryFiler.outcomes s [call] ∧
      Mirrors (memoryFiler.step m call) (directoryFiler.step s call) := by
  cases call with
  | create name originating =>
    obtain ⟨houtcome, hmirrors⟩ := h.create name originating hfree.create
    exact ⟨congrArg ([·]) houtcome, hmirrors⟩
  | write id chunk => exact ⟨rfl, h.write id chunk⟩
  | close id => exact ⟨rfl, h.close id⟩

/-- **A run keeps the accounts the same**, and every creation ends alike. -/
theorem run (h : Mirrors m s) (calls : List FilerCall)
    (hfree : directoryFiler.Unhindered s calls) :
    memoryFiler.outcomes m calls = directoryFiler.outcomes s calls ∧
      Mirrors (memoryFiler.run m calls) (directoryFiler.run s calls) := by
  induction calls generalizing m s with
  | nil => exact ⟨rfl, h⟩
  | cons call calls ih =>
    obtain ⟨hfirst, hothers⟩ := hfree.of_cons
    obtain ⟨houtcome, hmirrors⟩ := h.step call hfirst
    obtain ⟨houtcomes, hrun⟩ := ih hmirrors hothers
    rw [Filer.outcomes_cons, Filer.outcomes_cons directoryFiler, houtcome, houtcomes]
    exact ⟨rfl, hrun⟩

/-! ## The texts kept in memory -/

/-- In memory the same names have texts as are recorded in the directory. -/
lemma keys_sources (h : Mirrors m s) : Keyed.keys m.sources = Keyed.keys s.created := by
  rw [← h.names, MemoryStore.sources, Keyed.keys, List.map_map]
  rfl

/-- What is kept in memory under a name is followed by its sink in the directory. -/
lemma exists_get?_sources (h : Mirrors m s) (hnodup : (Keyed.keys s.created).Nodup)
    {entry : Text × Path} {sink : FileSink} (hentry : s.created[id]? = some entry)
    (hsink : s.sinks[id]? = some sink) :
    ∃ kept, Keyed.get? m.sources entry.1 = some kept.text ∧ sink.Follows kept := by
  obtain ⟨kept, hkept, hfollows⟩ := h.exists_kept hsink
  refine ⟨kept, Keyed.get?_eq_some (h.keys_sources ▸ hnodup) ?_, hfollows⟩
  obtain ⟨⟨name, _⟩, hm, rfl⟩ := Option.map_eq_some_iff.mp hkept
  have hname : (Keyed.keys m.sinks)[id]? = some entry.1 := by
    rw [h.names, Keyed.keys, List.getElem?_map, hentry, Option.map_some]
  rw [Keyed.keys, List.getElem?_map, hm] at hname
  obtain rfl : name = entry.1 := Option.some.inj hname
  exact List.mem_map_of_mem (f := fun x : Text × MemorySink => (x.1, x.2.text))
    (List.mem_of_getElem? hm)

end Mirrors

end UnitForge
