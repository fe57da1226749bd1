import UnitForge.Proofs.MirroredFilers

set_option autoImplicit false

/-!
# Refused targets

A filer refuses a target whose name has been used or is not that of an outermost type, and it looks
at the name before it does anything else. So a refusal changes nothing. A filer in a directory may
also fail at the hands of the operating system, at any point of making the directories and opening
the file. It keeps its record until the file is open, so that the name may be tried again.

What the operating system does is left open here: every stretch of calls meets a system of its own,
which may refuse anything and leave any disk behind.

## Main definitions

* `UnitForge.Unsuited` — names that are not those of outermost types.
* `UnitForge.Filer.Records` — how a filer treats the names that it keeps.
* `UnitForge.Filer.relay`, `UnitForge.Filer.relayed` — stretches of calls on several filers.
* `UnitForge.directoryFilerOn` — the filer in a directory on an operating system.

## Main results

* `UnitForge.Filer.names_relay` — the names kept are those of the targets created.
* `UnitForge.Filer.not_refused_of_failed` — a failure of the operating system uses no name up.
* `UnitForge.memoryFiler_records`, `UnitForge.directoryFilerOn_records` — both filers treat names
  alike.
* `UnitForge.refused_changes_nothing` — what is refused, and what a failure leaves as it was.
-/

namespace UnitForge

variable {name : Text} {originating : Value}

/-- A name that is not read as a type, or as a nested one. -/
def Unsuited (name : Text) : Prop :=
  (∃ e, QualifiedName.parse name = .error e) ∨
    ∃ n, QualifiedName.parse name = .ok n ∧ n.isTopLevel = false

/-- No target is named for such a name. -/
lemma unsuited_iff : Unsuited name ↔ ∃ e, checkTarget name = .error e := by
  rw [Unsuited, checkTarget]
  cases QualifiedName.parse name with
  | error e => simp
  | ok n => cases h : n.isTopLevel <;> simp [h]

/-- A target can be named for every other name. -/
lemma not_unsuited {n : QualifiedName} (h : checkTarget name = .ok n) : ¬ Unsuited name := by
  rw [unsuited_iff, h]
  simp

/-- What the operating system fails with is no refusal. -/
lemma Failure.ofFile_ne_refused (e : FileError) (e' : FilerError) : ofFile e ≠ .refused e' := by
  cases e <;> simp [ofFile]

namespace Filer

variable {σ ι : Type} {F : Filer σ} {names : σ → List Text} {spares : σ → σ → Prop}
  {s t : σ}

/-! ## Filers that keep names -/

/-- The ways in which the creation of a target ends on a filer whose states keep names. If the
operating system fails, then the state after it is one that `spares` the state before. -/
inductive Ends (names : σ → List Text) (spares : σ → σ → Prop) (s : σ) (name : Text) :
    Except Failure SinkId × σ → Prop
  /-- The name is kept already or does not suit. -/
  | refused (e : FilerError) (hrefused : name ∈ names s ∨ Unsuited name) :
    Ends names spares s name (.error (.refused e), s)
  /-- The operating system fails. -/
  | failed (e : FileError) (t : σ) (hnew : name ∉ names s) (hsuits : ¬ Unsuited name)
    (hspared : spares s t) : Ends names spares s name (.error (.ofFile e), t)
  /-- There is a sink. -/
  | opened (sink : SinkId) (t : σ) (hnew : name ∉ names s) (hsuits : ¬ Unsuited name)
    (hadded : names t = names s ++ [name]) : Ends names spares s name (.ok sink, t)

/-- The checks that come first: a target is refused if its name is kept already, and then if it does
not suit. -/
lemma Ends.of_checks {used : Bool} (hused : used = true ↔ name ∈ names s)
    {ending : QualifiedName → Except Failure SinkId × σ}
    (h : ∀ n, name ∉ names s → ¬ Unsuited name → Ends names spares s name (ending n)) :
    Ends names spares s name
      (if used then (.error (.refused (.duplicate name)), s)
      else
        match checkTarget name with
        | .error e => (.error (.refused e), s)
        | .ok n => ending n) := by
  split
  next hkept => exact .refused _ (.inl (hused.mp hkept))
  next hnew =>
    split
    next e htarget => exact .refused e (.inr (unsuited_iff.mpr ⟨e, htarget⟩))
    next n htarget => exact h n (mt hused.mpr hnew) (not_unsuited htarget)

/-- The names that the states of a filer keep are those of the targets that have been created. -/
structure Records (F : Filer σ) (names : σ → List Text) (spares : σ → σ → Prop) : Prop where
  /-- Every creation ends in one of the ways. -/
  create (s : σ) (name : Text) (originating : Value) :
    Ends names spares s name (F.create name originating s)
  /-- A failure of the operating system adds no name. -/
  spared {s t : σ} : spares s t → names t = names s
  /-- Writing to a sink adds no name. -/
  write (s : σ) (sink : SinkId) (chunk : RawText) : names (F.write sink chunk s).2 = names s
  /-- Closing a sink adds no name. -/
  close (s : σ) (sink : SinkId) : names (F.close sink s).2 = names s

namespace Records

/-- A target is refused exactly if its name is kept already or does not suit. -/
lemma refused_iff (h : F.Records names spares) (s : σ) (name : Text) (originating : Value) :
    (∃ e, (F.create name originating s).1 = .error (.refused e)) ↔
      name ∈ names s ∨ Unsuited name := by
  have hends := h.create s name originating
  generalize F.create name originating s = r at hends ⊢
  cases hends with
  | refused e hrefused => exact ⟨fun _ => hrefused, fun _ => ⟨e, rfl⟩⟩
  | failed e t hnew hsuits => simp [Failure.ofFile_ne_refused, hnew, hsuits]
  | opened sink t hnew hsuits => simp [hnew, hsuits]

/-- Nothing changes if a target is refused. -/
lemma eq_of_refused (h : F.Records names spares) {e : FilerError}
    (hcreate : F.create name originating s = (.error (.refused e), t)) : t = s := by
  have hends := h.create s name originating
  rw [hcreate] at hends
  generalize hr : (Except.error (Failure.refused e), t) = r at hends
  cases hends with
  | refused => exact congrArg Prod.snd hr
  | failed e' =>
    exact absurd (Except.error.inj (congrArg Prod.fst hr)).symm (Failure.ofFile_ne_refused e' e)
  | opened => cases congrArg Prod.fst hr

/-- If the operating system fails, then the name was new and suits, and the state is spared. -/
lemma of_failed (h : F.Records names spares) {e : FileError}
    (hcreate : F.create name originating s = (.error (.ofFile e), t)) :
    name ∉ names s ∧ ¬ Unsuited name ∧ spares s t := by
  have hends := h.create s name originating
  rw [hcreate] at hends
  generalize hr : (Except.error (Failure.ofFile e), t) = r at hends
  cases hends with
  | refused e' =>
    exact absurd (Except.error.inj (congrArg Prod.fst hr)) (Failure.ofFile_ne_refused e e')
  | failed e' u hnew hsuits hspared =>
    obtain rfl : t = u := congrArg Prod.snd hr
    exact ⟨hnew, hsuits, hspared⟩
  | opened => cases congrArg Prod.fst hr

/-- A call adds the names of the targets that it creates. -/
lemma names_step (h : F.Records names spares) (s : σ) (call : FilerCall) :
    names (F.step s call) = names s ++ F.accepted s [call] := by
  cases call with
  | create name originating =>
    have hends := h.create s name originating
    rw [step, accepted]
    generalize F.create name originating s = r at hends ⊢
    cases hends with
    | refused => exact (List.append_nil _).symm
    | failed _ _ _ _ hspared => exact (h.spared hspared).trans (List.append_nil _).symm
    | opened _ _ _ _ hadded => exact hadded
  | write sink chunk => exact (h.write s sink chunk).trans (List.append_nil _).symm
  | close sink => exact (h.close s sink).trans (List.append_nil _).symm

/-- So does a run. -/
lemma names_run (h : F.Records names spares) (s : σ) (calls : List FilerCall) :
    names (F.run s calls) = names s ++ F.accepted s calls := by
  induction calls generalizing s with
  | nil => exact (List.append_nil _).symm
  | cons call calls ih =>
    rw [accepted_cons, ← List.append_assoc, ← h.names_step]
    exact ih (F.step s call)

end Records

/-- The state after stretches of calls, each on one of several filers. -/
def relay (F : ι → Filer σ) (s : σ) (stretches : List (ι × List FilerCall)) : σ :=
  stretches.foldl (fun s stretch => (F stretch.1).run s stretch.2) s

/-- The names of the targets that stretches of calls create, in order. -/
def relayed (F : ι → Filer σ) (s : σ) : List (ι × List FilerCall) → List Text
  | [] => []
  | (i, calls) :: stretches => (F i).accepted s calls ++ relayed F ((F i).run s calls) stretches

/-- **The names kept are those of the targets created**, after those kept before. -/
theorem names_relay {F : ι → Filer σ} (h : ∀ i, (F i).Records names spares) (s : σ)
    (stretches : List (ι × List FilerCall)) :
    names (relay F s stretches) = names s ++ relayed F s stretches := by
  induction stretches generalizing s with
  | nil => exact (List.append_nil _).symm
  | cons stretch stretches ih =>
    rw [relayed, ← List.append_assoc, ← (h stretch.1).names_run]
    exact ih ((F stretch.1).run s stretch.2)

/-- **A name may be tried again** after the operating system has failed, and after further calls, as
long as these do not create a target of that name. -/
theorem not_refused_of_failed {F : ι → Filer σ} (h : ∀ i, (F i).Records names spares)
    {i : ι} {e : FileError} (hfailed : (F i).create name originating s = (.error (.ofFile e), t))
    {later : List (ι × List FilerCall)} (hlater : name ∉ relayed F t later) (j : ι) (value : Value)
    (refusal : FilerError) :
    ((F j).create name value (relay F t later)).1 ≠ .error (.refused refusal) := by
  obtain ⟨hnew, hsuits, hspared⟩ := (h i).of_failed hfailed
  intro hrefused
  rcases ((h j).refused_iff _ name value).mp ⟨refusal, hrefused⟩ with hkept | hunsuited
  · rw [names_relay h, (h i).spared hspared] at hkept
    exact (List.mem_append.mp hkept).elim hnew hlater
  · exact hsuits hunsuited

end Filer

/-! ## The filer in memory -/

/-- Changing a sink in memory changes no name. -/
lemma MemoryStore.keys_modifySink (s : MemoryStore) (id : SinkId) (f : MemorySink → MemorySink) :
    Keyed.keys (s.modifySink id f).sinks = Keyed.keys s.sinks :=
  map_modify_eq (g := Prod.fst) (f := fun x => (x.1, f x.2)) (fun _ => rfl) id s.sinks

/-- **The filer in memory keeps the names of its sinks**, and no operating system is asked. -/
theorem memoryFiler_records : memoryFiler.Records (fun s => Keyed.keys s.sinks) Eq where
  create s name originating := by
    change Filer.Ends _ _ s name (s.create name originating)
    rw [MemoryStore.create]
    refine .of_checks ?_ fun n hnew hsuits => ?_
    · exact Keyed.has_eq_true_iff
    · exact .opened _ _ hnew hsuits (by rw [Keyed.keys, List.map_append]; rfl)
  spared h := h ▸ rfl
  write s sink chunk := by
    change Keyed.keys (s.write sink chunk).2.sinks = _
    rw [MemoryStore.write]
    split
    · rfl
    · split
      · rfl
      · exact s.keys_modifySink sink _
  close s sink := s.keys_modifySink sink _

/-! ## The filer in a directory -/

namespace DirectoryStore

/-- The second store is the first with another disk, if not the same. -/
def SparesRecord (s t : DirectoryStore) : Prop := ∃ disk, t = { s with disk }

end DirectoryStore

/-- The filer that writes units below a directory, on an operating system. -/
def directoryFilerOn (os : FileSystem) : Filer DirectoryStore :=
  { directoryFiler with create := DirectoryStore.createOn os }

/-- **The filer in a directory keeps the names of its record**, and a failure of the operating
system spares it. -/
theorem directoryFilerOn_records (os : FileSystem) :
    (directoryFilerOn os).Records (fun s => Keyed.keys s.created)
      DirectoryStore.SparesRecord where
  create s name originating := by
    change Filer.Ends _ _ s name (s.createOn os name originating)
    rw [DirectoryStore.createOn]
    refine .of_checks ?_ fun n hnew hsuits => ?_
    · exact Keyed.has_eq_true_iff
    · dsimp only
      split
      next disk e _ => exact .failed e _ hnew hsuits ⟨disk, rfl⟩
      next disk _ =>
        split
        next disk e _ => exact .failed e _ hnew hsuits ⟨disk, rfl⟩
        next disk names _ =>
          exact .opened _ _ hnew hsuits (by rw [Keyed.keys, List.map_append]; rfl)
  spared := by
    rintro s t ⟨disk, rfl⟩
    rfl
  write s sink chunk := congrArg Keyed.keys (s.sameRecord_write sink chunk).created
  close s sink := congrArg Keyed.keys (s.sameRecord_close sink).created

/-- **A refused creation changes nothing.** Let calls be made on a new filer in memory, or in
stretches on a new filer in a directory, where each stretch meets an operating system of its own.
Then a target is refused exactly if one of that name has been created or the name is not that of an
outermost type, and the state is the same after the refusal. If the operating system fails, then
nothing but the disk may be different, and whatever calls are made then, the name is not refused
unless a target of that name has been created by them. The filer in a directory that runs is that on
the operating system that does what the disk allows.

**Proof sketch.** Each creation ends in one of a few ways (`Filer.Ends`), which say what is refused
and what becomes of the names kept. So these are those of the targets created
(`Filer.names_relay`). A name that is tried again has been tried once without a refusal, so
that it suits and was not kept (`Filer.not_refused_of_failed`). -/
theorem refused_changes_nothing :
    (∀ calls name originating,
      ((∃ e, ((memoryFiler.run {} calls).create name originating).1 = .error (.refused e)) ↔
          name ∈ memoryFiler.accepted {} calls ∨ Unsuited name) ∧
        ∀ e t, (memoryFiler.run {} calls).create name originating = (.error (.refused e), t) →
          t = memoryFiler.run {} calls) ∧
      directoryFilerOn .plain = directoryFiler ∧
      ∀ base : DirectoryStore, base.created = [] → ∀ stretches os name originating,
        let s := Filer.relay directoryFilerOn base stretches
        ((∃ e, (s.createOn os name originating).1 = .error (.refused e)) ↔
            name ∈ Filer.relayed directoryFilerOn base stretches ∨ Unsuited name) ∧
          (∀ e t, s.createOn os name originating = (.error (.refused e), t) → t = s) ∧
          ∀ e t, s.createOn os name originating = (.error (.ofFile e), t) →
            (∃ disk, t = { s with disk }) ∧
              ∀ later, name ∉ Filer.relayed directoryFilerOn t later →
                ∀ system value refusal,
                  ((Filer.relay directoryFilerOn t later).createOn system name value).1 ≠
                    .error (.refused refusal) := by
  refine ⟨fun calls name originating => ⟨?_, ?_⟩, rfl,
    fun base hbase stretches os name originating => ?_⟩
  · have hkeys : Keyed.keys (memoryFiler.run {} calls).sinks =
        memoryFiler.accepted {} calls :=
      memoryFiler_records.names_run {} calls
    rw [← hkeys]
    exact memoryFiler_records.refused_iff _ name originating
  · exact fun e t => memoryFiler_records.eq_of_refused
  · intro s
    have hkeys : Keyed.keys s.created = Filer.relayed directoryFilerOn base stretches := by
      have hempty : Keyed.keys base.created = [] := by rw [hbase, Keyed.keys, List.map_nil]
      have hnames := Filer.names_relay directoryFilerOn_records base stretches
      rwa [hempty, List.nil_append] at hnames
    refine ⟨hkeys ▸ (directoryFilerOn_records os).refused_iff s name originating,
      fun e t => (directoryFilerOn_records os).eq_of_refused, fun e t hfailed => ⟨?_, ?_⟩⟩
    · exact ((directoryFilerOn_records os).of_failed hfailed).2.2
    · exact fun later hlater => Filer.not_refused_of_failed directoryFilerOn_records hfailed hlater

/-- An operating system that makes directories and opens no files. -/
def FileSystem.locked : FileSystem where
  makeDirectories := Disk.makeDirectories
  openFile disk path := (disk, .error (.os (.refused .denied path.toText)))

/-- A stretch of calls that creates `com.x.Foo`. -/
def fooStretch : FileSystem × List FilerCall :=
  (.plain, [.create (Text.lit "com.x.Foo") .absent])

/-- After a target has been created, its name is refused; another one is not refused after its file
could not be opened. -/
theorem refused_changes_nothing_locked :
    let s := Filer.relay directoryFilerOn DirectoryStore.blankStore [fooStretch]
    (∃ e, (s.createOn .plain (Text.lit "com.x.Foo") .absent).1 = .error (.refused e)) ∧
      ∃ e t, s.createOn .locked (Text.lit "com.x.Bar") .absent = (.error (.ofFile e), t) ∧
        (∃ disk, t = { s with disk }) ∧
        ∀ refusal, (t.createOn .plain (Text.lit "com.x.Bar") .absent).1 ≠
          .error (.refused refusal) := by
  have hlocked : ((Filer.relay directoryFilerOn DirectoryStore.blankStore [fooStretch]).createOn
      .locked (Text.lit "com.x.Bar") .absent).1 =
        .error (.ofFile (.os (.refused .denied (Text.lit "out/com/x/Bar.java")))) := by
    cbv
  intro s
  obtain ⟨-, -, hdirectory⟩ := refused_changes_nothing
  have haccepted : Filer.relayed directoryFilerOn DirectoryStore.blankStore [fooStretch] =
      [Text.lit "com.x.Foo"] := by
    cbv
  obtain ⟨hrefused, -, -⟩ := hdirectory DirectoryStore.blankStore rfl [fooStretch] .plain
    (Text.lit "com.x.Foo") .absent
  obtain ⟨-, -, hfailed⟩ := hdirectory DirectoryStore.blankStore rfl [fooStretch] .locked
    (Text.lit "com.x.Bar") .absent
  obtain ⟨hdisk, hretry⟩ := hfailed _ _ (Prod.ext hlocked rfl)
  refine ⟨hrefused.mpr (.inl ?_), _, _, Prod.ext hlocked rfl, hdisk,
    hretry [] List.not_mem_nil .plain .absent⟩
  rw [haccepted]
  exact List.mem_singleton_self _

end UnitForge
