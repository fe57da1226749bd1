import UnitForge.GeneratedUnit
import UnitForge.Output.Memory
import UnitForge.Proofs.DistinctTargets

set_option autoImplicit false

/-!
# Where units land

A unit asks its filer for a target by the full text of its name, and the filer reads that text
again. So the unit lands in the file of its name if the name is read back from its full text; if
not, the target is refused, or the unit lands in the file of another type.

## Main definitions

* `UnitForge.Filer.Serves` — a sink of a filer goes on working.

## Main results

* `UnitForge.GeneratedUnit.begin_of_serves` — a unit whose sink works is opened if its scope can be
  seeded.
* `UnitForge.GeneratedUnit.unit_lands` — which units land in the file of their name.
-/

namespace UnitForge

/-! ## Opening a unit on a sink that works -/

/-- As long as `P` holds of the state, writing to the sink goes well and keeps `P`, and closing it
goes well and leads to `Q`. -/
structure Filer.Serves {σ : Type} (F : Filer σ) (sink : SinkId) (P Q : σ → Prop) : Prop where
  /-- Writing goes well. -/
  write : ∀ (chunk : Text) s, P s → ∃ t, F.write sink (.ofText chunk) s = (.ok (), t) ∧ P t
  /-- Closing goes well. -/
  close : ∀ s, P s → ∃ t, F.close sink s = (.ok (), t) ∧ Q t

namespace GeneratedUnit

variable {σ : Type} {F : Filer σ} {sink : SinkId} {P Q : σ → Prop} {s t : σ}

/-- Writing chunks to a sink that works goes well. -/
lemma writeAll_of_serves (h : F.Serves sink P Q) (chunks : List Text) (hs : P s) :
    ∃ t, F.writeAll sink chunks s = (.ok (), t) ∧ P t := by
  induction chunks generalizing s with
  | nil => exact ⟨s, rfl, hs⟩
  | cons chunk chunks ih =>
    obtain ⟨t, hwrite, ht⟩ := h.write chunk s hs
    rw [Filer.writeAll, hwrite]
    exact ih ht

/-- **A unit whose sink works is opened unless its scope cannot be seeded**, and then the sink is
closed. -/
theorem begin_of_serves {p : UnitPlan} (h : F.Serves sink P Q) (hPQ : ∀ s, P s → Q s)
    (hcreate : F.create p.name.toText p.originating s = (.ok sink, t)) (ht : P t) :
    (∀ e, (begin F p s).1 = .error e ↔ p.seededScope = .error e) ∧ Q (begin F p s).2 := by
  obtain ⟨opened, hwrite, hopened⟩ := writeAll_of_serves h (openingChunks p.name) ht
  have hsink : F.openSink p.name p.originating s = (.ok sink, opened) := by
    rw [Filer.openSink, hcreate]
    dsimp only
    rw [hwrite]
  rw [begin, hsink]
  cases hscope : p.seededScope with
  | ok scope => exact ⟨fun e => by simp, hPQ opened hopened⟩
  | error failure =>
    obtain ⟨closed, hclose, hclosed⟩ := h.close opened hopened
    dsimp only
    rw [Filer.closeAfter, hclose]
    exact ⟨fun e => by simp, hclosed⟩

/-- A unit whose target is not created is not opened. It is refused only if its target is. -/
lemma begin_of_create_error {p : UnitPlan} {failure : Failure}
    (h : F.create p.name.toText p.originating s = (.error failure, t)) :
    (begin F p s).2 = t ∧
      ∀ e, (begin F p s).1 = .error (.refused e) ↔ failure = .refused e := by
  rw [begin, Filer.openSink, h]
  cases failure with
  | os error => exact ⟨rfl, fun e => by simp⟩
  | _ => exact ⟨rfl, fun e => by simp⟩

end GeneratedUnit

/-! ## The sinks of the two filers -/

namespace MemoryStore

variable {s : MemoryStore}

/-- What becomes of the sinks when one of them is changed. -/
lemma sink?_modifySink (s : MemoryStore) (sink : SinkId) (f : MemorySink → MemorySink)
    (other : SinkId) :
    (s.modifySink sink f).sink? other =
      (s.sink? other).map fun k => if sink = other then f k else k := by
  rw [sink?, sink?, modifySink, List.getElem?_modify]
  cases s.sinks[other]? with
  | none => rfl
  | some entry => by_cases hsink : sink = other <;> simp [hsink]

/-- A sink in memory works as long as it is open. -/
lemma serves (sink : SinkId) :
    memoryFiler.Serves sink (fun s => ∃ k, s.sink? sink = some k ∧ k.closed = false)
      (fun _ => True) where
  write chunk s := by
    rintro ⟨k, hk, hopen⟩
    refine ⟨s.modifySink sink fun k => { k with text := k.text ++ .ofText chunk }, ?_, ?_⟩
    · simp [memoryFiler, write, hk, hopen]
    · rw [sink?_modifySink, hk]
      exact ⟨_, rfl, by simpa using hopen⟩
  close s _ := ⟨_, rfl, trivial⟩

/-- A target in memory that is new and named for an outermost type is created. -/
lemma create_of_new {name : Text} {n : QualifiedName} (hnew : name ∉ Keyed.keys s.sinks)
    (htarget : checkTarget name = .ok n) (originating : Value) :
    s.create name originating =
      (.ok s.sinks.length,
        { sinks := s.sinks ++ [(name, {})],
          originating := s.originating ++ [(name, originating)] }) := by
  rw [← Keyed.has_eq_true_iff] at hnew
  rw [create, if_neg hnew, htarget]

end MemoryStore

namespace DirectoryStore

variable {s t : DirectoryStore} {sink : SinkId} {names : List Text}

/-- The store `t` has the record of `s` and a sink for the file at `names`. -/
def Keeps (s : DirectoryStore) (sink : SinkId) (names : List Text) (t : DirectoryStore) : Prop :=
  s.SameRecord t ∧ ∃ k, t.sinks[sink]? = some k ∧ k.names = names

/-- The store `t` has the record of `s` and an open sink for the file at `names`. -/
def KeepsOpen (s : DirectoryStore) (sink : SinkId) (names : List Text) (t : DirectoryStore) :
    Prop :=
  s.SameRecord t ∧ ∃ k, t.sinks[sink]? = some k ∧ k.names = names ∧ k.closed = false

/-- What becomes of a sink that is changed. -/
lemma getElem?_modifySink (s : DirectoryStore) (sink : SinkId) (f : FileSink → FileSink) :
    (s.modifySink sink f).sinks[sink]? = s.sinks[sink]?.map f := by
  rw [modifySink, List.getElem?_modify_eq, Option.map_eq_map]

/-- A sink of a file works as long as it is open. -/
lemma serves (s : DirectoryStore) (sink : SinkId) (names : List Text) :
    directoryFiler.Serves sink (s.KeepsOpen sink names) (s.Keeps sink names) where
  write chunk t := by
    rintro ⟨hsame, k, hk, hnames, hopen⟩
    have hwrite : t.write sink (.ofText chunk) =
        (.ok (), t.modifySink sink fun k => { k with text := k.text ++ chunk }) := by
      simp [write, hk, hopen]
    have hkept := hsame.trans (t.sameRecord_write sink (.ofText chunk))
    rw [hwrite] at hkept
    refine ⟨_, hwrite, hkept, { k with text := k.text ++ chunk }, ?_, hnames, hopen⟩
    rw [getElem?_modifySink, hk, Option.map_some]
  close t := by
    rintro ⟨hsame, k, hk, hnames, hopen⟩
    have hclose : (t.close sink).1 = .ok () ∧
        (t.close sink).2.sinks = (t.modifySink sink ({ · with closed := true })).sinks := by
      simp [close, hk, hopen]
    refine ⟨(t.close sink).2, Prod.ext hclose.1 rfl, hsame.trans (t.sameRecord_close sink),
      { k with closed := true }, ?_, hnames⟩
    rw [hclose.2, getElem?_modifySink, hk, Option.map_some]

/-- A target is created that is new and named for an outermost type, if its file can be opened. -/
lemma create_of_opens {name : Text} {n : QualifiedName} {disk : Disk}
    (hnew : name ∉ Keyed.keys s.created) (htarget : checkTarget name = .ok n)
    (hopens : s.disk.Opens (s.pathFor n) disk names) (originating : Value) :
    s.create name originating =
      (.ok s.sinks.length,
        { s with
          disk
          created := s.created ++ [(name, s.pathFor n)]
          originating := s.originating ++ [(name, originating)]
          sinks := s.sinks ++ [{ names }] }) := by
  obtain ⟨made, hmake, hopen⟩ := hopens
  rw [← Keyed.has_eq_true_iff] at hnew
  rw [create, createOn, if_neg hnew, htarget]
  dsimp only [FileSystem.plain]
  rw [hmake]
  dsimp only
  rw [hopen]

end DirectoryStore

/-! ## Units in the files of their names -/

namespace GeneratedUnit

variable {p : UnitPlan} {s : DirectoryStore}

/-- A unit whose file is opened is opened unless its scope cannot be seeded. Either way its target
is recorded and has a sink for the file. -/
lemma begin_of_opens {n : QualifiedName} {disk : Disk} {names : List Text}
    (hnew : p.name.toText ∉ Keyed.keys s.created) (htarget : checkTarget p.name.toText = .ok n)
    (hopens : s.disk.Opens (s.pathFor n) disk names) :
    (∀ e, (begin directoryFiler p s).1 = .error e ↔ p.seededScope = .error e) ∧
      (begin directoryFiler p s).2.created = s.created ++ [(p.name.toText, s.pathFor n)] ∧
      (begin directoryFiler p s).2.pathFor = s.pathFor ∧
      ∃ k, (begin directoryFiler p s).2.sinks[s.sinks.length]? = some k ∧ k.names = names := by
  have hcreate := DirectoryStore.create_of_opens hnew htarget hopens p.originating
  obtain ⟨hseeded, hsame, hsink⟩ := begin_of_serves
    (DirectoryStore.serves _ s.sinks.length names)
    (fun t ⟨hsame, k, hk, hnames, _⟩ => ⟨hsame, k, hk, hnames⟩) hcreate
    ⟨⟨rfl, rfl, rfl⟩, { names }, List.getElem?_concat_length, rfl, rfl⟩
  exact ⟨hseeded, hsame.created, DirectoryStore.pathFor_congr hsame.root hsame.extension, hsink⟩

/-- A type that is read back from its full text may be written. -/
lemma checkTarget_of_readsBack (htop : p.name.isTopLevel = true) (h : p.name.ReadsBack) :
    checkTarget p.name.toText = .ok p.name :=
  checkTarget_eq_ok_iff.mpr ⟨h, htop⟩

/-- A unit whose name is read back is not refused by a new directory filer, unless its scope is. -/
lemma not_refused_of_readsBack (htop : p.name.isTopLevel = true) (h : p.name.ReadsBack)
    (hs : s.created = []) {e : FilerError}
    (hrefused : (begin directoryFiler p s).1 = .error (.refused e)) :
    p.seededScope = .error (.refused e) := by
  have htarget := checkTarget_of_readsBack htop h
  have hnew : p.name.toText ∉ Keyed.keys s.created := by simp [hs, Keyed.keys]
  have hcreation := s.creation_create p.name.toText p.originating
  generalize hcreate : s.create p.name.toText p.originating = r at hcreation
  cases hcreation with
  | duplicate hused => exact absurd hused hnew
  | unsuited _ hother => simp [htarget] at hother
  | @failed _ failure disk _ _ _ =>
    have hfailure := ((begin_of_create_error hcreate).2 e).mp hrefused
    cases failure <;> simp [Failure.ofFile] at hfailure
  | opened _ hother hopens => exact ((begin_of_opens hnew hother hopens).1 _).mp hrefused

/-- A unit whose name is not read back leaves no target in the file of its name with a new directory
filer, if the name holds no slash. -/
lemma strays_of_not_readsBack {text : Text} (hread : QualifiedName.parse text = .ok p.name)
    (htop : p.name.isTopLevel = true) (hslash : '/' ∉ text) (h : ¬ p.name.ReadsBack)
    (hs : s.created = []) {entry : Text × Path}
    (hentry : entry ∈ (begin directoryFiler p s).2.created) : entry.2 ≠ s.pathFor p.name := by
  have hcreation := s.creation_create p.name.toText p.originating
  generalize hcreate : s.create p.name.toText p.originating = r at hcreation
  cases hcreation with
  | duplicate hused => simp [hs, Keyed.keys] at hused
  | unsuited =>
    rw [(begin_of_create_error hcreate).1, hs] at hentry
    simp at hentry
  | failed =>
    rw [(begin_of_create_error hcreate).1] at hentry
    simp [hs] at hentry
  | @opened n _ _ hnew htarget hopens =>
    rw [(begin_of_opens hnew htarget hopens).2.1, hs, List.nil_append, List.mem_singleton] at hentry
    rw [hentry]
    intro hpath
    -- the type that the filer reads has the same file as the name, so it is the name
    have hfull := (QualifiedName.slashless_of_parse hread hslash).not_mem_toText
    obtain rfl := (DirectoryStore.pathFor_inj htarget (checkTarget_eq_ok_iff.mpr ⟨hread, htop⟩)
      hfull hslash).mp hpath
    exact h (checkTarget_eq_ok_iff.mp htarget).1

/-- **Which units land in the file of their name.** Let the name of a unit be read from a text, and
not be that of a nested type.

It is read back from its full text if the text has no colon, and in general exactly if the type has
no colon in it and starts with an upper-case letter while no segment of the package does. If it is
read back, then the unit is opened on a new memory filer unless its scope cannot be seeded; a new
directory filer does not refuse it; and if the file of its name can be opened there, then the unit
is opened on it unless its scope cannot be seeded, and that file is the one recorded and written to.
If the name is not read back and holds no slash, the file of its name is not the one that a new
directory filer opens.

**Proof sketch.** The filer reads the full text again, so that it comes to the same type exactly if
the name is read back (`checkTarget_of_readsBack`), and different types have different files
(`pathFor_inj`). A sink that has just been created takes the opening chunks (`begin_of_serves`). -/
theorem unit_lands {text : Text} {p : UnitPlan} (hread : QualifiedName.parse text = .ok p.name)
    (htop : p.name.isTopLevel = true) :
    (':' ∉ text → p.name.ReadsBack) ∧
      (p.name.ReadsBack ↔ ':' ∉ p.name.simpleName ∧
        QualifiedName.startsUpper p.name.simpleName = true ∧
        ∀ segment ∈ p.name.package, QualifiedName.startsUpper segment = false) ∧
      (p.name.ReadsBack →
        (∀ s : MemoryStore, s.sinks = [] →
          ∀ e, (begin memoryFiler p s).1 = .error e ↔ p.seededScope = .error e) ∧
        ∀ s : DirectoryStore, s.created = [] →
          (∀ e, (begin directoryFiler p s).1 = .error (.refused e) →
            p.seededScope = .error (.refused e)) ∧
          ∀ disk names, s.disk.Opens (s.pathFor p.name) disk names →
            (∀ e, (begin directoryFiler p s).1 = .error e ↔ p.seededScope = .error e) ∧
              (begin directoryFiler p s).2.created = [(p.name.toText, s.pathFor p.name)] ∧
              (begin directoryFiler p s).2.pathFor = s.pathFor ∧
              ∃ k, (begin directoryFiler p s).2.sinks[s.sinks.length]? = some k ∧
                k.names = names) ∧
      (¬ p.name.ReadsBack → '/' ∉ text → ∀ s : DirectoryStore, s.created = [] →
        ∀ entry ∈ (begin directoryFiler p s).2.created, entry.2 ≠ s.pathFor p.name) := by
  have hnames := QualifiedName.simpleNames_of_isTopLevel htop
  refine ⟨QualifiedName.readsBack_of_dotted hread, ?_, fun hback => ⟨?_, ?_⟩, ?_⟩
  · have hpath : p.name.nestedPath = p.name.simpleName := by
      rw [QualifiedName.nestedPath, hnames, Text.join]
    have hfirst : p.name.topLevelName = p.name.simpleName := by
      simp only [QualifiedName.topLevelName, hnames, List.head_cons]
    rw [QualifiedName.readsBack_iff hread, hpath, hfirst]
  · intro s hs
    have hcreate := MemoryStore.create_of_new (s := s) (by simp [hs, Keyed.keys])
      (checkTarget_of_readsBack htop hback) p.originating
    refine (begin_of_serves (MemoryStore.serves s.sinks.length) (fun _ _ => trivial) hcreate ?_).1
    exact ⟨{}, by simp [MemoryStore.sink?], rfl⟩
  · intro s hs
    refine ⟨fun e => not_refused_of_readsBack htop hback hs, fun disk names hopens => ?_⟩
    have hlands := begin_of_opens (by simp [hs, Keyed.keys])
      (checkTarget_of_readsBack htop hback) hopens
    rwa [hs, List.nil_append] at hlands
  · intro hback hslash s hs entry hentry
    exact strays_of_not_readsBack hread htop hslash hback hs hentry

/-- A unit for the type `Lamp` of the package `com.x`. -/
def lampPlan : UnitPlan where
  name := ⟨[Text.lit "com", Text.lit "x"], [Text.lit "Lamp"], by decide, by decide⟩
  formatter := .ok

/-- The unit for `com.x.Lamp` lands in the file of its name. -/
theorem unit_lands_lamp :
    QualifiedName.parse (Text.lit "com.x.Lamp") = .ok lampPlan.name ∧
      lampPlan.name.isTopLevel = true ∧
      (∀ e, (begin directoryFiler lampPlan DirectoryStore.blankStore).1 ≠ .error e) ∧
      (begin directoryFiler lampPlan DirectoryStore.blankStore).2.created =
        [(Text.lit "com.x.Lamp", DirectoryStore.blankStore.pathFor lampPlan.name)] := by
  have hread : QualifiedName.parse (Text.lit "com.x.Lamp") = .ok lampPlan.name := by decide
  have hscope : lampPlan.seededScope = .ok
      ((Scope.new lampPlan.builtinPackages).bind ⟨Text.lit "Lamp", lampPlan.name, .implicit⟩) := rfl
  obtain ⟨hdotted, -, hlands, -⟩ := unit_lands hread rfl
  obtain ⟨disk, names, hopens⟩ : ∃ disk names, DirectoryStore.blankStore.disk.Opens
      (DirectoryStore.blankStore.pathFor lampPlan.name) disk names :=
    Disk.exists_opens (by cbv) (by cbv)
  obtain ⟨hseeded, hcreated, -⟩ :=
    ((hlands (hdotted (by decide))).2 DirectoryStore.blankStore rfl).2 disk names hopens
  exact ⟨hread, rfl, fun e => mt (hseeded e).mp (by simp [hscope]), hcreated⟩

/-- A unit for the type `Lamp` of the package `com.X`. -/
def loudPlan : UnitPlan where
  name := ⟨[Text.lit "com", Text.lit "X"], [Text.lit "Lamp"], by decide, by decide⟩
  formatter := .ok

/-- A unit for the type `Lamp:Shade` of the package `com.x`. -/
def partedPlan : UnitPlan where
  name := ⟨[Text.lit "com", Text.lit "x"], [Text.lit "Lamp:Shade"], by decide, by decide⟩
  formatter := .ok

/-- The unit for `com.X:Lamp` is refused by new filers of both kinds, and that for
`com.x:Lamp:Shade` lands in the file of another type. -/
theorem unit_strays :
    QualifiedName.parse (Text.lit "com.X:Lamp") = .ok loudPlan.name ∧
      QualifiedName.parse (Text.lit "com.x:Lamp:Shade") = .ok partedPlan.name ∧
      loudPlan.name.isTopLevel = true ∧ partedPlan.name.isTopLevel = true ∧
      (begin memoryFiler loudPlan {}).1 =
        .error (.refused (.nested (Text.lit "com.X.Lamp"))) ∧
      (begin directoryFiler loudPlan DirectoryStore.blankStore).1 =
        .error (.refused (.nested (Text.lit "com.X.Lamp"))) ∧
      ((begin directoryFiler partedPlan DirectoryStore.blankStore).2.created.map (·.2.toText)) =
        [Text.lit "out/com/x/Lamp/Shade.java"] ∧
      (DirectoryStore.blankStore.pathFor partedPlan.name).toText =
        Text.lit "out/com/x/Lamp:Shade.java" := by
  refine ⟨by decide, by decide, rfl, rfl, rfl, rfl, by cbv, by decide⟩

end GeneratedUnit

end UnitForge
