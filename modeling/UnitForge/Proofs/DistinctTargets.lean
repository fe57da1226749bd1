import Mathlib
import UnitForge.Proofs.KeyedValues
import UnitForge.Proofs.TargetPaths

set_option autoImplicit false

/-!
# Duplicate targets

A directory filer tells targets apart by the texts that name them, and the text of a target that it
has created is refused. One type has several texts, though: with a colon or without, with blanks
around it or not, and all of them lead to the same file. So the files of a run are different as long
as every target is named by the plain text of its type.

## Main definitions

* `UnitForge.FilerCall`, `UnitForge.Filer.run`, `UnitForge.Filer.accepted` — calls on a filer, the
  state after them, and the targets that they create.
* `UnitForge.DirectoryStore.Creation` — the ways in which the creation of a target ends.
* `UnitForge.Text.Plain` — texts without colons, slashes and blanks around them.

## Main results

* `UnitForge.DirectoryStore.creation_create` — every creation ends in one of these ways.
* `UnitForge.DirectoryStore.wellFormed_run` — what the record of a run says.
* `UnitForge.DirectoryStore.targets_distinct` — when two targets of a run have the same file.
-/

namespace UnitForge

/-- A call on a filer. -/
inductive FilerCall where
  /-- Creates a target on behalf of some value. -/
  | create (name : Text) (originating : Value)
  /-- Writes a chunk to a sink. -/
  | write (sink : SinkId) (chunk : RawText)
  /-- Closes a sink. -/
  | close (sink : SinkId)

namespace Filer

variable {σ : Type}

/-- The state after a call, which may fail. -/
def step (F : Filer σ) (s : σ) : FilerCall → σ
  | .create name originating => (F.create name originating s).2
  | .write sink chunk => (F.write sink chunk s).2
  | .close sink => (F.close sink s).2

/-- The state after calls in order. -/
def run (F : Filer σ) (s : σ) (calls : List FilerCall) : σ := calls.foldl F.step s

/-- The names of the targets for which calls get a sink, in order. -/
def accepted (F : Filer σ) (s : σ) : List FilerCall → List Text
  | [] => []
  | .create name originating :: calls =>
    match F.create name originating s with
    | (.ok _, t) => name :: F.accepted t calls
    | (.error _, t) => F.accepted t calls
  | call :: calls => F.accepted (F.step s call) calls

/-- A run creates the targets of its first call and then those of the others. -/
lemma accepted_cons (F : Filer σ) (s : σ) (call : FilerCall) (calls : List FilerCall) :
    F.accepted s (call :: calls) = F.accepted s [call] ++ F.accepted (F.step s call) calls := by
  cases call with
  | create name originating =>
    rw [accepted, accepted, step]
    rcases F.create name originating s with ⟨e | sink, t⟩ <;> rfl
  | write sink chunk => rfl
  | close sink => rfl

end Filer

/-- The directories above a path are made and the file is opened, and nothing fails. -/
def Disk.Opens (d : Disk) (path : Path) (opened : Disk) (names : List Text) : Prop :=
  ∃ made, d.makeDirectories path.parent = (made, none) ∧ made.openFile path = .ok (opened, names)

/-- A file is opened if the directories above it are made and opening it does not fail. -/
lemma Disk.exists_opens {d : Disk} {path : Path}
    (hmake : (d.makeDirectories path.parent).2.isNone = true)
    (hopen : ((d.makeDirectories path.parent).1.openFile path).isOk = true) :
    ∃ opened names, d.Opens path opened names := by
  rcases h : d.makeDirectories path.parent with ⟨made, _ | e⟩
  · rw [h] at hopen
    rcases h' : made.openFile path with e | ⟨opened, names⟩
    · rw [h'] at hopen
      simp [Except.isOk, Except.toBool] at hopen
    · exact ⟨opened, names, made, h, h'⟩
  · simp [h] at hmake

/-- A text without blanks around it, without colons and without slashes. -/
structure Text.Plain (text : Text) : Prop where
  /-- There are no blanks around the text. -/
  trimmed : Text.trim text = text
  /-- There is no colon in it. -/
  uncut : ':' ∉ text
  /-- There is no slash in it. -/
  slashless : '/' ∉ text

instance (text : Text) : Decidable text.Plain :=
  decidable_of_iff (Text.trim text = text ∧ ':' ∉ text ∧ '/' ∉ text)
    ⟨fun h => ⟨h.1, h.2.1, h.2.2⟩, fun h => ⟨h.trimmed, h.uncut, h.slashless⟩⟩

namespace DirectoryStore

variable {s t : DirectoryStore} {name : Text} {originating : Value}

/-! ## The creation of a target -/

/-- The ways in which the creation of a target ends, with the store after it. -/
inductive Creation (s : DirectoryStore) (name : Text) (originating : Value) :
    Except Failure SinkId × DirectoryStore → Prop
  /-- A target of that name has been created. -/
  | duplicate (hused : name ∈ Keyed.keys s.created) :
    Creation s name originating (.error (.refused (.duplicate name)), s)
  /-- The name is not that of an outermost type. -/
  | unsuited {e : FilerError} (hnew : name ∉ Keyed.keys s.created)
    (htarget : checkTarget name = .error e) : Creation s name originating (.error (.refused e), s)
  /-- The file cannot be opened, or not all the directories above it can be made. -/
  | failed {n : QualifiedName} {e : FileError} {disk : Disk} (hnew : name ∉ Keyed.keys s.created)
    (htarget : checkTarget name = .ok n)
    (hfails : ∀ disk names, ¬ s.disk.Opens (s.pathFor n) disk names) :
    Creation s name originating (.error (.ofFile e), { s with disk })
  /-- The file is opened. -/
  | opened {n : QualifiedName} {disk : Disk} {names : List Text}
    (hnew : name ∉ Keyed.keys s.created) (htarget : checkTarget name = .ok n)
    (hopens : s.disk.Opens (s.pathFor n) disk names) :
    Creation s name originating
      (.ok s.sinks.length,
        { s with
          disk
          created := s.created ++ [(name, s.pathFor n)]
          originating := s.originating ++ [(name, originating)]
          sinks := s.sinks ++ [{ names }] })

/-- **Every creation ends in one of these ways.** -/
theorem creation_create (s : DirectoryStore) (name : Text) (originating : Value) :
    s.Creation name originating (s.create name originating) := by
  rw [create, createOn]
  split
  next hused => exact .duplicate (Keyed.has_eq_true_iff.mp hused)
  next hnew =>
    rw [Keyed.has_eq_true_iff] at hnew
    split
    next e htarget => exact .unsuited hnew htarget
    next n htarget =>
      dsimp only [FileSystem.plain]
      split
      next disk e hmake =>
        refine .failed hnew htarget fun opened names ⟨made, hmade, _⟩ => ?_
        simp [hmake] at hmade
      next disk hmake =>
        cases hopen : disk.openFile (s.pathFor n) with
        | error e =>
          refine .failed hnew htarget fun opened names ⟨made, hmade, hopened⟩ => ?_
          obtain rfl : disk = made := by simpa [hmake] using hmade
          simp [hopen] at hopened
        | ok result => exact .opened hnew htarget ⟨disk, hmake, hopen⟩

/-! ## The record of a run -/

/-- The file that a target is named for. -/
def target? (s : DirectoryStore) (name : Text) : Option Path :=
  match checkTarget name with
  | .ok n => some (s.pathFor n)
  | .error _ => none

/-- A target has a file if it is named for a type, and that is the file of the type. -/
lemma target?_eq_some {path : Path} :
    s.target? name = some path ↔ ∃ n, checkTarget name = .ok n ∧ s.pathFor n = path := by
  rw [target?]
  cases checkTarget name <;> simp

/-- The targets created are the same in two stores, and so are the places of files. -/
structure SameRecord (s t : DirectoryStore) : Prop where
  /-- The record is the same. -/
  created : t.created = s.created
  /-- The output directory is the same. -/
  root : t.root = s.root
  /-- The extension is the same. -/
  extension : t.extension = s.extension

lemma SameRecord.trans {u : DirectoryStore} (h : s.SameRecord t) (h' : t.SameRecord u) :
    s.SameRecord u :=
  ⟨h'.created.trans h.created, h'.root.trans h.root, h'.extension.trans h.extension⟩

/-- The file of a type depends on the output directory and the extension only. -/
lemma pathFor_congr (hroot : t.root = s.root) (hextension : t.extension = s.extension) :
    t.pathFor = s.pathFor := by
  funext n
  rw [pathFor, pathFor, hroot, hextension]

/-- The file of a target depends on the output directory and the extension only. -/
lemma target?_congr (hroot : t.root = s.root) (hextension : t.extension = s.extension) :
    t.target? = s.target? := by
  funext name
  rw [target?, target?, pathFor_congr hroot hextension]

/-- Writing to a sink creates no target. -/
lemma sameRecord_write (s : DirectoryStore) (sink : SinkId) (chunk : RawText) :
    s.SameRecord (s.write sink chunk).2 := by
  rw [write]
  split
  · exact ⟨rfl, rfl, rfl⟩
  · split
    · exact ⟨rfl, rfl, rfl⟩
    · split <;> exact ⟨rfl, rfl, rfl⟩

/-- Closing a sink creates no target. -/
lemma sameRecord_close (s : DirectoryStore) (sink : SinkId) :
    s.SameRecord (s.close sink).2 := by
  rw [close]
  split
  · exact ⟨rfl, rfl, rfl⟩
  · split <;> exact ⟨rfl, rfl, rfl⟩

/-- The ways in which a call on the filer changes the record, with the targets that it creates. -/
inductive RecordChange (s : DirectoryStore) : List Text → DirectoryStore → Prop
  /-- The call creates no target. -/
  | kept {t : DirectoryStore} (hsame : s.SameRecord t) : RecordChange s [] t
  /-- The call creates a target. -/
  | added {t : DirectoryStore} {name : Text} {n : QualifiedName}
    (hnew : name ∉ Keyed.keys s.created) (htarget : checkTarget name = .ok n)
    (hcreated : t.created = s.created ++ [(name, s.pathFor n)]) (hroot : t.root = s.root)
    (hextension : t.extension = s.extension) : RecordChange s [name] t

/-- **Every call changes the record in one of these ways.** -/
theorem recordChange_step (s : DirectoryStore) (call : FilerCall) :
    s.RecordChange (directoryFiler.accepted s [call]) (directoryFiler.step s call) := by
  cases call with
  | write sink chunk => exact .kept (s.sameRecord_write sink chunk)
  | close sink => exact .kept (s.sameRecord_close sink)
  | create name originating =>
    have h := s.creation_create name originating
    rw [Filer.step, Filer.accepted, directoryFiler]
    dsimp only
    generalize s.create name originating = r at h ⊢
    cases h with
    | duplicate => exact .kept ⟨rfl, rfl, rfl⟩
    | unsuited => exact .kept ⟨rfl, rfl, rfl⟩
    | failed => exact .kept ⟨rfl, rfl, rfl⟩
    | opened hnew htarget => exact .added hnew htarget rfl rfl rfl

/-- A call on the filer leaves the files of targets where they are. -/
lemma RecordChange.target? {names : List Text} (h : s.RecordChange names t) :
    t.target? = s.target? := by
  cases h with
  | kept hsame => exact target?_congr hsame.root hsame.extension
  | added _ _ _ hroot hextension => exact target?_congr hroot hextension

/-- So does a run. -/
lemma target?_run (s : DirectoryStore) (calls : List FilerCall) :
    (directoryFiler.run s calls).target? = s.target? := by
  induction calls generalizing s with
  | nil => rfl
  | cons call calls ih =>
    exact (ih (directoryFiler.step s call)).trans (s.recordChange_step call).target?

/-- What the records have in common that calls on the filer lead to. -/
structure WellFormed (s : DirectoryStore) : Prop where
  /-- No name occurs twice. -/
  distinct : (Keyed.keys s.created).Nodup
  /-- The file of a target is the one that it is named for. -/
  aimed : ∀ entry ∈ s.created, s.target? entry.1 = some entry.2

/-- A call keeps what records have in common. -/
lemma WellFormed.step (h : s.WellFormed) (call : FilerCall) :
    (directoryFiler.step s call).WellFormed := by
  have hchange := s.recordChange_step call
  generalize directoryFiler.accepted s [call] = names at hchange
  generalize directoryFiler.step s call = t at hchange ⊢
  have htargets := hchange.target?
  cases hchange with
  | kept hsame =>
    refine ⟨hsame.created ▸ h.distinct, ?_⟩
    rw [htargets, hsame.created]
    exact h.aimed
  | @added _ name n hnew htarget hcreated =>
    constructor
    · rw [hcreated, Keyed.keys, List.map_append, List.map_singleton, List.nodup_append]
      refine ⟨h.distinct, by simp, ?_⟩
      rintro used hused other hother rfl
      rw [List.mem_singleton.mp hother] at hused
      exact hnew hused
    · rw [htargets, hcreated]
      intro entry hentry
      rcases List.mem_append.mp hentry with hentry | hentry
      · exact h.aimed entry hentry
      · rw [List.mem_singleton.mp hentry]
        exact target?_eq_some.mpr ⟨n, htarget, rfl⟩

/-- **A run records exactly the targets that it creates**, after those recorded before, each with
the file that it is named for. -/
theorem wellFormed_run (h : s.WellFormed) (calls : List FilerCall) :
    (directoryFiler.run s calls).WellFormed ∧
      Keyed.keys (directoryFiler.run s calls).created =
        Keyed.keys s.created ++ directoryFiler.accepted s calls := by
  induction calls generalizing s with
  | nil => exact ⟨h, (List.append_nil _).symm⟩
  | cons call calls ih =>
    obtain ⟨hwell, hkeys⟩ := ih (h.step call)
    refine ⟨hwell, ?_⟩
    have hchange := s.recordChange_step call
    -- what the first call creates goes to the end of the record that the others start from
    rw [Filer.accepted_cons, ← List.append_assoc]
    refine hkeys.trans (congrArg (· ++ _) ?_)
    generalize directoryFiler.step s call = t at hchange ⊢
    generalize directoryFiler.accepted s [call] = names at hchange ⊢
    cases hchange with
    | kept hsame => rw [hsame.created, List.append_nil]
    | added _ _ hcreated => rw [hcreated, Keyed.keys, List.map_append]; rfl

/-! ## Targets with the same file -/

/-- Two names without slashes that are read as types have the same file if and only if they are read
as the same type. -/
lemma target?_inj {x y : Text} {path other : Path} (hx : s.target? x = some path)
    (hy : s.target? y = some other) (hxslash : '/' ∉ x) (hyslash : '/' ∉ y) :
    path = other ↔ QualifiedName.parse x = QualifiedName.parse y := by
  obtain ⟨m, hm, rfl⟩ := target?_eq_some.mp hx
  obtain ⟨n, hn, rfl⟩ := target?_eq_some.mp hy
  rw [pathFor_inj hm hn hxslash hyslash, (checkTarget_eq_ok_iff.mp hm).1,
    (checkTarget_eq_ok_iff.mp hn).1, Except.ok.injEq]

/-- A plain text that is read as a type is the full text of the type. -/
lemma eq_toText_of_plain {x : Text} {n : QualifiedName} (h : QualifiedName.parse x = .ok n)
    (hplain : x.Plain) : x = n.toText := by
  cases (QualifiedName.parse_eq_ok_iff.mp h).2 with
  | dotted htext => rw [← htext, hplain.trimmed]
  | parted htext =>
    rw [hplain.trimmed] at htext
    exact absurd (htext ▸ List.mem_append_right _ List.mem_cons_self) hplain.uncut

/-- Different plain texts have different files. -/
lemma eq_of_plain {x y : Text} {path : Path} (hx : s.target? x = some path)
    (hy : s.target? y = some path) (hxplain : x.Plain) (hyplain : y.Plain) : x = y := by
  have hparse := (target?_inj hx hy hxplain.slashless hyplain.slashless).mp rfl
  obtain ⟨n, hn, -⟩ := target?_eq_some.mp hx
  obtain ⟨hn, -⟩ := checkTarget_eq_ok_iff.mp hn
  rw [eq_toText_of_plain hn hxplain, eq_toText_of_plain (hparse ▸ hn) hyplain]

/-- The name of a target created before is refused, and nothing changes. -/
lemma create_of_used (h : name ∈ Keyed.keys s.created) (originating : Value) :
    s.create name originating = (.error (.refused (.duplicate name)), s) := by
  rw [create, createOn, if_pos (Keyed.has_eq_true_iff.mpr h)]

/-- **When two targets have the same file.** After any calls on a new directory filer: the record
consists of the targets that the calls got a sink for, in order, each with the file that it is named
for; two of them have different names, and if these are without slashes, they have the same file
exactly if the names are read as the same type; those with plain names have different files; and a
further target is refused, with nothing changed, if its name has been used or if it is plain and its
file is that of a target with a plain name.

**Proof sketch.** The record is well-formed (`wellFormed_run`), so that a target of it is read as a
type and has the file of the type. Without slashes the file determines the type (`pathFor_inj`), and
the type determines the plain text that names it (`eq_of_plain`). -/
theorem targets_distinct (hs : s.created = []) (calls : List FilerCall) :
    Keyed.keys (directoryFiler.run s calls).created = directoryFiler.accepted s calls ∧
      (∀ entry ∈ (directoryFiler.run s calls).created, s.target? entry.1 = some entry.2) ∧
      (directoryFiler.run s calls).created.Pairwise (fun a b => a.1 ≠ b.1 ∧
        ('/' ∉ a.1 → '/' ∉ b.1 →
          (a.2 = b.2 ↔ QualifiedName.parse a.1 = QualifiedName.parse b.1))) ∧
      (((directoryFiler.run s calls).created.filter (·.1.Plain)).map (·.2)).Nodup ∧
      ∀ name originating, name ∈ directoryFiler.accepted s calls ∨ name.Plain ∧
          (∃ entry ∈ (directoryFiler.run s calls).created,
            entry.1.Plain ∧ s.target? name = some entry.2) →
        (directoryFiler.run s calls).create name originating =
          (.error (.refused (.duplicate name)), directoryFiler.run s calls) := by
  have hnew : s.WellFormed := ⟨by simp [hs, Keyed.keys], by simp [hs]⟩
  obtain ⟨hwell, hkeys⟩ := wellFormed_run hnew calls
  have hempty : Keyed.keys s.created = [] := by rw [hs, Keyed.keys, List.map_nil]
  rw [hempty, List.nil_append] at hkeys
  have haimed := hwell.aimed
  rw [target?_run] at haimed
  have hnames := List.pairwise_map.mp hwell.distinct
  refine ⟨hkeys, haimed, ?_, ?_, ?_⟩
  · apply hnames.imp_of_mem
    intro a b ha hb hne
    exact ⟨hne, fun haslash hbslash => target?_inj (haimed a ha) (haimed b hb) haslash hbslash⟩
  · rw [List.Nodup, List.pairwise_map]
    apply (hnames.sublist List.filter_sublist).imp_of_mem
    intro a b ha hb hne hpath
    rw [List.mem_filter, decide_eq_true_eq] at ha hb
    exact hne (eq_of_plain (haimed a ha.1) (hpath ▸ haimed b hb.1) ha.2 hb.2)
  · rintro name originating (hused | ⟨hplain, entry, hentry, hentryPlain, htarget⟩)
    · exact create_of_used (hkeys ▸ hused) originating
    · apply create_of_used
      rw [eq_of_plain htarget (haimed entry hentry) hplain hentryPlain]
      exact List.mem_map_of_mem hentry

/-- A new directory filer on an empty working directory. -/
def blankStore : DirectoryStore where
  root := Path.parse (Text.lit "out")
  disk := Disk.empty

/-- The creation of two types of one package. -/
def pairCalls : List FilerCall :=
  [.create (Text.lit "com.x.Foo") .absent, .create (Text.lit "com.x.Bar") .absent]

/-- Two types of one package are created in different files, and the first of them is not created
again. -/
theorem targets_distinct_pair :
    directoryFiler.accepted blankStore pairCalls = [Text.lit "com.x.Foo", Text.lit "com.x.Bar"] ∧
      (((directoryFiler.run blankStore pairCalls).created.filter (·.1.Plain)).map (·.2)).Nodup ∧
      (directoryFiler.run blankStore pairCalls).create (Text.lit "com.x.Foo") .absent =
        (.error (.refused (.duplicate (Text.lit "com.x.Foo"))),
          directoryFiler.run blankStore pairCalls) := by
  have haccepted : directoryFiler.accepted blankStore pairCalls =
      [Text.lit "com.x.Foo", Text.lit "com.x.Bar"] := by cbv
  obtain ⟨-, -, -, hpaths, hrefused⟩ := targets_distinct (s := blankStore) rfl pairCalls
  refine ⟨haccepted, hpaths, hrefused _ _ (.inl ?_)⟩
  rw [haccepted]
  exact List.mem_cons_self

/-- The creation of one type under two names. -/
def twiceCalls : List FilerCall :=
  [.create (Text.lit "com.x.Foo") .absent, .create (Text.lit "com.x:Foo") .absent]

/-- One type is created under two names, in one file. -/
theorem target_twice :
    directoryFiler.accepted blankStore twiceCalls =
        [Text.lit "com.x.Foo", Text.lit "com.x:Foo"] ∧
      (directoryFiler.run blankStore twiceCalls).created.map (·.2.toText) =
        [Text.lit "out/com/x/Foo.java", Text.lit "out/com/x/Foo.java"] := by
  cbv

end DirectoryStore

end UnitForge
