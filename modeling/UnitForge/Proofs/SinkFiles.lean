import UnitForge.Proofs.DiskGrowth
import UnitForge.Proofs.MirroredFilers

set_option autoImplicit false

/-!
# The files of a run

What is on the disk after calls on a filer in a directory: the file of each target holds the text of
its sink once the sink is closed, however many sinks are open at once, and no other file has come to
be at a target. This holds as long as different targets have their files at different places, where
nothing stood at first, and so it is in an empty output directory.

## Main definitions

* `UnitForge.DirectoryStore.Separated` — different targets have their files at different places,
  where nothing stood at first.
* `UnitForge.DirectoryStore.EmptyOutput` — nothing stood below the output directory.
* `UnitForge.DirectoryStore.Tracked`, `UnitForge.DirectoryStore.Written` — what holds of the record
  and of the files after calls.

## Main results

* `UnitForge.DirectoryStore.separated_of_emptyOutput` — an empty output directory separates the
  files of targets.
* `UnitForge.DirectoryStore.Written.step`, `UnitForge.DirectoryStore.Written.run` — a call, and a
  run, keep the files those of the sinks.
* `UnitForge.DirectoryStore.exists_sink_of_file` — a file at a target is that of a sink.
-/

namespace UnitForge

/-- A target is created by a call that creates it. -/
lemma Filer.exists_create {σ : Type} {F : Filer σ} {s : σ} {call : FilerCall} {name : Text}
    (h : name ∈ F.accepted s [call]) : ∃ originating, call = .create name originating := by
  cases call with
  | write | close => exact absurd h List.not_mem_nil
  | create other originating =>
    rw [accepted] at h
    split at h
    · obtain rfl := List.mem_singleton.mp h
      exact ⟨originating, rfl⟩
    · exact absurd h List.not_mem_nil

/-- What a sink has put into its file: its text, but only when it is closed. -/
def FileSink.flushed (sink : FileSink) : Text := if sink.closed then sink.text else []

/-- A disk grows when a file is opened below directories that are made, and the path leads to the
empty file. -/
lemma Disk.Opens.grows {d opened : Disk} {path : Path} {names : List Text} (hsound : d.Sound)
    (h : d.Opens path opened names) :
    d.Grows [names] opened ∧ opened.resolve true path = .ok ⟨names, some (.file [])⟩ := by
  obtain ⟨made, hmake, hopen⟩ := h
  have hmade := d.grows_makeDirectories hsound path.parent
  rw [hmake] at hmade
  obtain ⟨hopened, hplace⟩ := grows_openFile (hmade.sound hsound) hopen
  exact ⟨(hmade.mono (List.nil_subset _)).trans hopened, hplace⟩

namespace DirectoryStore

variable {base s : DirectoryStore} {d d' : Disk} {touched : List (List Text)}

/-! ## The places of targets -/

/-- Nothing stood at first below the place where the output directory is on a disk. -/
def EmptyOutput (base : DirectoryStore) (d : Disk) : Prop :=
  ∀ top rest, d.resolve true base.root = .ok top → rest ≠ [] →
    base.disk.root.get? (top.names ++ rest) = none

/-- The file of a plain target lies below the output directory, if the extension leads nowhere
up. -/
lemma exists_parts {name : Text} {path : Path} (hplain : name.Plain)
    (hextension : Text.lit ".." ∉ (Text.split '/' base.extension).tail)
    (h : base.target? name = some path) :
    ∃ parts, parts ≠ [] ∧ Text.lit ".." ∉ parts ∧
      path = { base.root with parts := base.root.parts ++ parts } := by
  obtain ⟨n, htarget, rfl⟩ := target?_eq_some.mp h
  obtain ⟨hparse, -⟩ := checkTarget_eq_ok_iff.mp htarget
  have hdot := (QualifiedName.parse_eq_ok_iff.mp hparse).1
  have hpath := pathFor_parts (s := base) hdot
    (QualifiedName.slashless_of_parse hparse hplain.slashless)
  rw [List.append_assoc] at hpath
  refine ⟨_, by simp, ?_, hpath⟩
  have hdots {segment : Text} (hs : segment ∈ n.package ++ n.simpleNames) (more : Text) :
      Text.lit ".." ≠ segment ++ more := by
    obtain ⟨c, rest, rfl⟩ := List.exists_cons_of_ne_nil (n.segments_ne_nil _ hs)
    intro heq
    obtain ⟨rfl, -⟩ := List.cons.inj heq
    exact hdot _ hs List.mem_cons_self
  intro hmem
  rcases List.mem_append.mp hmem with hmem | hmem
  · exact hdots (List.mem_append_left _ hmem) [] (List.append_nil _).symm
  rcases List.mem_cons.mp hmem with hmem | hmem
  · exact hdots (List.mem_append_right _ n.simpleName_mem) _ hmem
  · exact hextension (List.mem_of_mem_filter hmem)

/-- On a disk, the files of different plain targets are at different places, and at none of these
anything stood at first. -/
structure Separated (base : DirectoryStore) (d : Disk) : Prop where
  /-- Different paths lead to different places. -/
  distinct : ∀ {x y : Text} {p q : Path} {a b : Place}, x.Plain → y.Plain →
    base.target? x = some p → base.target? y = some q → d.resolve true p = .ok a →
    d.resolve true q = .ok b → a.names = b.names → p = q
  /-- Nothing stood there at first. -/
  vacant : ∀ {x : Text} {p : Path} {a : Place}, x.Plain → base.target? x = some p →
    d.resolve true p = .ok a → base.disk.root.get? a.names = none

/-- Paths lead to different places before the disk grew if they do afterwards. -/
lemma Separated.of_grows (h : base.Separated d') (hgrows : d.Grows touched d') :
    base.Separated d where
  distinct hxplain hyplain hx hy hp hq hplace :=
    h.distinct hxplain hyplain hx hy (hgrows.resolve hp) (hgrows.resolve hq) hplace
  vacant {_ _ a} hxplain hx hp :=
    h.vacant (a := ⟨a.names, d'.root.get? a.names⟩) hxplain hx (hgrows.resolve hp)

/-- **The files of targets are separated in an empty output directory**, if the extension leads
nowhere up. -/
theorem separated_of_emptyOutput (hgrows : base.disk.Grows touched d) (hsound : d.Sound)
    (hempty : base.EmptyOutput d)
    (hextension : Text.lit ".." ∉ (Text.split '/' base.extension).tail) : base.Separated d where
  distinct hxplain hyplain hx hy hp hq hplace := by
    obtain ⟨parts, hne, hup, rfl⟩ := exists_parts hxplain hextension hx
    obtain ⟨others, hne', hup', rfl⟩ := exists_parts hyplain hextension hy
    obtain ⟨top, htop, ha⟩ := Disk.resolve_below hgrows hsound hempty hne hup hp
    obtain ⟨top', htop', hb⟩ := Disk.resolve_below hgrows hsound hempty hne' hup' hq
    obtain rfl := Except.ok.inj (htop.symm.trans htop')
    rw [ha, hb, List.append_cancel_left_eq] at hplace
    rw [hplace]
  vacant hxplain hx hp := by
    obtain ⟨parts, hne, hup, rfl⟩ := exists_parts hxplain hextension hx
    obtain ⟨top, htop, ha⟩ := Disk.resolve_below hgrows hsound hempty hne hup hp
    rw [ha]
    exact hempty top parts htop hne

/-! ## The files of a run -/

/-- The path leads to the file of the sink, which holds what the sink has put into it. -/
def Holds (s : DirectoryStore) (path : Path) (sink : FileSink) : Prop :=
  s.disk.resolve true path = .ok ⟨sink.names, some (.file (Text.encodeUtf8 sink.flushed))⟩

/-- After calls on the store `base`, the record holds plain names with the files that they are named
for. -/
structure Tracked (base s : DirectoryStore) : Prop where
  /-- The record is well-formed. -/
  wellFormed : s.WellFormed
  /-- The files of targets are where they were. -/
  target : s.target? = base.target?
  /-- The names are plain. -/
  plain : ∀ entry ∈ s.created, entry.1.Plain

lemma Tracked.aimed (h : base.Tracked s) {entry : Text × Path} (hentry : entry ∈ s.created) :
    base.target? entry.1 = some entry.2 := by
  rw [← h.target]
  exact h.wellFormed.aimed entry hentry

/-- **A target whose file is at the place of a recorded one is that one**, if the files of targets
are separated. -/
lemma Tracked.eq_of_place (h : base.Tracked s) (hseparated : base.Separated d)
    {entry : Text × Path} {name : Text} {path : Path} {a b : Place} (hentry : entry ∈ s.created)
    (hplain : name.Plain) (htarget : base.target? name = some path)
    (ha : d.resolve true entry.2 = .ok a) (hb : d.resolve true path = .ok b)
    (hnames : a.names = b.names) : entry = (name, path) := by
  obtain ⟨used, other⟩ := entry
  have haimed : base.target? used = some other := h.aimed hentry
  obtain rfl : other = path :=
    hseparated.distinct (h.plain _ hentry) hplain haimed htarget ha hb hnames
  obtain rfl : used = name := eq_of_plain haimed htarget (h.plain _ hentry) hplain
  rfl

/-- A call with a plain name keeps the record so. -/
lemma Tracked.step (h : base.Tracked s) {call : FilerCall}
    (hplain : ∀ name originating, call = .create name originating → name.Plain) :
    base.Tracked (directoryFiler.step s call) := by
  have hchange := s.recordChange_step call
  refine ⟨h.wellFormed.step call, hchange.target?.trans h.target, ?_⟩
  generalize hnames : directoryFiler.accepted s [call] = names at hchange
  generalize directoryFiler.step s call = t at hchange ⊢
  cases hchange with
  | kept hsame => exact hsame.created ▸ h.plain
  | @added _ name n _ _ hcreated =>
    rw [hcreated]
    refine List.forall_mem_append.mpr ⟨h.plain, List.forall_mem_singleton.mpr ?_⟩
    obtain ⟨originating, hcall⟩ :=
      Filer.exists_create (hnames ▸ List.mem_singleton_self name)
    exact hplain name originating hcall

/-- After calls on the store `base`, the files on the disk are those of the sinks. -/
structure Written (base s : DirectoryStore) : Prop where
  /-- Files are new or changed only at the places of sinks. -/
  grown : base.disk.Grows (s.sinks.map (·.names)) s.disk
  /-- Each target has a sink. -/
  length : s.sinks.length = s.created.length
  /-- The file of a target holds what its sink has put into it. -/
  holds : ∀ {id : SinkId} {entry : Text × Path} {sink : FileSink}, s.created[id]? = some entry →
    s.sinks[id]? = some sink → s.Holds entry.2 sink
  /-- No two sinks have their files at one place. -/
  apart : (s.sinks.map (·.names)).Nodup

namespace Written

variable (h : base.Written s)

include h

/-- A sink has a target. -/
lemma exists_entry {id : SinkId} {sink : FileSink} (hsink : s.sinks[id]? = some sink) :
    ∃ entry, s.created[id]? = some entry := by
  have hlt : id < s.created.length := h.length ▸ (List.getElem?_eq_some_iff.mp hsink).1
  exact ⟨_, List.getElem?_eq_getElem hlt⟩

/-- A target has a sink. -/
lemma exists_sink {id : SinkId} {entry : Text × Path} (hentry : s.created[id]? = some entry) :
    ∃ sink, s.sinks[id]? = some sink := by
  have hlt : id < s.sinks.length := h.length ▸ (List.getElem?_eq_some_iff.mp hentry).1
  exact ⟨_, List.getElem?_eq_getElem hlt⟩

/-- Two sinks have their files at different places. -/
lemma names_ne {id other : SinkId} {sink sink' : FileSink} (hsink : s.sinks[id]? = some sink)
    (hother : s.sinks[other]? = some sink') (hne : id ≠ other) : sink'.names ≠ sink.names := by
  intro hnames
  have hlt : id < (s.sinks.map (·.names)).length := by
    rw [List.length_map]
    exact (List.getElem?_eq_some_iff.mp hsink).1
  refine hne ((List.getElem?_inj hlt h.apart).mp ?_)
  rw [List.getElem?_map, List.getElem?_map, hsink, hother, Option.map_some, Option.map_some, hnames]

/-- At the place of a sink is a file with what the sink has put into it. -/
lemma get?_names (hsound : base.disk.Sound) {id : SinkId} {sink : FileSink}
    (hsink : s.sinks[id]? = some sink) :
    s.disk.root.get? sink.names = some (.file (Text.encodeUtf8 sink.flushed)) := by
  obtain ⟨entry, hentry⟩ := h.exists_entry hsink
  exact (Disk.resolve_cases (h.grown.sound hsound) (h.holds hentry hsink)).1.symm

/-- The file of a sink is kept where the disk grows at another place. -/
lemma holds_of_grows (hsound : base.disk.Sound) {id : SinkId} {entry : Text × Path}
    {sink : FileSink} {names : List Text} (hentry : s.created[id]? = some entry)
    (hsink : s.sinks[id]? = some sink) (hgrows : s.disk.Grows [names] d)
    (hne : sink.names ≠ names) : { s with disk := d }.Holds entry.2 sink := by
  have hkept := hgrows.tree.get?_file (fun hm => hne (List.mem_singleton.mp hm))
    (h.get?_names hsound hsink)
  rw [Holds, ← hkept]
  exact hgrows.resolve (h.holds hentry hsink)

/-- A change of one sink and of the bytes of its file keeps the files those of the sinks. -/
lemma modifySink (hsound : base.disk.Sound) {id : SinkId} {sink : FileSink}
    (hsink : s.sinks[id]? = some sink) {f : FileSink → FileSink}
    (hnames : ∀ sink, (f sink).names = sink.names)
    (hgrows : s.disk.Grows [sink.names] d)
    (hfile : d.root.get? sink.names = some (.file (Text.encodeUtf8 (f sink).flushed))) :
    base.Written { s.modifySink id f with disk := d } := by
  have hplaces : (s.sinks.modify id f).map (·.names) = s.sinks.map (·.names) :=
    map_modify_eq hnames id s.sinks
  constructor
  case grown =>
    refine Disk.Grows.trans (hplaces ▸ h.grown) (hgrows.mono ?_)
    rw [List.cons_subset, DirectoryStore.modifySink, hplaces]
    exact ⟨List.mem_map_of_mem (List.mem_of_getElem? hsink), List.nil_subset _⟩
  case length => rw [DirectoryStore.modifySink, List.length_modify, h.length]
  case apart =>
    rw [DirectoryStore.modifySink, hplaces]
    exact h.apart
  case holds =>
    intro other entry sink' hentry hsink'
    rw [DirectoryStore.modifySink, List.getElem?_modify] at hsink'
    by_cases hid : id = other
    · subst hid
      obtain rfl : f sink = sink' := by simpa [hsink] using hsink'
      rw [Holds, hnames, ← hfile]
      exact hgrows.resolve (h.holds hentry hsink)
    · have hother : s.sinks[other]? = some sink' := by simpa [hid] using hsink'
      exact h.holds_of_grows hsound hentry hother hgrows (h.names_ne hsink hother hid)

/-- Writing to a sink keeps the files those of the sinks. -/
lemma write (hsound : base.disk.Sound) (id : SinkId) (chunk : RawText) :
    base.Written (s.write id chunk).2 := by
  rw [DirectoryStore.write]
  split
  next => exact h
  next sink hsink =>
    split
    next => exact h
    next hopen =>
      split
      next => exact h
      next =>
        refine h.modifySink hsound hsink (fun _ => rfl) (.refl _ _) ?_
        rw [h.get?_names hsound hsink]
        simp [FileSink.flushed, hopen]

/-- Closing a sink keeps the files those of the sinks. -/
lemma close (hsound : base.disk.Sound) (id : SinkId) : base.Written (s.close id).2 := by
  rw [DirectoryStore.close]
  split
  next => exact h
  next sink hsink =>
    split
    next => exact h
    next hopen =>
      have hfile := h.get?_names hsound hsink
      have hgrows := Disk.grows_overwrite (h.grown.sound hsound) sink.names
        (Text.encodeUtf8 sink.text)
      refine h.modifySink hsound hsink (fun _ => rfl) hgrows ?_
      have hbefore : sink.flushed = [] := if_neg hopen
      have hafter : FileSink.flushed { sink with closed := true } = sink.text := rfl
      rw [hbefore] at hfile
      rw [Disk.get?_overwrite hfile, hafter]
      simp [Text.encodeUtf8]

/-- Opening a file for a new target keeps the files those of the sinks. -/
lemma opened (htracked : base.Tracked s) (hsound : base.disk.Sound) {name : Text}
    {n : QualifiedName} {names : List Text} (originating : Value)
    (hseparated : base.Separated d) (hplain : name.Plain) (hnew : name ∉ Keyed.keys s.created)
    (htarget : checkTarget name = .ok n) (hopens : s.disk.Opens (s.pathFor n) d names) :
    base.Written
      { s with
        disk := d
        created := s.created ++ [(name, s.pathFor n)]
        originating := s.originating ++ [(name, originating)]
        sinks := s.sinks ++ [{ names }] } := by
  obtain ⟨hgrows, hplace⟩ := hopens.grows (h.grown.sound hsound)
  have hgrown : base.disk.Grows (s.sinks.map (·.names) ++ [names]) d :=
    (h.grown.mono (List.subset_append_left _ _)).trans
      (hgrows.mono (List.subset_append_right _ _))
  -- a sink with its file at the new place would have been created under the new name
  have hfresh : names ∉ s.sinks.map (·.names) := by
    intro hm
    obtain ⟨sink, hs, rfl⟩ := List.mem_map.mp hm
    obtain ⟨id, hsink⟩ := List.mem_iff_getElem?.mp hs
    obtain ⟨entry, hcreated⟩ := h.exists_entry hsink
    have hmem := List.mem_of_getElem? hcreated
    have hholds := hgrows.resolve (h.holds hcreated hsink)
    have haimed : base.target? name = some (s.pathFor n) := by
      rw [← htracked.target]
      exact target?_eq_some.mpr ⟨n, htarget, rfl⟩
    obtain rfl := htracked.eq_of_place hseparated hmem hplain haimed hholds hplace rfl
    exact hnew (List.mem_map_of_mem hmem)
  constructor
  case grown => simpa using hgrown
  case length => simp [h.length]
  case apart =>
    rw [List.map_append, List.nodup_append]
    refine ⟨h.apart, by simp, ?_⟩
    rintro used hused other hother rfl
    obtain rfl : used = names := by simpa using hother
    exact hfresh hused
  case holds =>
    intro id entry sink hentry hsink
    rcases Nat.lt_or_ge id s.created.length with hid | hid
    · have hid' : id < s.sinks.length := h.length.symm ▸ hid
      rw [List.getElem?_append_left hid] at hentry
      rw [List.getElem?_append_left hid'] at hsink
      refine h.holds_of_grows hsound hentry hsink hgrows ?_
      rintro rfl
      exact hfresh (List.mem_map_of_mem (List.mem_of_getElem? hsink))
    · have hlt := (List.getElem?_eq_some_iff.mp hentry).1
      obtain rfl : id = s.created.length := by
        rw [List.length_append, List.length_singleton] at hlt
        exact Nat.le_antisymm (Nat.le_of_lt_succ hlt) hid
      rw [List.getElem?_concat_length] at hentry
      rw [← h.length, List.getElem?_concat_length] at hsink
      obtain rfl := Option.some.inj hentry
      obtain rfl := Option.some.inj hsink
      exact hplace

end Written

/-- A call that the operating system does not refuse lets the disk grow. -/
lemma grows_step (hsound : s.disk.Sound) {call : FilerCall}
    (hfree : directoryFiler.Unhindered s [call]) :
    ∃ touched, s.disk.Grows touched (directoryFiler.step s call).disk := by
  cases call with
  | write id chunk =>
    refine ⟨[], ?_⟩
    show s.disk.Grows [] (s.write id chunk).2.disk
    rw [DirectoryStore.write]
    split
    · exact .refl _ _
    · split
      · exact .refl _ _
      · split <;> exact .refl _ _
  | close id =>
    show ∃ touched, s.disk.Grows touched (s.close id).2.disk
    rw [DirectoryStore.close]
    split
    · exact ⟨[], .refl _ _⟩
    · split
      · exact ⟨[], .refl _ _⟩
      · exact ⟨_, Disk.grows_overwrite hsound _ _⟩
  | create name originating =>
    have hcreation := s.creation_create name originating
    have hfree : ∀ e, (s.create name originating).1 ≠ .error (Failure.ofFile e) := hfree.create
    show ∃ touched, s.disk.Grows touched (s.create name originating).2.disk
    generalize s.create name originating = r at hcreation hfree ⊢
    cases hcreation with
    | duplicate | unsuited => exact ⟨[], .refl _ _⟩
    | failed => exact absurd rfl (hfree _)
    | opened _ _ hopens => exact ⟨_, (hopens.grows hsound).1⟩

/-- Calls that the operating system does not refuse let the disk grow. -/
lemma grows_run (hsound : s.disk.Sound) {calls : List FilerCall}
    (hfree : directoryFiler.Unhindered s calls) :
    ∃ touched, s.disk.Grows touched (directoryFiler.run s calls).disk := by
  induction calls generalizing s with
  | nil => exact ⟨[], .refl _ _⟩
  | cons call calls ih =>
    obtain ⟨hfirst, hothers⟩ := hfree.of_cons
    obtain ⟨touched, hstep⟩ := grows_step hsound hfirst
    obtain ⟨more, hrun⟩ := ih (hstep.sound hsound) hothers
    exact ⟨touched ++ more, (hstep.mono (List.subset_append_left _ _)).trans
      (hrun.mono (List.subset_append_right _ _))⟩

/-- **A call keeps the files those of the sinks.** -/
theorem Written.step (h : base.Written s) (htracked : base.Tracked s) (hsound : base.disk.Sound)
    {call : FilerCall}
    (hplain : ∀ name originating, call = .create name originating → name.Plain)
    (hfree : directoryFiler.Unhindered s [call])
    (hseparated : base.Separated (directoryFiler.step s call).disk) :
    base.Written (directoryFiler.step s call) := by
  cases call with
  | write id chunk => exact h.write hsound id chunk
  | close id => exact h.close hsound id
  | create name originating =>
    have hcreation := s.creation_create name originating
    have hfree : ∀ e, (s.create name originating).1 ≠ .error (Failure.ofFile e) := hfree.create
    change base.Separated (s.create name originating).2.disk at hseparated
    show base.Written (s.create name originating).2
    generalize s.create name originating = r at hcreation hfree hseparated ⊢
    cases hcreation with
    | duplicate | unsuited => exact h
    | failed => exact absurd rfl (hfree _)
    | opened hnew htarget hopens =>
      exact h.opened htracked hsound originating hseparated (hplain name originating rfl) hnew
        htarget hopens

/-- **A run keeps the files those of the sinks.** -/
theorem Written.run (h : base.Written s) (htracked : base.Tracked s) (hsound : base.disk.Sound)
    {calls : List FilerCall}
    (hplain : ∀ name originating, .create name originating ∈ calls → name.Plain)
    (hfree : directoryFiler.Unhindered s calls)
    (hseparated : base.Separated (directoryFiler.run s calls).disk) :
    base.Tracked (directoryFiler.run s calls) ∧
      base.Written (directoryFiler.run s calls) := by
  induction calls generalizing s with
  | nil => exact ⟨htracked, h⟩
  | cons call calls ih =>
    obtain ⟨hfirst, hothers⟩ := hfree.of_cons
    have hplainFirst : ∀ name originating, call = .create name originating → name.Plain :=
      fun name originating hcall => hplain name originating (hcall ▸ List.mem_cons_self)
    obtain ⟨touched, hstep⟩ := grows_step (h.grown.sound hsound) hfirst
    obtain ⟨more, hrun⟩ := grows_run (hstep.sound (h.grown.sound hsound)) hothers
    have hwritten := h.step htracked hsound hplainFirst hfirst (hseparated.of_grows hrun)
    exact ih hwritten (htracked.step hplainFirst)
      (fun name originating hm => hplain name originating (List.mem_cons_of_mem _ hm)) hothers
      hseparated

/-! ## What is at a target -/

/-- **A file at a target is that of its sink**, if the files of targets are separated. -/
lemma exists_sink_of_file (h : base.Written s) (htracked : base.Tracked s)
    (hseparated : base.Separated s.disk) (hsound : base.disk.Sound) {name : Text} {path : Path}
    {bytes : List UInt8} (hplain : name.Plain) (htarget : base.target? name = some path)
    (hfile : s.disk.find? path = some (.file bytes)) :
    ∃ (id : SinkId) (sink : FileSink), s.created[id]? = some (name, path) ∧
      s.sinks[id]? = some sink ∧ bytes = Text.encodeUtf8 sink.flushed := by
  obtain ⟨place, hplace, hentry⟩ := Disk.find?_eq_some.mp hfile
  have hstands := (Disk.resolve_cases (h.grown.sound hsound) hplace).1
  have hnew := h.grown.tree.mem_of_file (hseparated.vacant hplain htarget hplace)
    (hstands.symm.trans hentry)
  obtain ⟨sink, hs, hnames⟩ := List.mem_map.mp hnew
  obtain ⟨id, hsink⟩ := List.mem_iff_getElem?.mp hs
  obtain ⟨entry, hused⟩ := h.exists_entry hsink
  have hholds : s.disk.resolve true entry.2 = _ := h.holds hused hsink
  obtain rfl := htracked.eq_of_place hseparated (List.mem_of_getElem? hused) hplain htarget hholds
    hplace hnames
  refine ⟨id, sink, hused, hsink, ?_⟩
  rw [hplace] at hholds
  obtain rfl := Except.ok.inj hholds
  cases hentry
  rfl

/-- The file of a target that was created holds what its sink has put into it. -/
lemma Written.find?_eq (h : base.Written s) {id : SinkId} {entry : Text × Path} {sink : FileSink}
    (hentry : s.created[id]? = some entry) (hsink : s.sinks[id]? = some sink) :
    s.disk.find? entry.2 = some (.file (Text.encodeUtf8 sink.flushed)) :=
  Disk.find?_eq_some.mpr ⟨_, h.holds hentry hsink, rfl⟩

end DirectoryStore

end UnitForge
