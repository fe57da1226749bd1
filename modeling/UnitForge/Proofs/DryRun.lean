import UnitForge.Proofs.SinkFiles
import UnitForge.Proofs.Utf8RoundTrip

set_option autoImplicit false

/-!
# A dry run agrees with a real one

A filer in memory shows what a filer in an empty directory would do. Each creation ends alike on
both, and once the sinks are closed there is a file for each name, which is read as the text that is
kept in memory under the name. The two differ on chunks that are no texts: a sink in memory takes
them, and the sink of a file refuses them and writes nothing.

## Main definitions

* `UnitForge.DirectoryStore.IsNew` — a filer that has created nothing.

## Main results

* `UnitForge.Text.plain_join` — names made of segments are plain.
* `UnitForge.dry_run_agrees` — the filer in memory and the one in a directory agree.
* `UnitForge.dry_run_differs` — they differ on a chunk that is no text.
-/

namespace UnitForge

/-- A name made of segments with dots between them is plain if no segment holds a colon, a slash or
a blank. -/
lemma Text.plain_join {segments : List Text}
    (h : ∀ segment ∈ segments, ∀ c ∈ segment, c ≠ ':' ∧ c ≠ '/' ∧ Text.isBlank c = false) :
    (Text.join ['.'] segments).Plain := by
  have hchars : ∀ c ∈ Text.join ['.'] segments, c ≠ ':' ∧ c ≠ '/' ∧ Text.isBlank c = false := by
    intro c hc
    rcases Text.mem_join hc with rfl | ⟨segment, hs, hc⟩
    · decide
    · exact h segment hs c hc
  refine ⟨Text.trim_eq_self ?_ ?_, fun hm => (hchars _ hm).1 rfl, fun hm => (hchars _ hm).2.1 rfl⟩
  · exact fun c hc => (hchars c (List.mem_of_mem_head? hc)).2.2
  · exact fun c hc => (hchars c (List.mem_of_mem_getLast? hc)).2.2

namespace DirectoryStore

variable {base : DirectoryStore}

/-! ## A new filer -/

/-- Nothing has been created. -/
structure IsNew (s : DirectoryStore) : Prop where
  /-- No target is recorded. -/
  created : s.created = []
  /-- No value is recorded. -/
  originating : s.originating = []
  /-- There are no sinks. -/
  sinks : s.sinks = []

namespace IsNew

variable (h : base.IsNew)

include h

lemma mirrors : Mirrors {} base where
  names := by rw [h.created]; rfl
  sinks id := by rw [h.sinks]; exact .none
  originating := h.originating.symm

lemma tracked : base.Tracked base where
  wellFormed := ⟨by simp [h.created, Keyed.keys], by simp [h.created]⟩
  target := rfl
  plain := by simp [h.created]

lemma written : base.Written base where
  grown := .refl _ _
  length := by rw [h.sinks, h.created]; rfl
  holds hentry := by simp [h.created] at hentry
  apart := by simp [h.sinks]

end IsNew

end DirectoryStore

/-- What is written to an open sink is taken in memory. In the directory it is taken if it is a
text, and refused without a change if not. -/
lemma Mirrors.write_of_open {m : MemoryStore} {s : DirectoryStore} (h : Mirrors m s) {id : SinkId}
    {sink : FileSink} (hsink : s.sinks[id]? = some sink) (hopen : sink.closed = false)
    (chunk : RawText) :
    (memoryFiler.write id chunk m).1 = .ok () ∧
      (∀ text, chunk = .ofText text → (directoryFiler.write id chunk s).1 = .ok ()) ∧
      ∀ e, chunk.toText = .error e →
        directoryFiler.write id chunk s = (.error (.unencodable e), s) := by
  obtain ⟨kept, hkept, hfollows⟩ := h.exists_kept hsink
  have hkeptOpen : kept.closed = false := hfollows.closed.symm.trans hopen
  refine ⟨?_, ?_, fun e hchunk => ?_⟩
  · simp [memoryFiler, MemoryStore.write, hkept, hkeptOpen]
  · rintro text rfl
    simp [directoryFiler, DirectoryStore.write, hsink, hopen]
  · simp [directoryFiler, DirectoryStore.write, hsink, hopen, hchunk]

/-- **A dry run agrees with a real one.** Let calls be made on a new filer in memory and on a new
one in a directory, where each target is named by a plain text, as every text of segments without
colons, slashes and blanks is (`Text.plain_join`). Suppose that the operating system refuses
nothing, and that different targets have their files at different places, where nothing stood at
first, as in an empty output directory (`separated_of_emptyOutput`). Then each creation ends alike
on both filers, with a sink or with the same refusal; the same values are recorded, and the same
names. What is written to an open sink is taken in memory, and it is taken in the directory exactly
if it is a text: anything else is refused there, and nothing changes. Once all sinks are closed,
there is a file at a target exactly if the target was created, and if what is kept in memory under
the name is a text, then the file is read as that text.

**Proof sketch.** Call by call the two filers keep the same account (`Mirrors.run`), and the files
stay those of the sinks (`Written.run`). A file at a target is new, so it is the file of a sink, and
as the places of different targets are different, it is that of the sink of the same name. Its bytes
are those of the text of the sink, which is what is read from them (`Text.decodeUtf8_eq_ok_iff`). -/
theorem dry_run_agrees {s : DirectoryStore} (hs : s.IsNew) (hsound : s.disk.Sound)
    (calls : List FilerCall)
    (hplain : ∀ name originating, .create name originating ∈ calls → name.Plain)
    (hfree : directoryFiler.Unhindered s calls)
    (hseparated : s.Separated (directoryFiler.run s calls).disk) :
    memoryFiler.outcomes {} calls = directoryFiler.outcomes s calls ∧
      (memoryFiler.run {} calls).originating = (directoryFiler.run s calls).originating ∧
      Keyed.keys (memoryFiler.run {} calls).sources =
        Keyed.keys (directoryFiler.run s calls).created ∧
      (∀ id sink, (directoryFiler.run s calls).sinks[id]? = some sink → sink.closed = false →
        ∀ chunk, (memoryFiler.write id chunk (memoryFiler.run {} calls)).1 = .ok () ∧
          (∀ text, chunk = .ofText text →
            (directoryFiler.write id chunk (directoryFiler.run s calls)).1 = .ok ()) ∧
          ∀ e, chunk.toText = .error e →
            directoryFiler.write id chunk (directoryFiler.run s calls) =
              (.error (.unencodable e), directoryFiler.run s calls)) ∧
      ((∀ sink ∈ (directoryFiler.run s calls).sinks, sink.closed = true) →
        ∀ name n, name.Plain → checkTarget name = .ok n →
          ((∃ bytes, (directoryFiler.run s calls).disk.find? (s.pathFor n) =
              some (.file bytes)) ↔
            name ∈ Keyed.keys (memoryFiler.run {} calls).sources) ∧
          ∀ text, Keyed.get? (memoryFiler.run {} calls).sources name = some (.ofText text) →
            ∃ bytes, (directoryFiler.run s calls).disk.find? (s.pathFor n) =
                some (.file bytes) ∧
              Text.decodeUtf8 bytes = .ok text) := by
  obtain ⟨houtcomes, hmirrors⟩ := hs.mirrors.run calls hfree
  obtain ⟨htracked, hwritten⟩ := hs.written.run hs.tracked hsound hplain hfree hseparated
  refine ⟨houtcomes, hmirrors.originating, hmirrors.keys_sources,
    fun id sink hsink hopen chunk => hmirrors.write_of_open hsink hopen chunk, ?_⟩
  intro hclosed name n hname htarget
  have hpath : s.target? name = some (s.pathFor n) :=
    DirectoryStore.target?_eq_some.mpr ⟨n, htarget, rfl⟩
  -- a target that was created has a sink, and its file holds the text of the sink
  have hfile (hmem : name ∈ Keyed.keys (memoryFiler.run {} calls).sources) :
      ∃ (sink : FileSink) (kept : MemorySink),
        Keyed.get? (memoryFiler.run {} calls).sources name = some kept.text ∧
          sink.Follows kept ∧
          (directoryFiler.run s calls).disk.find? (s.pathFor n) =
            some (.file (Text.encodeUtf8 sink.text)) := by
    rw [hmirrors.keys_sources] at hmem
    obtain ⟨⟨_, path⟩, hrecorded, rfl⟩ := List.mem_map.mp hmem
    obtain ⟨id, hentry⟩ := List.mem_iff_getElem?.mp hrecorded
    obtain ⟨sink, hsink⟩ := hwritten.exists_sink hentry
    obtain ⟨kept, hkept, hfollows⟩ :=
      hmirrors.exists_get?_sources htracked.wellFormed.distinct hentry hsink
    obtain rfl : path = s.pathFor n :=
      Option.some.inj ((htracked.aimed hrecorded).symm.trans hpath)
    have hflushed : sink.flushed = sink.text := if_pos (hclosed sink (List.mem_of_getElem? hsink))
    exact ⟨sink, kept, hkept, hfollows, hflushed ▸ hwritten.find?_eq hentry hsink⟩
  refine ⟨⟨?_, fun hmem => ?_⟩, fun text htext => ?_⟩
  · rintro ⟨bytes, hbytes⟩
    obtain ⟨id, sink, hentry, -, -⟩ :=
      DirectoryStore.exists_sink_of_file hwritten htracked hseparated hsound hname hpath hbytes
    rw [hmirrors.keys_sources]
    exact List.mem_map_of_mem (List.mem_of_getElem? hentry)
  · obtain ⟨sink, -, -, -, hfound⟩ := hfile hmem
    exact ⟨_, hfound⟩
  · obtain ⟨sink, kept, hkept, hfollows, hfound⟩ := hfile (Keyed.mem_keys htext)
    have hsame : kept.text = .ofText text := Option.some.inj (hkept.symm.trans htext)
    exact ⟨_, hfound, Text.decodeUtf8_eq_ok_iff.mpr (by rw [hfollows.text hsame])⟩

/-- Calls that open two sinks at once and are refused three targets in between, and a chunk that is
no text for the second sink. -/
def interleavedCalls : List FilerCall :=
  [.create (Text.lit "com.x.Foo") .absent, .create (Text.lit "com.x.Bar") .absent,
    .write 0 (.ofText (Text.lit "a")), .write 1 (.ofText (Text.lit "b")),
    .create (Text.lit "com.x.Foo") .absent, .create (Text.lit "com.x.Foo.Bar") .absent,
    .create (Text.lit "com.x.foo") .absent, .write 1 [.char 'c', .ofNat 0xd800],
    .write 0 (.ofText (Text.lit "é")), .close 0, .close 1]

/-- The calls have the same outcomes on both filers, and the file of a type is read as the text that
is kept in memory. -/
theorem dry_run_agrees_interleaved :
    memoryFiler.outcomes {} interleavedCalls =
        directoryFiler.outcomes DirectoryStore.blankStore interleavedCalls ∧
      ∃ bytes, (directoryFiler.run DirectoryStore.blankStore interleavedCalls).disk.find?
            (Path.parse (Text.lit "out/com/x/Foo.java")) = some (.file bytes) ∧
        Text.decodeUtf8 bytes = .ok (Text.lit "aé") := by
  have hs : DirectoryStore.blankStore.IsNew := ⟨rfl, rfl, rfl⟩
  have hsound : DirectoryStore.blankStore.disk.Sound := ⟨[], rfl⟩
  have hplain : ∀ name originating, .create name originating ∈ interleavedCalls → name.Plain := by
    intro name originating hm
    simp only [interleavedCalls, List.mem_cons, List.not_mem_nil, FilerCall.create.injEq,
      reduceCtorEq, or_false, false_or] at hm
    rcases hm with ⟨rfl, -⟩ | ⟨rfl, -⟩ | ⟨rfl, -⟩ | ⟨rfl, -⟩ | ⟨rfl, -⟩ <;> decide
  have hfree : directoryFiler.Unhindered DirectoryStore.blankStore interleavedCalls := by
    have houtcomes : directoryFiler.outcomes DirectoryStore.blankStore interleavedCalls =
        [.ok 0, .ok 1, .error (.refused (.duplicate (Text.lit "com.x.Foo"))),
          .error (.refused (.nested (Text.lit "com.x.Foo.Bar"))),
          .error (.refused (.notTypeName (Text.lit "com.x.foo")
            (.noTypeName (Text.lit "com.x.foo"))))] := by
      cbv
    rw [Filer.Unhindered, houtcomes]
    rintro (_ | error) <;> simp [Failure.ofFile]
  have hseparated : DirectoryStore.blankStore.Separated
      (directoryFiler.run DirectoryStore.blankStore interleavedCalls).disk := by
    obtain ⟨touched, hgrows⟩ := DirectoryStore.grows_run hsound hfree
    have htop : ((directoryFiler.run DirectoryStore.blankStore interleavedCalls).disk.resolve
        true DirectoryStore.blankStore.root).map (·.names) =
        .ok [Text.lit "work", Text.lit "out"] := by
      cbv
    refine DirectoryStore.separated_of_emptyOutput hgrows (hgrows.sound hsound) ?_ (by decide)
    intro top rest hresolve _
    rw [hresolve] at htop
    have hnames : top.names = [Text.lit "work", Text.lit "out"] := Except.ok.inj htop
    rw [hnames]
    rfl
  obtain ⟨houtcomes, -, -, -, hfiles⟩ := dry_run_agrees hs hsound interleavedCalls hplain hfree
    hseparated
  have htarget : DirectoryStore.blankStore.target? (Text.lit "com.x.Foo") =
      some (Path.parse (Text.lit "out/com/x/Foo.java")) := by
    cbv
  obtain ⟨n, hn, hpath⟩ := DirectoryStore.target?_eq_some.mp htarget
  have hclosed : ((directoryFiler.run DirectoryStore.blankStore interleavedCalls).sinks.all
      (·.closed)) = true := by
    cbv
  have htext : Keyed.get? (memoryFiler.run {} interleavedCalls).sources (Text.lit "com.x.Foo") =
      some (.ofText (Text.lit "aé")) := by
    cbv
  refine ⟨houtcomes, hpath ▸ (hfiles ?_ _ n (by decide) hn).2 _ htext⟩
  simpa using hclosed

/-- Calls that create one target and write a chunk to it that is no text. -/
def loneCalls : List FilerCall :=
  [.create (Text.lit "com.x.Foo") .absent, .write 0 [.ofNat 0xd800], .close 0]

/-- After these calls the sink is closed on both sides and the operating system has refused nothing,
but the file of the target is empty, and that is not what is kept in memory under its name: the
chunk was refused by the sink of the file. -/
theorem dry_run_differs :
    memoryFiler.outcomes {} loneCalls = [.ok 0] ∧
      directoryFiler.outcomes DirectoryStore.blankStore loneCalls = [.ok 0] ∧
      (directoryFiler.run DirectoryStore.blankStore loneCalls).sinks.map (·.closed) = [true] ∧
      (directoryFiler.write 0 [.ofNat 0xd800]
          (directoryFiler.run DirectoryStore.blankStore (loneCalls.take 1))).1 =
        .error (.unencodable ⟨0, 0, 0⟩) ∧
      DirectoryStore.blankStore.target? (Text.lit "com.x.Foo") =
        some (Path.parse (Text.lit "out/com/x/Foo.java")) ∧
      (directoryFiler.run DirectoryStore.blankStore loneCalls).disk.find?
          (Path.parse (Text.lit "out/com/x/Foo.java")) = some (.file []) ∧
      Text.decodeUtf8 [] = .ok [] ∧
      Keyed.get? (memoryFiler.run {} loneCalls).sources (Text.lit "com.x.Foo") ≠
        some (.ofText []) := by
  refine ⟨by cbv, by cbv, by cbv, by cbv, by cbv, by cbv, rfl, ?_⟩
  have hkept : Keyed.get? (memoryFiler.run {} loneCalls).sources (Text.lit "com.x.Foo") =
      some [.ofNat 0xd800] := by
    cbv
  rw [hkept]
  decide

end UnitForge
