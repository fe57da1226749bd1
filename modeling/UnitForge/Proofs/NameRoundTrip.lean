import UnitForge.Proofs.NameForms

set_option autoImplicit false

/-!
# Names and texts, there and back

A name survives being written and read in either of its two forms, and a text that is read as a
name survives being read and written, but for the blanks around it. What is no name is told by the
segments of the text alone.

## Main definitions

* `UnitForge.Text.Unpadded` — a text without blanks at its two ends.
* `UnitForge.QualifiedName.Unreadable` — the texts that are no names.

## Main results

* `UnitForge.QualifiedName.of_packageName` — a name is made again from its dotted package name and
  its simple names.
* `UnitForge.QualifiedName.parse_eq_error_iff` — which texts are no names.
* `UnitForge.QualifiedName.text_round_trips` — writing and reading, and reading and writing.
-/

namespace UnitForge

namespace Text

variable {c : Char} {text : Text}

/-- A text without blanks at its two ends. -/
structure Unpadded (text : Text) : Prop where
  /-- The text does not start with a blank. -/
  start : ∀ c ∈ text.head?, isBlank c = false
  /-- The text does not end with a blank. -/
  finish : ∀ c ∈ text.getLast?, isBlank c = false

instance (text : Text) : Decidable text.Unpadded :=
  decidable_of_iff
    (text.head?.all (!isBlank ·) = true ∧ text.getLast?.all (!isBlank ·) = true) <| by
    simp only [Option.all_eq_true, Bool.not_eq_true']
    exact ⟨fun h => ⟨h.1, h.2⟩, fun h => ⟨h.start, h.finish⟩⟩

/-- Trimming leaves a text without blanks at its two ends alone. -/
lemma Unpadded.trim_eq (h : text.Unpadded) : trim text = text := trim_eq_self h.start h.finish

/-- Trimming takes no character away that is not blank. -/
lemma mem_trim_iff (hc : isBlank c = false) : c ∈ trim text ↔ c ∈ text := by
  refine ⟨(trim_sublist text).mem, fun hm => ?_⟩
  obtain ⟨front, back, hfront, hback, htext⟩ := exists_trim text
  have hnot {blanks : Text} (h : allBlank blanks) : c ∉ blanks := fun hm =>
    absurd (allBlank_iff.mp h c hm) (Bool.eq_false_iff.mp hc)
  rw [htext, List.mem_append, List.mem_append] at hm
  rcases hm with (hm | hm) | hm
  · exact absurd hm (hnot hfront)
  · exact hm
  · exact absurd hm (hnot hback)

end Text

namespace QualifiedName

variable {n : QualifiedName} {text package : Text}

/-! ## Texts that are no names -/

/-- The texts without blanks around them that are no names. -/
inductive Unreadable (text : Text) : Prop
  /-- There is no colon, and a segment is empty. -/
  | emptySegment (hcolon : ':' ∉ text) (hempty : [] ∈ Text.split '.' text) : Unreadable text
  /-- There is no colon, and no segment starts with an upper-case letter. -/
  | noTypeName (hcolon : ':' ∉ text)
    (hlower : ∀ segment ∈ Text.split '.' text, startsUpper segment = false) : Unreadable text
  /-- A segment after the first colon is empty. -/
  | emptyType {package simpleNames : Text} (htext : text = package ++ ':' :: simpleNames)
    (hcolon : ':' ∉ package) (hempty : [] ∈ Text.split '.' simpleNames) : Unreadable text
  /-- There is something before the first colon, and a segment of it is empty. -/
  | emptyPackage {package simpleNames : Text} (htext : text = package ++ ':' :: simpleNames)
    (hcolon : ':' ∉ package) (hne : package ≠ []) (hempty : [] ∈ Text.split '.' package) :
    Unreadable text

/-- There is no name with certain segments if and only if there is no simple name among them or one
of them is empty. -/
lemma make_eq_error_iff {package simpleNames : List Text} :
    (∃ e, make package simpleNames = .error e) ↔
      simpleNames = [] ∨ [] ∈ package ++ simpleNames := by
  rw [make]
  by_cases hnames : simpleNames = []
  · rw [dif_neg (not_not_intro hnames)]
    exact ⟨fun _ => .inl hnames, fun _ => ⟨_, rfl⟩⟩
  rw [dif_pos hnames]
  by_cases hempty : [] ∈ package ++ simpleNames
  · rw [dif_neg fun h => h [] hempty rfl]
    exact ⟨fun _ => .inr hempty, fun _ => ⟨_, rfl⟩⟩
  · have hsegments : ∀ segment ∈ package ++ simpleNames, segment ≠ [] := by
      rintro segment hm rfl
      exact hempty hm
    rw [dif_pos hsegments]
    simp [hnames, hempty]

/-- A dotted package name has an empty segment only if there is something of it. -/
lemma nil_mem_packageSegments :
    [] ∈ packageSegments package ↔ package ≠ [] ∧ [] ∈ Text.split '.' package := by
  rw [packageSegments]
  cases package with
  | nil => simp
  | cons c rest => simp

/-- A text without a colon is no name if and only if one of its segments is empty or none starts
with an upper-case letter. -/
lemma parseDotted_eq_error_iff :
    (∃ e, parseDotted text = .error e) ↔ [] ∈ Text.split '.' text ∨
      ∀ segment ∈ Text.split '.' text, startsUpper segment = false := by
  rw [parseDotted]
  split
  next hdrop =>
    rw [List.dropWhile_eq_nil_iff] at hdrop
    refine ⟨fun _ => .inr fun segment hm => ?_, fun _ => ⟨_, rfl⟩⟩
    simpa using hdrop segment hm
  next hne =>
    rw [make_eq_error_iff, List.takeWhile_append_dropWhile]
    have hupper : ¬∀ segment ∈ Text.split '.' text, startsUpper segment = false := by
      intro hlower
      refine hne (List.dropWhile_eq_nil_iff.mpr fun segment hm => ?_)
      rw [hlower segment hm, Bool.not_false]
    exact ⟨fun h => .inl (h.resolve_left hne), fun h => .inr (h.resolve_right hupper)⟩

/-- **Which texts are no names**: those that are unreadable once the blanks around them are gone.

**Proof sketch.** The text is cut at its first colon, if there is one (`Text.cut_eq_some_iff`), and
then the segments decide. -/
theorem parse_eq_error_iff : (∃ e, parse text = .error e) ↔ Unreadable (Text.trim text) := by
  rw [parse]
  split
  next front back hcut =>
    obtain ⟨htext, hcolon⟩ := Text.cut_eq_some_iff.mp hcut
    have hmem : ':' ∈ Text.trim text := by
      rw [htext]
      exact List.mem_append_right _ List.mem_cons_self
    rw [of, make_eq_error_iff, List.mem_append, nil_mem_packageSegments]
    constructor
    · rintro (hnone | ⟨hne, hempty⟩ | hempty)
      · exact absurd hnone (Text.split_ne_nil '.' back)
      · exact .emptyPackage htext hcolon hne hempty
      · exact .emptyType htext hcolon hempty
    · -- the text is parted at its first colon in one way only
      have hparts {package simpleNames : Text} (h : Text.trim text = package ++ ':' :: simpleNames)
          (hfree : ':' ∉ package) : front = package ∧ back = simpleNames := by
        have hsame := hcut.symm.trans (Text.cut_eq_some_iff.mpr ⟨h, hfree⟩)
        exact Prod.mk.inj (Option.some.inj hsame)
      rintro (⟨hnone, -⟩ | ⟨hnone, -⟩ | ⟨h, hfree, hempty⟩ | ⟨h, hfree, hne, hempty⟩)
      · exact absurd hmem hnone
      · exact absurd hmem hnone
      · obtain ⟨rfl, rfl⟩ := hparts h hfree
        exact .inr (.inr hempty)
      · obtain ⟨rfl, rfl⟩ := hparts h hfree
        exact .inr (.inl ⟨hne, hempty⟩)
  next hcut =>
    have hcolon : ':' ∉ Text.trim text := Text.cut_eq_none_iff.mp hcut
    have hnot {package simpleNames : Text} : Text.trim text ≠ package ++ ':' :: simpleNames :=
      fun h => hcolon (h ▸ List.mem_append_right _ List.mem_cons_self)
    rw [parseDotted_eq_error_iff]
    constructor
    · rintro (hempty | hlower)
      · exact .emptySegment hcolon hempty
      · exact .noTypeName hcolon hlower
    · rintro (⟨-, hempty⟩ | ⟨-, hlower⟩ | ⟨h, -⟩ | ⟨h, -⟩)
      · exact .inl hempty
      · exact .inr hlower
      · exact absurd h hnot
      · exact absurd h hnot

/-! ## Writing and reading -/

/-- **A name is made again** from its dotted package name and its simple names, if no segment of the
package holds a dot. -/
theorem of_packageName (h : ∀ segment ∈ n.package, '.' ∉ segment) :
    of n.packageName n.simpleNames = .ok n := by
  rw [of, packageSegments_packageName h]
  exact n.make_segments

/-- A name is read from the form with a colon, if no segment holds a dot and no segment of the
package a colon. -/
lemma parse_parted (hdot : ∀ segment ∈ n.package ++ n.simpleNames, '.' ∉ segment)
    (hcolon : ∀ segment ∈ n.package, ':' ∉ segment)
    (htrim : Text.Unpadded (n.packageName ++ ':' :: n.nestedPath)) :
    parse (n.packageName ++ ':' :: n.nestedPath) = .ok n := by
  rw [parse_eq_ok_iff]
  refine ⟨hdot, .parted htrim.trim_eq fun hm => ?_⟩
  obtain hsep | ⟨segment, hs, hc⟩ := Text.mem_join hm
  · exact absurd hsep (by decide)
  · exact hcolon segment hs hc

/-- The form in which a name was read: with a colon if the text has one, and the full text of the
name if not. -/
lemma form_of_parse (h : parse text = .ok n) :
    (':' ∉ text → n.toText = Text.trim text) ∧
      (':' ∈ text → n.packageName ++ ':' :: n.nestedPath = Text.trim text) := by
  have hcolon : ':' ∈ Text.trim text ↔ ':' ∈ text := Text.mem_trim_iff (by decide)
  rw [← hcolon]
  cases (parse_eq_ok_iff.mp h).2 with
  | dotted htext hfree =>
    rw [htext]
    exact ⟨fun _ => rfl, fun hm => absurd hm hfree⟩
  | parted htext =>
    rw [htext]
    exact ⟨fun hnot => absurd (List.mem_append_right _ List.mem_cons_self) hnot, fun _ => rfl⟩

/-- **Names and texts, there and back.** A name whose segments hold neither dots nor colons, and
whose outermost type is the first segment to start with an upper-case letter, is read back from its
full text. A name whose segments hold no dots, and those of the package no colons, is made again
from its parts and read back from the form with a colon. Both go for texts without blanks at their
two ends. The other way round, the name that a text is read as is written as that text, but for the
blanks around it; and a text is no name exactly if it is unreadable. -/
theorem text_round_trips :
    (∀ n : QualifiedName,
      (∀ segment ∈ n.package ++ n.simpleNames, '.' ∉ segment ∧ ':' ∉ segment) →
        (∀ segment ∈ n.package, startsUpper segment = false) → startsUpper n.topLevelName = true →
          n.toText.Unpadded → parse n.toText = .ok n) ∧
      (∀ n : QualifiedName, (∀ segment ∈ n.package ++ n.simpleNames, '.' ∉ segment) →
        (∀ segment ∈ n.package, ':' ∉ segment) →
          of n.packageName n.simpleNames = .ok n ∧
            (Text.Unpadded (n.packageName ++ ':' :: n.nestedPath) →
              parse (n.packageName ++ ':' :: n.nestedPath) = .ok n)) ∧
      (∀ (text : Text) (n : QualifiedName), parse text = .ok n →
        (':' ∉ text → n.toText = Text.trim text) ∧
          (':' ∈ text → n.packageName ++ ':' :: n.nestedPath = Text.trim text)) ∧
      ∀ text : Text, (∃ e, parse text = .error e) ↔ Unreadable (Text.trim text) := by
  refine ⟨fun n hplain hlower hupper htrim => ?_, fun n hdot hcolon => ?_,
    fun _ _ => form_of_parse, fun _ => parse_eq_error_iff⟩
  · exact parse_toText (fun segment hs => (hplain segment hs).1)
      (fun segment hs => (hplain segment hs).2) hlower hupper htrim.trim_eq
  · exact ⟨of_packageName fun segment hs => hdot segment (List.mem_append_left _ hs),
      parse_parted hdot hcolon⟩

/-- A nested type of a package. -/
def localeBuilder : QualifiedName where
  package := [Text.lit "java", Text.lit "util"]
  simpleNames := [Text.lit "Locale", Text.lit "Builder"]
  simpleNames_ne_nil := by decide
  segments_ne_nil := by decide

/-- A nested type is read back from both of its forms, made again from its parts, and written as it
was read. -/
theorem text_round_trips_localeBuilder :
    parse (Text.lit "java.util.Locale.Builder") = .ok localeBuilder ∧
      of (Text.lit "java.util") [Text.lit "Locale", Text.lit "Builder"] = .ok localeBuilder ∧
      parse (Text.lit "java.util:Locale.Builder") = .ok localeBuilder ∧
      localeBuilder.packageName ++ ':' :: localeBuilder.nestedPath =
        Text.lit "java.util:Locale.Builder" ∧
      ∃ e, parse (Text.lit " java..Locale ") = .error e := by
  obtain ⟨hfull, hparts, hform, herror⟩ := text_round_trips
  obtain ⟨hof, hparted⟩ := hparts localeBuilder (by decide) (by decide)
  have hread : parse (Text.lit "java.util:Locale.Builder") = .ok localeBuilder :=
    hparted (by decide)
  exact ⟨hfull localeBuilder (by decide) (by decide) (by decide) (by decide), hof, hread,
    (hform _ _ hread).2 (by decide), (herror _).mpr (.emptySegment (by decide) (by decide))⟩

end QualifiedName

end UnitForge
