import UnitForge.Proofs.LineBreaks
import UnitForge.Proofs.NameText

set_option autoImplicit false

/-!
# The two written forms of a name

A name is written with dots alone, so that its package ends where a segment starts with an
upper-case letter, or with a colon between its package and its types, which allows for any segments.
The full text of a name has dots alone whichever way the name was written. So a name that needs the
colon is not read back from its full text.

## Main definitions

* `UnitForge.QualifiedName.WrittenAs` — the ways in which a name may be written.
* `UnitForge.QualifiedName.ReadsBack` — the full text of a name is read as the name.

## Main results

* `UnitForge.QualifiedName.parse_eq_ok_iff` — what is read, and as which name.
* `UnitForge.QualifiedName.readsBack_iff` — which of the names that can be read are read back.
-/

namespace UnitForge

namespace Text

variable {sep c : Char} {text before after segment : Text} {segments : List Text}

/-! ## Segments and parts -/

/-- A segment of a text holds no separator. -/
lemma sep_not_mem_of_mem_split (h : segment ∈ split sep text) : sep ∉ segment := by
  induction text generalizing segment with
  | nil =>
    rw [split, List.mem_singleton] at h
    simp [h]
  | cons d rest ih =>
    rw [split] at h
    split at h
    next hd =>
      rcases List.mem_cons.mp h with rfl | h
      · simp
      · exact ih h
    next hd =>
      cases hs : split sep rest with
      | nil => exact absurd hs (split_ne_nil sep rest)
      | cons first others =>
        rw [hs] at h ih
        rcases List.mem_cons.mp h with rfl | h
        · rw [List.mem_cons, not_or]
          exact ⟨fun e => hd e.symm, ih List.mem_cons_self⟩
        · exact ih (List.mem_cons_of_mem first h)

/-- Joining segments of which one is not empty gives a text that is not empty. -/
lemma join_ne_nil (h : segment ∈ segments) (hne : segment ≠ []) : join [sep] segments ≠ [] := by
  obtain ⟨c, rest, rfl⟩ := List.exists_cons_of_ne_nil hne
  exact List.ne_nil_of_mem (mem_join_of_mem List.mem_cons_self h)

/-- Joining two lists of segments puts a separator between what joining each of them gives. -/
lemma join_append {others : List Text} (hsegments : segments ≠ []) (hothers : others ≠ []) :
    join [sep] (segments ++ others) = join [sep] segments ++ sep :: join [sep] others := by
  induction segments with
  | nil => exact absurd rfl hsegments
  | cons first rest ih =>
    by_cases hrest : rest = []
    · subst hrest
      exact join_cons hothers
    · rw [List.cons_append, join_cons (List.append_ne_nil_of_left_ne_nil hrest _), ih hrest,
        join_cons hrest, List.append_assoc, List.cons_append]

/-- A joined text starts as the first segment does, if that is not empty. -/
lemma head?_join {others : List Text} (h : segment ≠ []) :
    (join [sep] (segment :: others)).head? = segment.head? := by
  by_cases ho : others = []
  · rw [ho, join]
  · rw [join_cons ho, List.head?_append_of_ne_nil _ h]

/-- Only a text without separators is not cut. -/
lemma cut_eq_none_iff : cut sep text = none ↔ sep ∉ text := by
  refine ⟨fun h => ?_, cut_eq_none⟩
  induction text with
  | nil => simp
  | cons d rest ih =>
    rw [cut] at h
    split at h
    · simp at h
    next hd =>
      rw [Option.map_eq_none_iff] at h
      rw [List.mem_cons, not_or]
      exact ⟨fun e => hd e.symm, ih h⟩

/-- The first separator parts a text. -/
lemma cut_append_cons (h : sep ∉ before) :
    cut sep (before ++ sep :: after) = some (before, after) := by
  induction before with
  | nil => simp [cut]
  | cons d before ih =>
    rw [List.mem_cons, not_or] at h
    rw [List.cons_append, cut, if_neg fun e => h.1 e.symm, ih h.2]
    rfl

/-- **A text is cut at its first separator.** -/
lemma cut_eq_some_iff :
    cut sep text = some (before, after) ↔ text = before ++ sep :: after ∧ sep ∉ before := by
  refine ⟨fun h => ?_, fun ⟨htext, hn⟩ => htext ▸ cut_append_cons hn⟩
  induction text generalizing before with
  | nil => simp [cut] at h
  | cons d rest ih =>
    rw [cut] at h
    split at h
    next hd =>
      obtain ⟨rfl, rfl⟩ : [] = before ∧ rest = after := by simpa using h
      simp [hd]
    next hd =>
      obtain ⟨⟨front, back⟩, hfront, hsome⟩ := Option.map_eq_some_iff.mp h
      obtain ⟨rfl, rfl⟩ : d :: front = before ∧ back = after := by simpa using hsome
      obtain ⟨rfl, hn⟩ := ih hfront
      rw [List.mem_cons, not_or]
      exact ⟨rfl, fun e => hd e.symm, hn⟩

/-- Trimming a text takes characters away and adds none. -/
lemma trim_sublist (text : Text) : (trim text).Sublist text := by
  obtain ⟨front, back, -, -, htrim⟩ := exists_trim text
  conv_rhs => rw [htrim]
  exact (List.sublist_append_right front (trim text)).trans (List.sublist_append_left _ back)

/-- The code points of the blanks. -/
def blankPoints : List Nat :=
  List.range' 0x09 5 ++ List.range' 0x1c 5 ++ List.range' 0x2000 11 ++
    [0x85, 0xa0, 0x1680, 0x2028, 0x2029, 0x202f, 0x205f, 0x3000]

/-- The code point of a blank is one of them. -/
lemma mem_blankPoints (h : isBlank c = true) : c.toNat ∈ blankPoints := by
  simp only [isBlank, Bool.or_eq_true, Bool.and_eq_true, decide_eq_true_eq, beq_iff_eq] at h
  simp only [blankPoints, List.mem_append, List.mem_range'_1, List.mem_cons, List.not_mem_nil,
    or_false]
  omega

/-- An upper-case letter is no blank. -/
lemma isBlank_of_isUpperCase (h : isUpperCase c = true) : isBlank c = false := by
  have hall : ∀ n ∈ blankPoints,
      (if n < 0x80 then 0x41 ≤ n && n ≤ 0x5a else inStrides upperCaseLetters n) = false := by
    decide +kernel
  by_contra hblank
  rw [Bool.not_eq_false] at hblank
  exact absurd h (Bool.eq_false_iff.mp (hall _ (mem_blankPoints hblank)))

end Text

namespace QualifiedName

variable {n : QualifiedName} {text : Text}

/-! ## What is read -/

/-- A name is made of exactly the segments that it is made from. -/
lemma make_eq_ok_iff {package simpleNames : List Text} :
    make package simpleNames = .ok n ↔ n.package = package ∧ n.simpleNames = simpleNames := by
  refine ⟨fun h => ?_, fun ⟨hp, hs⟩ => hp ▸ hs ▸ n.make_segments⟩
  rw [make] at h
  split at h
  · split at h
    · rw [← Except.ok.inj h]
      exact ⟨rfl, rfl⟩
    · simp at h
  · simp at h

/-- Two names with the same segments are the same. -/
lemma eq_of_segments {m : QualifiedName} (hpackage : m.package = n.package)
    (hnames : m.simpleNames = n.simpleNames) : m = n := by
  rw [mk.injEq]
  exact ⟨hpackage, hnames⟩

/-- A type that is not nested has one simple name. -/
lemma simpleNames_of_isTopLevel (h : n.isTopLevel = true) : n.simpleNames = [n.simpleName] := by
  rw [isTopLevel, beq_iff_eq] at h
  obtain ⟨key, hkey⟩ := List.length_eq_one_iff.mp h
  simp only [simpleName, hkey, List.getLast_singleton]

/-- Joining the segments of a dotted package name gives it back. -/
lemma join_packageSegments (package : Text) :
    Text.join ['.'] (packageSegments package) = package := by
  rw [packageSegments]
  split
  next h => rw [List.isEmpty_iff.mp h]; rfl
  next => exact Text.join_split '.' package

/-- No segment of a dotted package name holds a dot. -/
lemma dot_not_mem_packageSegments {package segment : Text} (h : segment ∈ packageSegments package) :
    '.' ∉ segment := by
  rw [packageSegments] at h
  split at h
  · simp at h
  · exact Text.sep_not_mem_of_mem_split h

/-- A package with a segment has a dotted package name. -/
lemma packageName_ne_nil (h : n.package ≠ []) : n.packageName ≠ [] := by
  obtain ⟨first, hfirst⟩ := List.exists_mem_of_ne_nil _ h
  exact Text.join_ne_nil hfirst (n.segments_ne_nil first (List.mem_append_left _ hfirst))

/-- The simple name of the outermost type is not empty. -/
lemma topLevelName_ne_nil (n : QualifiedName) : n.topLevelName ≠ [] :=
  n.segments_ne_nil _ (List.mem_append_right _ n.topLevelName_mem)

/-- A nested path is not empty. -/
lemma nestedPath_ne_nil (n : QualifiedName) : n.nestedPath ≠ [] :=
  Text.join_ne_nil n.topLevelName_mem n.topLevelName_ne_nil

/-- The segments of the package of a name are those of its dotted package name, if none of them
holds a dot. -/
lemma packageSegments_packageName (h : ∀ segment ∈ n.package, '.' ∉ segment) :
    packageSegments n.packageName = n.package := by
  rw [packageSegments, packageName]
  split
  next hempty =>
    by_contra hp
    exact packageName_ne_nil (fun e => hp e.symm) (List.isEmpty_iff.mp hempty)
  next hempty =>
    apply Text.split_join _ h
    intro hp
    rw [hp] at hempty
    exact hempty rfl

/-- The ways in which a name may be written, with blanks around it or not. -/
inductive WrittenAs (text : Text) (n : QualifiedName) : Prop
  /-- The text is the full text of the name, and the first segment of it that starts with an
  upper-case letter is the outermost type. -/
  | dotted (htext : Text.trim text = n.toText) (hcolon : ':' ∉ n.toText)
    (hlower : ∀ segment ∈ n.package, startsUpper segment = false)
    (hupper : startsUpper n.topLevelName = true) : WrittenAs text n
  /-- A colon parts the package from the types. -/
  | parted (htext : Text.trim text = n.packageName ++ ':' :: n.nestedPath)
    (hcolon : ':' ∉ n.packageName) : WrittenAs text n

/-- The name that is read from dots alone starts its types at the first segment that starts with an
upper-case letter. -/
lemma of_parseDotted (h : parseDotted text = .ok n) :
    n.toText = text ∧ (∀ segment ∈ n.package ++ n.simpleNames, '.' ∉ segment) ∧
      (∀ segment ∈ n.package, startsUpper segment = false) ∧
      startsUpper n.topLevelName = true := by
  rw [parseDotted] at h
  split at h
  · simp at h
  next hdrop =>
    obtain ⟨hpackage, hnames⟩ := make_eq_ok_iff.mp h
    have hsplit : n.package ++ n.simpleNames = Text.split '.' text := by
      rw [hpackage, hnames, List.takeWhile_append_dropWhile]
    refine ⟨?_, fun segment hs => ?_, fun segment hs => ?_, ?_⟩
    · rw [toText, hsplit, Text.join_split]
    · rw [hsplit] at hs
      exact Text.sep_not_mem_of_mem_split hs
    · rw [hpackage] at hs
      simpa using List.mem_takeWhile_imp hs
    · have hhead := List.head?_dropWhile_not (!startsUpper ·) (Text.split '.' text)
      rw [← hnames, ← n.topLevelName_cons] at hhead
      simpa using hhead

/-- **What is read, and as which name**: a text in one of the two written forms. No segment of a
name that is read holds a dot.

**Proof sketch.** A colon, if there is one, parts the text at its first occurrence
(`cut_eq_some_iff`); without one the text is read by `parseDotted`. Either way the segments are
those that splitting gives, and joining them gives the parts back. -/
theorem parse_eq_ok_iff :
    parse text = .ok n ↔
      (∀ segment ∈ n.package ++ n.simpleNames, '.' ∉ segment) ∧ n.WrittenAs text := by
  constructor
  · intro h
    rw [parse] at h
    split at h
    next package simpleNames hcut =>
      obtain ⟨htext, hcolon⟩ := Text.cut_eq_some_iff.mp hcut
      obtain ⟨hpackage, hnames⟩ := make_eq_ok_iff.mp h
      refine ⟨fun segment hs => ?_, .parted ?_ ?_⟩
      · rw [hpackage, hnames, List.mem_append] at hs
        exact hs.elim dot_not_mem_packageSegments Text.sep_not_mem_of_mem_split
      · rw [htext, packageName, hpackage, join_packageSegments, nestedPath, hnames, Text.join_split]
      · rwa [packageName, hpackage, join_packageSegments]
    next hcut =>
      obtain ⟨htext, hdot, hlower, hupper⟩ := of_parseDotted h
      refine ⟨hdot, .dotted htext.symm ?_ hlower hupper⟩
      rw [htext]
      exact Text.cut_eq_none_iff.mp hcut
  · rintro ⟨hdot, hwritten⟩
    rw [parse]
    cases hwritten with
    | dotted htext hcolon hlower hupper =>
      rw [htext, Text.cut_eq_none hcolon]
      exact parseDotted_toText hdot hlower hupper
    | parted htext hcolon =>
      rw [htext, Text.cut_append_cons hcolon]
      dsimp only
      rw [of,
        packageSegments_packageName fun segment hs => hdot segment (List.mem_append_left _ hs),
        split_nestedPath fun segment hs => hdot segment (List.mem_append_right _ hs)]
      exact n.make_segments

/-! ## What is read back -/

/-- The full text of a name is read as the name. -/
def ReadsBack (n : QualifiedName) : Prop := parse n.toText = .ok n

/-- The full text of a type without a package is its nested path. -/
lemma toText_of_unpackaged (h : n.package = []) : n.toText = n.nestedPath := by
  rw [toText, h, List.nil_append, nestedPath]

/-- The full text of a type of a package has a dot before the nested path. -/
lemma toText_of_packaged (h : n.package ≠ []) :
    n.toText = n.packageName ++ '.' :: n.nestedPath :=
  Text.join_append h n.simpleNames_ne_nil

/-- The colons of a full text are those of the package and those of the nested path. -/
lemma count_toText (n : QualifiedName) :
    n.toText.count ':' = n.packageName.count ':' + n.nestedPath.count ':' := by
  by_cases h : n.package = []
  · rw [toText_of_unpackaged h, packageName, h, Text.join, List.count_nil, Nat.zero_add]
  · rw [toText_of_packaged h, List.count_append, List.count_cons_of_ne (by decide)]

/-- A segment that starts with an upper-case letter does not start with a blank. -/
lemma isBlank_of_startsUpper {segment : Text} (h : startsUpper segment = true) {c : Char}
    (hc : c ∈ segment.head?) : Text.isBlank c = false := by
  cases segment with
  | nil => simp at hc
  | cons d rest =>
    obtain rfl : d = c := by simpa using hc
    exact Text.isBlank_of_isUpperCase h

/-- The full text of a type of a package starts as the dotted package name does. -/
lemma head?_toText (h : n.package ≠ []) : n.toText.head? = n.packageName.head? := by
  rw [toText_of_packaged h, List.head?_append_of_ne_nil _ (packageName_ne_nil h)]

/-- The full text of a type ends as its nested path does. -/
lemma getLast?_toText (n : QualifiedName) : n.toText.getLast? = n.nestedPath.getLast? := by
  by_cases h : n.package = []
  · rw [toText_of_unpackaged h]
  · rw [toText_of_packaged h, List.append_cons,
      List.getLast?_append_of_ne_nil _ n.nestedPath_ne_nil]

/-- The full text of a name that can be read has no blanks around it, if the outermost type starts
with an upper-case letter. -/
lemma WrittenAs.trim_toText (h : n.WrittenAs text) (hupper : startsUpper n.topLevelName = true) :
    Text.trim n.toText = n.toText := by
  cases h with
  | dotted htext => rw [← htext, Text.trim_trim]
  | parted htext =>
    apply Text.trim_eq_self
    · intro c hc
      by_cases hp : n.package = []
      · rw [toText_of_unpackaged hp, nestedPath, ← n.topLevelName_cons,
          Text.head?_join n.topLevelName_ne_nil] at hc
        exact isBlank_of_startsUpper hupper hc
      · refine @Text.isBlank_of_mem_head?_trim text c ?_
        rw [htext, List.head?_append_of_ne_nil _ (packageName_ne_nil hp), ← head?_toText hp]
        exact hc
    · intro c hc
      refine @Text.isBlank_of_mem_getLast?_trimEnd (Text.trimStart text) c ?_
      rw [← Text.trim, htext, List.append_cons,
        List.getLast?_append_of_ne_nil _ n.nestedPath_ne_nil, ← getLast?_toText]
      exact hc

/-- **Which of the names that can be read are read back** from their full texts: those whose types
hold no colon, whose outermost type starts with an upper-case letter, and whose package has no
segment that does.

**Proof sketch.** The full text has as many colons as package and types have, one less than the form
with a colon between them has; so it is read as the name only for its dots (`parse_eq_ok_iff`). -/
theorem readsBack_iff (h : parse text = .ok n) :
    n.ReadsBack ↔ ':' ∉ n.nestedPath ∧ startsUpper n.topLevelName = true ∧
      ∀ segment ∈ n.package, startsUpper segment = false := by
  obtain ⟨hdot, hwritten⟩ := parse_eq_ok_iff.mp h
  rw [ReadsBack, parse_eq_ok_iff]
  constructor
  · rintro ⟨-, hback⟩
    cases hback with
    | dotted _ hcolon hlower hupper =>
      rw [← List.count_eq_zero, count_toText, Nat.add_eq_zero_iff] at hcolon
      exact ⟨List.count_eq_zero.mp hcolon.2, hupper, hlower⟩
    | parted htext _ =>
      -- the colon between the parts would be one more than the full text has
      have hle : (Text.trim n.toText).count ':' ≤ n.toText.count ':' :=
        (Text.trim_sublist n.toText).count_le ':'
      rw [htext, List.count_append, List.count_cons_self, count_toText] at hle
      omega
  · rintro ⟨hcolon, hupper, hlower⟩
    refine ⟨hdot, .dotted (hwritten.trim_toText hupper) ?_ hlower hupper⟩
    cases hwritten with
    | dotted _ hcolon => exact hcolon
    | parted _ hpackage =>
      rw [← List.count_eq_zero, count_toText, List.count_eq_zero.mpr hpackage,
        List.count_eq_zero.mpr hcolon]

/-- A name that is written without a colon is read back. -/
theorem readsBack_of_dotted (h : parse text = .ok n) (hcolon : ':' ∉ text) : n.ReadsBack := by
  rw [readsBack_iff h]
  cases (parse_eq_ok_iff.mp h).2 with
  | dotted _ hfree hlower hupper =>
    rw [← List.count_eq_zero, count_toText, Nat.add_eq_zero_iff] at hfree
    exact ⟨List.count_eq_zero.mp hfree.2, hupper, hlower⟩
  | parted htext =>
    have hmem : ':' ∈ Text.trim text := by
      rw [htext]
      exact List.mem_append_right _ List.mem_cons_self
    exact absurd ((Text.trim_sublist text).mem hmem) hcolon

end QualifiedName

end UnitForge
