import UnitForge.Output.Directory
import UnitForge.Proofs.NameForms

set_option autoImplicit false

/-!
# The files of types

The file of a type lies below the output directory, with a component for each segment of the package
and one for the type. A segment with a slash in it is a path of its own, and one that starts with a
slash even leaves the output directory; without slashes the components are the segments themselves,
and the file determines the type.

## Main results

* `UnitForge.DirectoryStore.pathFor_parts` — the components of the file of a type.
* `UnitForge.DirectoryStore.pathFor_inj` — different types without slashes have different files.
-/

namespace UnitForge

namespace Text

variable {sep : Char} {first text : Text}

/-- What stands before the first separator joins the first segment. -/
lemma split_append (h : sep ∉ first) (text : Text) :
    split sep (first ++ text) =
      (first ++ (split sep text).head (split_ne_nil sep text)) :: (split sep text).tail := by
  induction first with
  | nil => rw [List.nil_append, List.nil_append, List.cons_head_tail]
  | cons c first ih =>
    rw [List.mem_cons, not_or] at h
    rw [List.cons_append, split, if_neg fun e => h.1 e.symm, ih h.2]
    rfl

end Text

namespace Path

variable {p : Path} {segment : Text} {names : List Text}

/-! ## Names without slashes -/

/-- A text that does not start with a slash has no anchor. -/
lemma anchorOf_eq_nil {text : Text} (h : text.head? ≠ some '/') : anchorOf text = [] := by
  rw [anchorOf.eq_def]
  split <;> simp_all

/-- A segment of a name that has no slash is one component, whatever follows it. -/
lemma parse_append (hne : segment ≠ []) (hslash : '/' ∉ segment) (hdot : '.' ∉ segment)
    (text : Text) :
    parse (segment ++ text) =
      ⟨[], (segment ++ (Text.split '/' text).head (Text.split_ne_nil '/' text)) ::
        (Text.split '/' text).tail.filter isPart⟩ := by
  obtain ⟨c, rest, rfl⟩ := List.exists_cons_of_ne_nil hne
  have hanchor : anchorOf (c :: rest ++ text) = [] := by
    apply anchorOf_eq_nil
    rw [List.cons_append, List.head?_cons]
    exact fun e => hslash (Option.some.inj e ▸ List.mem_cons_self)
  have hpart : isPart
      (c :: rest ++ (Text.split '/' text).head (Text.split_ne_nil '/' text)) = true := by
    have hc : c ≠ '.' := fun e => hdot (e ▸ List.mem_cons_self)
    simp [isPart, hc]
  rw [parse, hanchor, Text.split_append hslash, List.filter_cons_of_pos hpart]

/-- A segment of a name that has no slash is one component. -/
lemma parse_segment (hne : segment ≠ []) (hslash : '/' ∉ segment) (hdot : '.' ∉ segment) :
    parse segment = ⟨[], [segment]⟩ := by
  have h := parse_append hne hslash hdot []
  rw [List.append_nil] at h
  rw [h]
  simp [Text.split]

/-- Descending along the names of one list and then along those of another. -/
lemma descend_append (p : Path) (names others : List Text) :
    p.descend (names ++ others) = (p.descend names).descend others := List.foldl_append

/-- Descending along segments of names that have no slash adds them as components. -/
lemma descend_segments (h : ∀ segment ∈ names, segment ≠ [] ∧ '/' ∉ segment ∧ '.' ∉ segment) :
    p.descend names = { p with parts := p.parts ++ names } := by
  induction names generalizing p with
  | nil => rw [descend, List.foldl_nil, List.append_nil]
  | cons first others ih =>
    obtain ⟨hne, hslash, hdot⟩ := h first List.mem_cons_self
    have hstep : p.descend (first :: others) =
        Path.descend { p with parts := p.parts ++ [first] } others := by
      rw [descend, List.foldl_cons, parse_segment hne hslash hdot]
      rfl
    rw [hstep, ih fun segment hs => h segment (List.mem_cons_of_mem first hs), List.append_assoc,
      List.singleton_append]

end Path

namespace QualifiedName

/-- No segment of a name holds a slash. -/
def Slashless (n : QualifiedName) : Prop := ∀ segment ∈ n.package ++ n.simpleNames, '/' ∉ segment

/-- The full text of a name without slashes has none. -/
lemma Slashless.not_mem_toText {n : QualifiedName} (h : n.Slashless) : '/' ∉ n.toText := by
  intro hmem
  obtain hsep | ⟨segment, hs, hmem⟩ := Text.mem_join hmem
  · exact absurd hsep (by decide)
  · exact h segment hs hmem

/-- A name that is read from a text without slashes has none. -/
lemma slashless_of_parse {n : QualifiedName} {text : Text} (h : parse text = .ok n)
    (hslash : '/' ∉ text) : n.Slashless := by
  intro segment hs hmem
  apply hslash
  apply (Text.trim_sublist text).mem
  cases (parse_eq_ok_iff.mp h).2 with
  | dotted htext => exact htext ▸ Text.mem_join_of_mem hmem hs
  | parted htext =>
    rw [htext]
    rcases List.mem_append.mp hs with hs | hs
    · exact List.mem_append_left _ (Text.mem_join_of_mem hmem hs)
    · exact List.mem_append_right _ (List.mem_cons_of_mem _ (Text.mem_join_of_mem hmem hs))

end QualifiedName

/-- A target is named for the type that its name is read as, if that is not nested. -/
lemma checkTarget_eq_ok_iff {name : Text} {n : QualifiedName} :
    checkTarget name = .ok n ↔ QualifiedName.parse name = .ok n ∧ n.isTopLevel = true := by
  rw [checkTarget]
  constructor
  · intro h
    split at h
    · simp at h
    · split at h
      next hparse htop =>
        obtain rfl := Except.ok.inj h
        exact ⟨hparse, htop⟩
      · simp at h
  · rintro ⟨hparse, htop⟩
    simp [hparse, htop]

namespace DirectoryStore

variable {s : DirectoryStore} {m n : QualifiedName}

/-- **The components of the file of a type** whose segments have neither dots nor slashes: those of
the output directory, the segments of the package, and the simple name with the extension. An
extension with slashes in it adds further ones. -/
theorem pathFor_parts (hdot : ∀ segment ∈ n.package ++ n.simpleNames, '.' ∉ segment)
    (hslash : n.Slashless) :
    s.pathFor n =
      { s.root with
        parts := s.root.parts ++ n.package ++
          (n.simpleName ++ (Text.split '/' s.extension).head (Text.split_ne_nil '/' s.extension)) ::
            (Text.split '/' s.extension).tail.filter Path.isPart } := by
  have hsimple : n.simpleName ∈ n.package ++ n.simpleNames :=
    List.mem_append_right _ n.simpleName_mem
  have hpackage : s.root.descend n.package =
      { s.root with parts := s.root.parts ++ n.package } := by
    apply Path.descend_segments
    intro segment hs
    have hmem : segment ∈ n.package ++ n.simpleNames := List.mem_append_left _ hs
    exact ⟨n.segments_ne_nil _ hmem, hslash _ hmem, hdot _ hmem⟩
  rw [pathFor, Path.descend_append, hpackage, Path.descend, List.foldl_cons, List.foldl_nil,
    Path.parse_append (n.segments_ne_nil _ hsimple) (hslash _ hsimple) (hdot _ hsimple)]
  rfl

/-- **Different types have different files**, if they are not nested and their names are read from
texts without slashes. -/
theorem pathFor_inj {x y : Text} (hm : checkTarget x = .ok m) (hn : checkTarget y = .ok n)
    (hx : '/' ∉ x) (hy : '/' ∉ y) : s.pathFor m = s.pathFor n ↔ m = n := by
  obtain ⟨hmread, hmtop⟩ := checkTarget_eq_ok_iff.mp hm
  obtain ⟨hnread, hntop⟩ := checkTarget_eq_ok_iff.mp hn
  have hmdot := (QualifiedName.parse_eq_ok_iff.mp hmread).1
  have hndot := (QualifiedName.parse_eq_ok_iff.mp hnread).1
  refine ⟨fun h => ?_, fun h => h ▸ rfl⟩
  rw [pathFor_parts hmdot (QualifiedName.slashless_of_parse hmread hx),
    pathFor_parts hndot (QualifiedName.slashless_of_parse hnread hy)] at h
  -- the components of the directory and those of the extension are the same on both sides
  have hparts := (Path.mk.inj h).2
  rw [List.append_assoc, List.append_assoc, List.append_cancel_left_eq, List.append_cons,
    List.append_cons n.package, List.append_cancel_right_eq] at hparts
  obtain ⟨hpackage, hname⟩ := List.append_inj' hparts rfl
  rw [List.singleton_inj, List.append_cancel_right_eq] at hname
  apply QualifiedName.eq_of_segments hpackage
  rw [QualifiedName.simpleNames_of_isTopLevel hmtop, QualifiedName.simpleNames_of_isTopLevel hntop,
    hname]

end DirectoryStore

end UnitForge
