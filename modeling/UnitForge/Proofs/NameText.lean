import UnitForge.Name
import UnitForge.Proofs.Segments

set_option autoImplicit false

/-!
# Names and their texts

The text of a name joins its segments by dots, and reading a text has to find out where the package
ends. That works out when the first segment that starts with an upper-case letter is the outermost
type, as the naming convention has it.

## Main definitions

* `UnitForge.QualifiedName.Conventional` — the naming convention: no dots, colons or blanks in any
  segment, types start with an upper-case letter, and packages do not.

## Main results

* `UnitForge.QualifiedName.parse_toText` — reading the text of a name gives the name back.
* `UnitForge.QualifiedName.Conventional.parse_toText` — so it does for a conventional name.
-/

namespace UnitForge.QualifiedName

variable {n : QualifiedName}

/-! ## Segments of a name -/

/-- The segments of a name make up the name. -/
lemma make_segments (n : QualifiedName) : make n.package n.simpleNames = .ok n := by
  rw [make, dif_pos n.simpleNames_ne_nil, dif_pos n.segments_ne_nil]

/-- The simple names start with that of the outermost type. -/
lemma topLevelName_cons (n : QualifiedName) :
    n.topLevelName :: n.simpleNames.tail = n.simpleNames :=
  List.cons_head_tail n.simpleNames_ne_nil

/-- The outermost type is one of the simple names. -/
lemma topLevelName_mem (n : QualifiedName) : n.topLevelName ∈ n.simpleNames :=
  List.head_mem n.simpleNames_ne_nil

/-- The type itself is one of the simple names. -/
lemma simpleName_mem (n : QualifiedName) : n.simpleName ∈ n.simpleNames :=
  List.getLast_mem n.simpleNames_ne_nil

@[simp] lemma topLevel_package (n : QualifiedName) : n.topLevel.package = n.package := rfl

@[simp] lemma topLevel_simpleName (n : QualifiedName) : n.topLevel.simpleName = n.topLevelName :=
  rfl

@[simp] lemma topLevel_simpleNames (n : QualifiedName) :
    n.topLevel.simpleNames = [n.topLevelName] := rfl

@[simp] lemma topLevel_packageName (n : QualifiedName) :
    n.topLevel.packageName = n.packageName := rfl

/-- The outermost type is its own outermost type. -/
@[simp] lemma topLevel_topLevel (n : QualifiedName) : n.topLevel.topLevel = n.topLevel := rfl

/-! ## Reading the text of a name -/

/-- The segments of the text of a name, if none of them holds a dot. -/
lemma split_toText (h : ∀ segment ∈ n.package ++ n.simpleNames, '.' ∉ segment) :
    Text.split '.' n.toText = n.package ++ n.simpleNames := by
  apply Text.split_join _ h
  exact List.append_ne_nil_of_right_ne_nil _ n.simpleNames_ne_nil

/-- The segments of the nested path of a name, if no simple name holds a dot. -/
lemma split_nestedPath (h : ∀ segment ∈ n.simpleNames, '.' ∉ segment) :
    Text.split '.' n.nestedPath = n.simpleNames :=
  Text.split_join n.simpleNames_ne_nil h

/-- The first segment that starts with an upper-case letter parts the package from the types. -/
lemma parseDotted_toText (hdot : ∀ segment ∈ n.package ++ n.simpleNames, '.' ∉ segment)
    (hpackage : ∀ segment ∈ n.package, startsUpper segment = false)
    (htop : startsUpper n.topLevelName = true) : parseDotted n.toText = .ok n := by
  have hlower : ∀ segment ∈ n.package, (!startsUpper segment) = true := by
    intro segment hm
    rw [hpackage segment hm, Bool.not_false]
  have hdrop : (n.package ++ n.simpleNames).dropWhile (!startsUpper ·) = n.simpleNames := by
    rw [List.dropWhile_append_of_pos hlower, ← n.topLevelName_cons, List.dropWhile_cons, htop]
    rfl
  have htake : (n.package ++ n.simpleNames).takeWhile (!startsUpper ·) = n.package := by
    rw [List.takeWhile_append_of_pos hlower, ← n.topLevelName_cons, List.takeWhile_cons, htop]
    exact List.append_nil _
  rw [parseDotted, split_toText hdot, hdrop, htake]
  split
  next hs => exact absurd hs n.simpleNames_ne_nil
  next => exact n.make_segments

/-- **Reading the text of a name gives the name back**, if its segments hold neither dots nor
colons, the outermost type is the first segment that starts with an upper-case letter, and the text
has no blanks around it. -/
theorem parse_toText (hdot : ∀ segment ∈ n.package ++ n.simpleNames, '.' ∉ segment)
    (hcolon : ∀ segment ∈ n.package ++ n.simpleNames, ':' ∉ segment)
    (hpackage : ∀ segment ∈ n.package, startsUpper segment = false)
    (htop : startsUpper n.topLevelName = true) (htrim : Text.trim n.toText = n.toText) :
    parse n.toText = .ok n := by
  have hcut : Text.cut ':' n.toText = none := by
    apply Text.cut_eq_none
    intro hm
    obtain h | ⟨segment, hs, hc⟩ := Text.mem_join hm
    · exact absurd h (by decide)
    · exact hcolon segment hs hc
  rw [parse, htrim, hcut]
  exact parseDotted_toText hdot hpackage htop

/-! ## The naming convention -/

/-- The naming convention of types and packages. -/
structure Conventional (n : QualifiedName) : Prop where
  /-- No segment holds a dot, a colon or a blank. -/
  plain : ∀ segment ∈ n.package ++ n.simpleNames, ∀ c ∈ segment,
    c ≠ '.' ∧ c ≠ ':' ∧ Text.isBlank c = false
  /-- Every simple name starts with an upper-case letter. -/
  upper : ∀ segment ∈ n.simpleNames, startsUpper segment = true
  /-- No segment of the package starts with an upper-case letter. -/
  lower : ∀ segment ∈ n.package, startsUpper segment = false

instance (n : QualifiedName) : Decidable n.Conventional :=
  decidable_of_iff
    (((n.package ++ n.simpleNames).all fun segment =>
        segment.all fun c => c != '.' && c != ':' && !Text.isBlank c) = true ∧
      n.simpleNames.all startsUpper = true ∧ n.package.all (!startsUpper ·) = true) <| by
    simp only [List.all_eq_true, Bool.and_eq_true, bne_iff_ne, Bool.not_eq_true', and_assoc]
    exact ⟨fun h => ⟨h.1, h.2.1, h.2.2⟩, fun h => ⟨h.plain, h.upper, h.lower⟩⟩

namespace Conventional

variable (h : n.Conventional)
include h

/-- No segment of a conventional name holds a dot. -/
lemma dot_not_mem : ∀ segment ∈ n.package ++ n.simpleNames, '.' ∉ segment :=
  fun segment hs hc => (h.plain segment hs '.' hc).1 rfl

/-- The outermost type of a conventional name is one of conventional name. -/
lemma topLevel : n.topLevel.Conventional where
  plain segment hs := by
    apply h.plain segment
    rw [topLevel_package, topLevel_simpleNames, List.mem_append, List.mem_singleton] at hs
    rcases hs with hs | rfl
    · exact List.mem_append_left _ hs
    · exact List.mem_append_right _ n.topLevelName_mem
  upper segment hs := by
    rw [topLevel_simpleNames, List.mem_singleton] at hs
    subst hs
    exact h.upper _ n.topLevelName_mem
  lower := h.lower

/-- The text of a conventional name has no blanks. -/
lemma isBlank_eq_false {c : Char} (hc : c ∈ n.toText) : Text.isBlank c = false := by
  obtain rfl | ⟨segment, hs, hc⟩ := Text.mem_join hc
  · decide
  · exact (h.plain segment hs c hc).2.2

/-- **Reading the text of a conventional name gives the name back.** -/
theorem parse_toText : parse n.toText = .ok n := by
  apply QualifiedName.parse_toText h.dot_not_mem
  · exact fun segment hs hc => (h.plain segment hs ':' hc).2.1 rfl
  · exact h.lower
  · exact h.upper _ n.topLevelName_mem
  · apply Text.trim_eq_self
    · exact fun c hc => h.isBlank_eq_false (List.mem_of_mem_head? hc)
    · exact fun c hc => h.isBlank_eq_false (List.mem_of_mem_getLast? hc)

end Conventional

end UnitForge.QualifiedName
