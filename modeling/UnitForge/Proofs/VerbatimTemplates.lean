import Mathlib.Data.List.Basic
import UnitForge.Template.Fill

set_option autoImplicit false

/-!
# Templates that show texts as they are

The plainest templates have no directives but `%s`, and each percent sign that is to be shown stands
twice. Filling such a template with texts puts each of them in the place of its directive and
changes nothing else, whatever percent signs the texts themselves hold.

## Main definitions

* `UnitForge.Template.escaped` — what stands for a character in a template.
* `UnitForge.Template.slot` — the directive that shows a text as it is.

## Main results

* `UnitForge.Template.fill_escaped` — a character that is escaped stands for itself.
* `UnitForge.Template.fill_slot` — a text takes the place of its directive unchanged.
-/

namespace UnitForge.Template

variable {c : Char} {position : Nat} {rest : Text} {values : List Value}

/-- What stands for a character in a template. -/
def escaped (c : Char) : Text := if c = '%' then ['%', '%'] else [c]

/-- The directive that shows a text as it is. -/
def slot : Text := ['%', 's']

/-- A character that is escaped is one segment. -/
lemma segmentsFrom_escaped (c : Char) (position : Nat) (rest : Text) :
    segmentsFrom position (escaped c ++ rest) =
      .literal c :: segmentsFrom (position + (escaped c).length) rest := by
  unfold escaped
  split
  next hc =>
    subst hc
    rw [List.cons_append, List.cons_append, List.nil_append, segmentsFrom]
    rfl
  next hc =>
    rw [List.singleton_append, segmentsFrom, if_neg hc]
    · rfl
    · exact fun _ h _ => absurd h hc

/-- The directive of a slot, where the slot begins at the given position. -/
lemma segmentsFrom_slot (position : Nat) (rest : Text) :
    segmentsFrom position (slot ++ rest) =
      .directive { conversion := some 's', position := position + 1 } ::
        segmentsFrom (position + slot.length) rest := by
  have htake : takeDirective (position + 1) ('s' :: rest) =
      ({ conversion := some 's', position := position + 1 }, rest) := by
    simp [takeDirective, takeFlags, Flags.add?, takeExtent, takePrecision, dropLength]
  rw [slot, List.cons_append, List.cons_append, List.nil_append, segmentsFrom]
  · simp [htake, Nat.add_assoc]
  · simp

/-- A text is shown as it is. -/
lemma fillDirective_slot (text : RawText) (values : List Value) :
    fillDirective { conversion := some 's', position } (.text text :: values) =
      .ok (text, values) := by
  have hconvert : convert {} none 's' .display (.text text) = .ok { body := text } := rfl
  simp [fillDirective, takeWidth, takePrecisionValue, Conversion.ofLetter?, hconvert,
    Converted.fillUp, bind, Except.bind, pure, Except.pure]

/-- **A character that is escaped stands for itself.** -/
theorem fill_escaped (c : Char) (position : Nat) (rest : Text) (values : List Value) :
    fillSegments (segmentsFrom position (escaped c ++ rest)) values =
      (fillSegments (segmentsFrom (position + (escaped c).length) rest) values).map
        (.char c :: ·) := by
  rw [segmentsFrom_escaped, fillSegments]

/-- **A text takes the place of its directive unchanged.** -/
theorem fill_slot (text : RawText) (position : Nat) (rest : Text) (values : List Value) :
    fillSegments (segmentsFrom position (slot ++ rest)) (.text text :: values) =
      (fillSegments (segmentsFrom (position + slot.length) rest) values).map (text ++ ·) := by
  rw [segmentsFrom_slot, fillSegments, fillDirective_slot]
  dsimp only [bind, Except.bind]
  cases fillSegments (segmentsFrom (position + slot.length) rest) values <;> rfl

/-- A template that is but one slot is filled to the text of its value. -/
lemma fill_slot_alone (text : RawText) : fill slot [.text text] = .ok text := by
  have h := fill_slot text 0 [] []
  rw [List.append_nil, segmentsFrom, fillSegments] at h
  rw [fill, segments, h]
  exact congrArg Except.ok (List.append_nil text)

end UnitForge.Template
