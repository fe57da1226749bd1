import UnitForge.Name

set_option autoImplicit false

/-!
# Reference markers

A body text may refer to types by markers `$[com.example.Name]`. All else in it stands for itself.

## Main definitions

* `UnitForge.Marker.pieces`: the characters and the markers of a text.
* `UnitForge.Marker.references`: the distinct types that a text refers to, in order.
* `UnitForge.Marker.compile`: the template that a text stands for, with its types.
-/

namespace UnitForge.Marker

/-- A part of a text: a character, or a marker with the given content. -/
inductive Piece where
  /-- A character that stands for itself. -/
  | literal (c : Char)
  /-- A marker. -/
  | marker (content : Text)
  deriving DecidableEq, Repr

/-- Whether a character may stand in a marker. -/
def isContent (c : Char) : Bool := c != ']' && !Text.isBlank c

/-- The marker at the start of a text, by its content and the text after it. -/
def takeMarker? : Text → Option (Text × Text)
  | '$' :: '[' :: rest =>
    match rest.takeWhile isContent, rest.dropWhile isContent with
    | c :: content, ']' :: after => some (c :: content, after)
    | _, _ => none
  | _ => none

theorem length_lt_of_takeMarker? {text content after : Text}
    (h : takeMarker? text = some (content, after)) : after.length < text.length := by
  unfold takeMarker? at h
  split at h
  · next rest =>
    split at h
    · next c r after' _ hd =>
      simp only [Option.some.injEq, Prod.mk.injEq] at h
      obtain ⟨-, rfl⟩ := h
      have hl := (List.dropWhile_suffix (l := rest) isContent).length_le
      rw [hd] at hl
      simp only [List.length_cons] at hl ⊢
      omega
    · simp at h
  · simp at h

/-- The pieces of a text, from left to right. -/
def pieces (text : Text) : List Piece :=
  match h : takeMarker? text with
  | some (content, after) =>
    have := length_lt_of_takeMarker? h
    .marker content :: pieces after
  | none =>
    match text with
    | [] => []
    | c :: rest => .literal c :: pieces rest
  termination_by text.length

/-- The types named by the markers among some pieces. -/
def names : List Piece → Except NameError (List QualifiedName)
  | [] => .ok []
  | .literal _ :: rest => names rest
  | .marker content :: rest => do
    let n ← QualifiedName.parse content
    let more ← names rest
    return n :: more

/-- The list without repetitions; the first of equal members is kept. -/
def distinct (names : List QualifiedName) : List QualifiedName :=
  names.foldl (fun seen n => if n ∈ seen then seen else seen ++ [n]) []

/-- The distinct types that a text refers to, in order of appearance. -/
def references (text : Text) : Except NameError (List QualifiedName) :=
  (names (pieces text)).map distinct

/-- The template of one piece: a marker takes a value, and a percent sign is doubled. -/
def pieceTemplate : Piece → Text
  | .literal c => if c = '%' then ['%', '%'] else [c]
  | .marker _ => ['%', 's']

/-- The template that a text stands for, with the types that fill it. -/
def compile (text : Text) : Except NameError (Text × List QualifiedName) :=
  let all := pieces text
  (names all).map fun names => (all.flatMap pieceTemplate, names)

end UnitForge.Marker
