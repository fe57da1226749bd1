import Mathlib.Data.List.TakeWhile
import UnitForge.Proofs.DraftScope
import UnitForge.Proofs.VerbatimTemplates

set_option autoImplicit false

/-!
# Rendering a text with markers

A text with markers is cut from left to right: where a marker begins it is cut off whole, and any
other character stands alone. Rendering puts the text that refers to a type in the place of its
marker and leaves all else as it is. That the text becomes a template on the way, with slots for the
references and percent signs doubled, is not to be seen.

## Main definitions

* `UnitForge.Marker.Cut` — the pieces that a text is cut into.
* `UnitForge.Marker.NamesTypes`, `UnitForge.Marker.FirstMisnamed` — every marker names a type, or
  there is a first one that does not.
* `UnitForge.Marker.Rendered`, `UnitForge.Marker.Refused` — what pieces are rendered to in a scope,
  and at which reference rendering them stops.

## Main results

* `UnitForge.Marker.cut_iff` — a text is cut into its pieces and in no other way.
* `UnitForge.Marker.render_substitutes` — rendering is the exact substitution of markers.
-/

namespace UnitForge.Marker

variable {text content after rest : Text} {all : List Piece} {s t : Scope}

/-! ## Cutting -/

/-- The marker with a given content, as it is written. -/
def written (content : Text) : Text := '$' :: '[' :: (content ++ [']'])

/-- What may stand in a marker: at least one character, and neither a closing bracket nor a
blank. -/
structure Proper (content : Text) : Prop where
  /-- There is something in the marker. -/
  ne_nil : content ≠ []
  /-- No character of it closes the marker or is blank. -/
  plain : ∀ c ∈ content, c ≠ ']' ∧ Text.isBlank c = false

/-- The pieces that a text is cut into from left to right. -/
inductive Cut : Text → List Piece → Prop
  /-- There is nothing to cut. -/
  | nil : Cut [] []
  /-- A marker is cut off. -/
  | marker {content rest : Text} {pieces : List Piece} (hcontent : Proper content)
    (hrest : Cut rest pieces) : Cut (written content ++ rest) (.marker content :: pieces)
  /-- No marker begins here, and a character is cut off. -/
  | literal {c : Char} {rest : Text} {pieces : List Piece}
    (hnone : ∀ content, Proper content → ¬ written content <+: c :: rest)
    (hrest : Cut rest pieces) : Cut (c :: rest) (.literal c :: pieces)

/-- The characters that may stand in a marker. -/
lemma isContent_iff {c : Char} : isContent c = true ↔ c ≠ ']' ∧ Text.isBlank c = false := by
  simp [isContent]

/-- A proper content goes on up to the bracket that closes the marker. -/
lemma Proper.span (h : Proper content) (after : Text) :
    (content ++ ']' :: after).takeWhile isContent = content ∧
      (content ++ ']' :: after).dropWhile isContent = ']' :: after := by
  have hall : ∀ c ∈ content, isContent c = true := fun c hc => isContent_iff.mpr (h.plain c hc)
  rw [List.takeWhile_append_of_pos hall, List.dropWhile_append_of_pos hall]
  exact ⟨List.append_nil content, rfl⟩

/-- **What is taken for a marker** at the start of a text is one. -/
lemma takeMarker?_eq_some :
    takeMarker? text = some (content, after) ↔
      Proper content ∧ text = written content ++ after := by
  constructor
  · intro h
    unfold takeMarker? at h
    split at h
    · next rest =>
      split at h
      · next c front after' htake hdrop =>
        obtain ⟨rfl, rfl⟩ : c :: front = content ∧ after' = after := by simpa using h
        refine ⟨⟨List.cons_ne_nil _ _, fun d hd => isContent_iff.mp ?_⟩, ?_⟩
        · rw [← htake] at hd
          exact List.mem_takeWhile_imp hd
        · have hrest := List.takeWhile_append_dropWhile (p := isContent) (l := rest)
          rw [htake, hdrop] at hrest
          simp [← hrest, written]
      · simp at h
    · simp at h
  · rintro ⟨hcontent, rfl⟩
    obtain ⟨c, front, rfl⟩ := List.exists_cons_of_ne_nil hcontent.ne_nil
    obtain ⟨htake, hdrop⟩ := hcontent.span after
    rw [written, List.cons_append, List.cons_append, List.append_assoc, List.singleton_append,
      takeMarker?, htake, hdrop]
    rfl

/-- No marker is taken where none begins. -/
lemma takeMarker?_eq_none :
    takeMarker? text = none ↔ ∀ content, Proper content → ¬ written content <+: text := by
  rw [Option.eq_none_iff_forall_ne_some]
  constructor
  · rintro h content hcontent ⟨after, rfl⟩
    exact h (content, after) (takeMarker?_eq_some.mpr ⟨hcontent, rfl⟩)
  · rintro h ⟨content, after⟩ hsome
    obtain ⟨hcontent, rfl⟩ := takeMarker?_eq_some.mp hsome
    exact h content hcontent (List.prefix_append _ _)

/-- A text is cut into its pieces. -/
lemma cut_pieces (text : Text) : Cut text (pieces text) := by
  fun_induction pieces text with
  | case1 text content after h _ ih =>
    obtain ⟨hcontent, rfl⟩ := takeMarker?_eq_some.mp h
    exact .marker hcontent ih
  | case2 => exact .nil
  | case3 c rest h ih => exact .literal (takeMarker?_eq_none.mp h) ih

/-- **A text is cut into its pieces and in no other way.** -/
theorem cut_iff : Cut text all ↔ all = pieces text := by
  refine ⟨fun h => ?_, fun h => h ▸ cut_pieces text⟩
  induction h with
  | nil =>
    rw [pieces]
    rfl
  | @marker content rest _ hcontent _ ih =>
    have htake : takeMarker? (written content ++ rest) = some (content, rest) :=
      takeMarker?_eq_some.mpr ⟨hcontent, rfl⟩
    rw [pieces]
    split
    next found after h =>
      obtain ⟨rfl, rfl⟩ : content = found ∧ rest = after := by simpa [htake] using h
      rw [ih]
    next h => simp [htake] at h
  | literal hnone _ ih =>
    rw [pieces, ih]
    split
    next h => simp [takeMarker?_eq_none.mpr hnone] at h
    next => rfl

/-! ## Rendering -/

/-- Every marker names a type. -/
def NamesTypes (all : List Piece) : Prop :=
  ∀ content, .marker content ∈ all → ∃ n, QualifiedName.parse content = .ok n

/-- There is a first marker that names no type, and that is why. -/
def FirstMisnamed (all : List Piece) (e : NameError) : Prop :=
  ∃ before content after, all = before ++ .marker content :: after ∧ NamesTypes before ∧
    QualifiedName.parse content = .error e

/-- What pieces are rendered to in a scope, and the scope after them. -/
inductive Rendered : Scope → List Piece → Text → Scope → Prop
  /-- There is nothing to render. -/
  | nil (s : Scope) : Rendered s [] [] s
  /-- A character stands for itself. -/
  | literal {s t : Scope} {all : List Piece} {out : Text} (c : Char)
    (hrest : Rendered s all out t) : Rendered s (.literal c :: all) (c :: out) t
  /-- The text that refers to a type takes the place of the marker that names it. -/
  | marker {s s' t : Scope} {content text : Text} {n : QualifiedName} {all : List Piece}
    {out : Text} (hname : QualifiedName.parse content = .ok n) (hrefer : s.refer n = .ok (text, s'))
    (hrest : Rendered s' all out t) : Rendered s (.marker content :: all) (text ++ out) t

/-- Why the first reference is refused that cannot be made when pieces are rendered in a scope, and
the scope after the references before it. -/
inductive Refused : Scope → List Piece → ScopeError → Scope → Prop
  /-- The first marker cannot be rendered. -/
  | here {s : Scope} {content : Text} {n : QualifiedName} {all : List Piece} {e : ScopeError}
    (hname : QualifiedName.parse content = .ok n) (hrefer : s.refer n = .error e) :
    Refused s (.marker content :: all) e s
  /-- The first marker is rendered. -/
  | marker {s s' t : Scope} {content text : Text} {n : QualifiedName} {all : List Piece}
    {e : ScopeError} (hname : QualifiedName.parse content = .ok n)
    (hrefer : s.refer n = .ok (text, s')) (hrest : Refused s' all e t) :
    Refused s (.marker content :: all) e t
  /-- The first piece is a character. -/
  | literal {s t : Scope} {all : List Piece} {e : ScopeError} (c : Char)
    (hrest : Refused s all e t) : Refused s (.literal c :: all) e t

/-- What every marker does every marker of the rest does. -/
lemma NamesTypes.of_cons {piece : Piece} (h : NamesTypes (piece :: all)) : NamesTypes all :=
  fun content hm => h content (List.mem_cons_of_mem piece hm)

/-- Every marker names a type, or there is a first one that does not. -/
lemma namesTypes_or_firstMisnamed (all : List Piece) :
    NamesTypes all ∨ ∃ e, FirstMisnamed all e := by
  induction all with
  | nil => exact .inl fun _ hm => absurd hm List.not_mem_nil
  | cons piece rest ih =>
    have hbefore {before : List Piece} (hfirst : NamesTypes [piece]) (h : NamesTypes before) :
        NamesTypes (piece :: before) := fun content hm => by
      rcases List.mem_cons.mp hm with rfl | hm
      · exact hfirst content (List.mem_singleton_self _)
      · exact h content hm
    have hpiece : NamesTypes [piece] ∨
        ∃ content e, piece = .marker content ∧ QualifiedName.parse content = .error e := by
      cases piece with
      | literal c => exact .inl fun content hm => by simp at hm
      | marker content =>
        cases hparse : QualifiedName.parse content with
        | ok n =>
          refine .inl fun other hm => ?_
          obtain rfl : other = content := by simpa using hm
          exact ⟨n, hparse⟩
        | error e => exact .inr ⟨content, e, rfl, hparse⟩
    rcases hpiece with hfirst | ⟨content, e, rfl, hparse⟩
    · rcases ih with hrest | ⟨e, before, content, after, rfl, hall, hparse⟩
      · exact .inl (hbefore hfirst hrest)
      · exact .inr ⟨e, piece :: before, content, after, rfl, hbefore hfirst hall, hparse⟩
    · exact .inr ⟨e, [], content, rest, rfl, fun _ hm => absurd hm List.not_mem_nil, hparse⟩

/-- The types of a marker and of the pieces after it are read one after the other. -/
lemma names_marker_eq_ok {named : List QualifiedName} :
    names (.marker content :: all) = .ok named ↔
      ∃ n more, QualifiedName.parse content = .ok n ∧ names all = .ok more ∧ n :: more = named := by
  rw [names]
  cases QualifiedName.parse content with
  | error e => simp [bind, Except.bind]
  | ok n => cases names all <;> simp [bind, Except.bind, pure, Except.pure]

/-- The types are read that the markers name. -/
lemma exists_names (h : NamesTypes all) : ∃ named, names all = .ok named := by
  induction all with
  | nil => exact ⟨[], rfl⟩
  | cons piece rest ih =>
    obtain ⟨named, hnamed⟩ := ih h.of_cons
    cases piece with
    | literal c => exact ⟨named, hnamed⟩
    | marker content =>
      obtain ⟨n, hn⟩ := h content List.mem_cons_self
      exact ⟨n :: named, names_marker_eq_ok.mpr ⟨n, named, hn, hnamed, rfl⟩⟩

/-- The first marker that names no type is what reading the types fails for. -/
lemma FirstMisnamed.names_eq {e : NameError} (h : FirstMisnamed all e) : names all = .error e := by
  obtain ⟨before, content, after, rfl, hall, hparse⟩ := h
  induction before with
  | nil =>
    rw [List.nil_append, names, hparse]
    rfl
  | cons piece before ih =>
    rw [List.cons_append]
    cases piece with
    | literal c => exact ih hall.of_cons
    | marker other =>
      obtain ⟨n, hn⟩ := hall other List.mem_cons_self
      rw [names, hn, ih hall.of_cons]
      rfl

/-- A marker takes a slot of the template, and a character is escaped. -/
lemma pieceTemplate_literal (c : Char) : pieceTemplate (.literal c) = Template.escaped c := rfl

lemma pieceTemplate_marker (content : Text) :
    pieceTemplate (.marker content) = Template.slot := rfl

/-- **Filling the template gives the rendered text**, with the values that refer to the types.

**Proof sketch.** Induction on the rendering: a character adds itself to what the template of the
rest is filled to (`Template.fill_escaped`), and a marker adds the text that refers to its type
(`Template.fill_slot`). -/
lemma Rendered.fill {out : Text} (h : Rendered s all out t) :
    ∃ named values, names all = .ok named ∧ s.referAll named = (.ok values, t) ∧
      ∀ position, Template.fillSegments
        (Template.segmentsFrom position (all.flatMap pieceTemplate)) values =
          .ok (.ofText out) := by
  induction h with
  | nil s =>
    refine ⟨[], [], rfl, rfl, fun position => ?_⟩
    rw [List.flatMap_nil, Template.segmentsFrom, Template.fillSegments, RawText.ofText_nil]
  | literal c _ ih =>
    obtain ⟨named, values, hnamed, hvalues, hfill⟩ := ih
    refine ⟨named, values, hnamed, hvalues, fun position => ?_⟩
    rw [List.flatMap_cons, pieceTemplate_literal, Template.fill_escaped, hfill]
    rfl
  | @marker s s' t content text n rest out hname hrefer _ ih =>
    obtain ⟨named, values, hnamed, hvalues, hfill⟩ := ih
    refine ⟨n :: named, .text (.ofText text) :: values,
      names_marker_eq_ok.mpr ⟨n, named, hname, hnamed, rfl⟩, ?_, fun position => ?_⟩
    · rw [Scope.referAll, Scope.referValue, hrefer]
      dsimp only
      rw [hvalues]
      rfl
    · rw [List.flatMap_cons, pieceTemplate_marker, Template.fill_slot, hfill, RawText.ofText_append]
      rfl

/-- The reference that is refused is what referring to all the types fails for. -/
lemma Refused.referAll {e : ScopeError} {named : List QualifiedName} (h : Refused s all e t)
    (hnamed : names all = .ok named) : s.referAll named = (.error (.scope e), t) := by
  induction h generalizing named with
  | here hname hrefer =>
    obtain ⟨n, more, hn, -, rfl⟩ := names_marker_eq_ok.mp hnamed
    obtain rfl := Except.ok.inj (hname.symm.trans hn)
    rw [Scope.referAll, Scope.referValue, hrefer]
  | marker hname hrefer _ ih =>
    obtain ⟨n, more, hn, hmore, rfl⟩ := names_marker_eq_ok.mp hnamed
    obtain rfl := Except.ok.inj (hname.symm.trans hn)
    rw [Scope.referAll, Scope.referValue, hrefer]
    dsimp only
    rw [ih hmore]
    rfl
  | literal c _ ih => exact ih hnamed

/-- Pieces whose markers name types are rendered, or a reference is refused. -/
lemma rendered_or_refused (s : Scope) (h : NamesTypes all) :
    (∃ out t, Rendered s all out t) ∨ ∃ e t, Refused s all e t := by
  induction all generalizing s with
  | nil => exact .inl ⟨[], s, .nil s⟩
  | cons piece rest ih =>
    cases piece with
    | literal c =>
      rcases ih s h.of_cons with ⟨out, t, hrest⟩ | ⟨e, t, hrest⟩
      · exact .inl ⟨c :: out, t, .literal c hrest⟩
      · exact .inr ⟨e, t, .literal c hrest⟩
    | marker content =>
      obtain ⟨n, hn⟩ := h content List.mem_cons_self
      cases hrefer : s.refer n with
      | error e => exact .inr ⟨e, s, .here hn hrefer⟩
      | ok r =>
        rcases ih r.2 h.of_cons with ⟨out, t, hrest⟩ | ⟨e, t, hrest⟩
        · exact .inl ⟨r.1 ++ out, t, .marker hn hrefer hrest⟩
        · exact .inr ⟨e, t, .marker hn hrefer hrest⟩

section Desk

variable (d : Desk) {out : Text}

/-- What the pieces of a text are rendered to is appended. -/
lemma Rendered.render (h : Rendered d.scope (pieces text) out t) :
    d.render text = ⟨⟨d.text ++ .ofText out, t⟩, none⟩ := by
  obtain ⟨named, values, hnamed, hvalues, hfill⟩ := h.fill
  rw [Desk.render, compile, hnamed]
  dsimp only [Except.map]
  have htemplate :
      Template.fill ((pieces text).flatMap pieceTemplate) values = .ok (.ofText out) := hfill 0
  rw [hvalues, Desk.append]
  dsimp only
  rw [htemplate]
  rfl

/-- If a reference is refused, nothing is appended. -/
lemma Refused.render {e : ScopeError} (hnames : NamesTypes (pieces text))
    (h : Refused d.scope (pieces text) e t) : d.render text = ⟨⟨d.text, t⟩, some (.scope e)⟩ := by
  obtain ⟨named, hnamed⟩ := exists_names hnames
  rw [Desk.render, compile, hnamed]
  dsimp only [Except.map]
  rw [h.referAll hnamed]
  rfl

/-- If a marker names no type, nothing is done. -/
lemma FirstMisnamed.render {e : NameError} (h : FirstMisnamed (pieces text) e) :
    d.render text = ⟨d, some (.name e)⟩ := by
  rw [Desk.render, compile, h.names_eq]
  rfl

end Desk

/-- **Rendering is the exact substitution of markers.** A text is cut in one way. If a marker names
no type, rendering the text on a draft fails for the first such marker, and neither the draft nor
the scope changes. If all of them name types, then either each can be referred to in turn, and the
text with the references in the place of the markers is appended, or rendering fails for the first
that cannot be, and the draft does not change. It never fails for the template.

**Proof sketch.** The pieces are those of `pieces` (`cut_iff`). The types that the markers name are
read first, then referred to, and then the template is filled, which cannot fail
(`Rendered.fill`). -/
theorem render_substitutes (d : Desk) (text : Text) :
    ∃ all, (∀ others, Cut text others ↔ others = all) ∧
      ((∃ content, .marker content ∈ all ∧ ∀ n, QualifiedName.parse content ≠ .ok n) →
        ∃ e, FirstMisnamed all e ∧ d.render text = ⟨d, some (.name e)⟩) ∧
      (NamesTypes all →
        (∀ out t, Rendered d.scope all out t →
          d.render text = ⟨⟨d.text ++ .ofText out, t⟩, none⟩) ∧
        (∀ e t, Refused d.scope all e t → d.render text = ⟨⟨d.text, t⟩, some (.scope e)⟩) ∧
        ((∃ out t, Rendered d.scope all out t) ∨ ∃ e t, Refused d.scope all e t)) ∧
      ∀ template e, (d.render text).error ≠ some (.template template e) := by
  refine ⟨pieces text, fun _ => cut_iff, ?_, fun hnames => ⟨fun _ _ h => h.render d,
    fun _ _ h => h.render d hnames, rendered_or_refused d.scope hnames⟩, ?_⟩
  · rintro ⟨content, hm, hnone⟩
    rcases namesTypes_or_firstMisnamed (pieces text) with hnames | ⟨e, hfirst⟩
    · obtain ⟨n, hn⟩ := hnames content hm
      exact absurd hn (hnone n)
    · exact ⟨e, hfirst, hfirst.render d⟩
  · intro template e
    rcases namesTypes_or_firstMisnamed (pieces text) with hnames | ⟨e, hfirst⟩
    · rcases rendered_or_refused d.scope hnames with ⟨out, t, h⟩ | ⟨e, t, h⟩
      · simp [h.render d]
      · simp [h.render d hnames]
    · simp [hfirst.render d]

/-- A type of a package. -/
def moth : QualifiedName where
  package := [['x']]
  simpleNames := [Text.lit "Moth"]
  simpleNames_ne_nil := by decide
  segments_ne_nil := by decide

/-- A draft with an empty scope. -/
def blankDesk : Desk := ⟨.ofText (Text.lit "a"), Scope.new []⟩

/-- Percent signs stay as they are beside a marker, and so does a marker without an end; a marker
that names no type is refused. -/
theorem render_substitutes_moth :
    blankDesk.render (Text.lit "%$[x.Moth]%s$[") =
        ⟨⟨.ofText (Text.lit "a%Moth%s$["), (Scope.new []).bind moth.claim⟩, none⟩ ∧
      ∃ e, blankDesk.render (Text.lit "$[x]") = ⟨blankDesk, some (.name e)⟩ := by
  constructor
  · obtain ⟨all, hcut, -, hall, -⟩ := render_substitutes blankDesk (Text.lit "%$[x.Moth]%s$[")
    have hpieces : pieces (Text.lit "%$[x.Moth]%s$[") =
        [.literal '%', .marker (Text.lit "x.Moth"), .literal '%', .literal 's', .literal '$',
          .literal '['] := by cbv
    obtain rfl := (hcut _).mp (hpieces ▸ cut_pieces (Text.lit "%$[x.Moth]%s$["))
    have hmoth : QualifiedName.parse (Text.lit "x.Moth") = .ok moth := by rfl
    have hrefer : blankDesk.scope.refer moth =
        .ok (Text.lit "Moth", (Scope.new []).bind moth.claim) := by rfl
    have hnames : NamesTypes [.literal '%', .marker (Text.lit "x.Moth"), .literal '%',
        .literal 's', .literal '$', .literal '['] := fun content hm => by
      obtain rfl : content = Text.lit "x.Moth" := by simpa using hm
      exact ⟨moth, hmoth⟩
    exact (hall hnames).1 _ _ (.literal '%' (.marker hmoth hrefer
      (.literal '%' (.literal 's' (.literal '$' (.literal '[' (.nil _)))))))
  · obtain ⟨all, hcut, hmisnamed, -⟩ := render_substitutes blankDesk (Text.lit "$[x]")
    have hpieces : pieces (Text.lit "$[x]") = [.marker ['x']] := by cbv
    obtain rfl := (hcut _).mp (hpieces ▸ cut_pieces (Text.lit "$[x]"))
    have hnone : QualifiedName.parse ['x'] = .error (.noTypeName ['x']) := by rfl
    obtain ⟨e, -, hrender⟩ := hmisnamed ⟨['x'], List.mem_cons_self, fun n hn => by
      simp [hnone] at hn⟩
    exact ⟨e, hrender⟩

end UnitForge.Marker
