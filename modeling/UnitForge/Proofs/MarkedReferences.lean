import UnitForge.Proofs.MarkedText

set_option autoImplicit false

/-!
# The types that a marked text refers to

The types that a text refers to can be told without rendering it. Both ways read the same markers,
but on their own: the types are listed without repetitions, and rendering asks the scope for a type
at every marker. They refuse the same texts for the same reason, and what is listed is what is asked
for. So all that rendering can add to the imports is known beforehand.

## Main results

* `UnitForge.Marker.distinct_eq_eraseDups` — later repetitions are dropped from a list of types.
* `UnitForge.Marker.references_eq_error_iff`, `UnitForge.Marker.render_error_iff` — when a text
  refers to no types, and when it cannot be rendered.
* `UnitForge.Scope.bindings_askedFor` — what references add to the bindings of a scope.
* `UnitForge.Marker.references_agree` — the types told and the types asked for.
-/

namespace UnitForge

/-! ## What references add to a scope -/

namespace Scope

variable (s : Scope)

/-- A reference adds at most the binding that its type claims. -/
lemma bindings_step_refer (n : QualifiedName) :
    (s.step (.refer n)).bindings = s.bindings ∨
      (s.step (.refer n)).bindings = s.bindings ++ [n.claim] := by
  have h := s.change_step (.refer n)
  generalize s.step (.refer n) = t at h ⊢
  cases h with
  | kept => exact .inl rfl
  | claimed => exact .inr rfl

/-- **References add the bindings that some of their types claim**, in their order. -/
theorem bindings_askedFor (names : List QualifiedName) :
    ∃ claimed : List QualifiedName, claimed.Sublist names ∧
      (s.askedFor names).bindings = s.bindings ++ claimed.map QualifiedName.claim := by
  induction names generalizing s with
  | nil => exact ⟨[], List.Sublist.slnil, (List.append_nil _).symm⟩
  | cons n names ih =>
    obtain ⟨claimed, hsub, hbindings⟩ := ih (s.step (.refer n))
    have hstep : s.askedFor (n :: names) = (s.step (.refer n)).askedFor names := rfl
    rcases s.bindings_step_refer n with hn | hn
    · exact ⟨claimed, hsub.cons n, by rw [hstep, hbindings, hn]⟩
    · refine ⟨n :: claimed, hsub.cons_cons n, ?_⟩
      rw [hstep, hbindings, hn, List.append_assoc]
      rfl

/-- The imports are the full texts of the explicit bindings. -/
lemma perm_imports :
    s.imports.Perm ((s.bindings.filter (·.kind = .explicit)).map (·.name.toText)) :=
  List.mergeSort_perm _ _

/-- All that references add to the imports are full texts of outermost types that they are to. -/
lemma imports_askedFor (names : List QualifiedName) :
    ∃ added : List Text, (s.askedFor names).imports.Perm (s.imports ++ added) ∧
      ∀ x ∈ added, ∃ n ∈ names, x = n.topLevel.toText := by
  obtain ⟨claimed, hsub, hbindings⟩ := s.bindings_askedFor names
  refine ⟨((claimed.map QualifiedName.claim).filter (·.kind = .explicit)).map (·.name.toText),
    ?_, fun x hx => ?_⟩
  · have h := (s.askedFor names).perm_imports
    rw [hbindings, List.filter_append, List.map_append] at h
    exact h.trans (s.perm_imports.symm.append_right _)
  · obtain ⟨b, hb, rfl⟩ := List.mem_map.mp hx
    obtain ⟨n, hn, rfl⟩ := List.mem_map.mp (List.mem_of_mem_filter hb)
    exact ⟨n, hsub.subset hn, rfl⟩

end Scope

namespace Marker

variable {text : Text} {all : List Piece} {named : List QualifiedName} {e : NameError}

/-! ## The types listed -/

/-- **Later repetitions are dropped from a list of types**, and nothing else is. -/
theorem distinct_eq_eraseDups (names : List QualifiedName) : distinct names = names.eraseDups := by
  -- what follows the types seen so far is the rest without them and without its own repetitions
  have hseen : ∀ names seen : List QualifiedName,
      names.foldl (fun seen n => if n ∈ seen then seen else seen ++ [n]) seen =
        seen ++ (names.filter (· ∉ seen)).eraseDups := by
    intro names
    induction names with
    | nil => simp
    | cons n names ih =>
      intro seen
      rw [List.foldl_cons, ih]
      by_cases hn : n ∈ seen
      · rw [if_pos hn, List.filter_cons_of_neg (by simpa using hn)]
      · rw [if_neg hn, List.filter_cons_of_pos (by simpa using hn), List.eraseDups_cons,
          List.filter_filter, List.append_assoc, List.singleton_append]
        congr 3
        exact List.filter_congr fun x _ => by
          simp [and_comm, Bool.beq_eq_decide_eq]
  rw [distinct, hseen]
  simp

/-- Reading the types that markers name fails exactly for the first marker that names none. -/
lemma names_eq_error_iff : names all = .error e ↔ FirstMisnamed all e := by
  refine ⟨fun h => ?_, FirstMisnamed.names_eq⟩
  rcases namesTypes_or_firstMisnamed all with hnames | ⟨e', hfirst⟩
  · obtain ⟨named, hnamed⟩ := exists_names hnames
    simp [h] at hnamed
  · obtain rfl := Except.error.inj (h.symm.trans hfirst.names_eq)
    exact hfirst

/-- **A text refers to no types exactly if a marker in it names none.** -/
theorem references_eq_error_iff : references text = .error e ↔ FirstMisnamed (pieces text) e := by
  rw [← names_eq_error_iff, references]
  cases names (pieces text) <;> simp [Except.map]

/-- The types that a text refers to are those that its markers name, without repetitions. -/
lemma references_eq_ok_iff {found : List QualifiedName} :
    references text = .ok found ↔
      ∃ named, names (pieces text) = .ok named ∧ found = named.eraseDups := by
  rw [references]
  cases names (pieces text) with
  | error e => simp [Except.map]
  | ok named => simp [Except.map, distinct_eq_eraseDups, eq_comm]

/-- The types that a step with the text names are those that its markers name. -/
lemma named_eq (h : names (pieces text) = .ok named) : Marker.named text = named := by
  rw [Marker.named, compile, h]
  rfl

/-! ## The types asked for -/

/-- If all markers name types, rendering goes well or fails at a reference; if not, nothing is done.
-/
lemma render_ends (d : Desk) (text : Text) :
    (NamesTypes (pieces text) ∧
      ∀ failure, (d.render text).error = some failure → ∃ e, failure = .scope e) ∨
    ∃ e, FirstMisnamed (pieces text) e ∧ d.render text = ⟨d, some (.name e)⟩ := by
  rcases namesTypes_or_firstMisnamed (pieces text) with hnames | ⟨e, hfirst⟩
  · refine .inl ⟨hnames, fun failure h => ?_⟩
    rcases rendered_or_refused d.scope hnames with ⟨out, t, hrendered⟩ | ⟨e, t, hrefused⟩
    · simp [hrendered.render d] at h
    · rw [hrefused.render d hnames] at h
      exact ⟨e, (Option.some.inj h).symm⟩
  · exact .inr ⟨e, hfirst, hfirst.render d⟩

/-- **A text cannot be rendered for want of a name exactly if a marker in it names no type.** -/
theorem render_error_iff (d : Desk) :
    (d.render text).error = some (.name e) ↔ FirstMisnamed (pieces text) e := by
  refine ⟨fun h => ?_, fun h => by rw [h.render d]⟩
  rcases render_ends d text with ⟨-, hrefused⟩ | ⟨e', hfirst, hrender⟩
  · obtain ⟨e', he'⟩ := hrefused _ h
    exact nomatch he'
  · rw [hrender] at h
    obtain rfl : e' = e := by simpa using h
    exact hfirst

/-- Rendering leaves the scope as it is after being asked for the first types that the markers name,
and for all of them if it goes well. -/
lemma scope_render (d : Desk) (text : Text) :
    (d.render text).desk.scope = d.scope.askedFor (d.scope.asks (Marker.named text)) ∧
      AskedOf (Marker.named text) (d.scope.asks (Marker.named text))
        ((d.render text).error = none) := by
  -- a text with markers reads no text of a draft
  let around : Surroundings := { texts := fun _ _ => [] }
  have hscope := Step.scope_run around d (.render text)
  have hasked := Step.asks_named around d (.render text)
  rw [Step.run] at hscope hasked
  exact ⟨hscope, hasked⟩

/-- A text whose types can be told is not refused for want of a name, but at most by the scope. -/
lemma isBadValue_render {d : Desk} {failure : DraftError}
    (h : (d.render text).error = some failure) :
    (Failure.ofDraft failure).isBadValue = true ↔ ∃ e, failure = .name e := by
  refine ⟨fun hbad => ?_, ?_⟩
  · rcases render_ends d text with ⟨-, hrefused⟩ | ⟨e, -, hrender⟩
    · obtain ⟨e, rfl⟩ := hrefused failure h
      exact absurd hbad Bool.false_ne_true
    · rw [hrender] at h
      exact ⟨e, (Option.some.inj h).symm⟩
  · rintro ⟨e, rfl⟩
    rfl

/-- **The types told are the types asked for.** The types that a text refers to cannot be told
because something is no name exactly if the text cannot be rendered for that reason, with the same
wording; nothing is done to the draft and its scope then, and there is no other reason for which
rendering rejects a value. Rendering does nothing to the scope but ask it for types, and if the text
is rendered, these are the types told, apart from later repetitions, in the same order. Whether or
not it is rendered, all that is added to the imports are full texts of outermost types of types
told.

**Proof sketch.** Both fail for the first marker that names no type (`references_eq_error_iff`,
`render_error_iff`). Rendering asks for the first types that the markers name, and for all of them
if it goes well (`scope_render`), and a type that is asked for adds at most a binding of its
outermost type (`Scope.imports_askedFor`). -/
theorem references_agree (d : Desk) (text : Text) :
    (∀ e, references text = .error e ↔ (d.render text).error = some (.name e)) ∧
    (∀ e, references text = .error e → d.render text = ⟨d, some (.name e)⟩) ∧
    (∀ failure, (d.render text).error = some failure →
      ((Failure.ofDraft failure).isBadValue = true ↔
        ∃ e, references text = .error e ∧ (Failure.ofDraft failure).message = e.message)) ∧
    ((d.render text).desk.scope = d.scope.askedFor (d.scope.asks (Marker.named text)) ∧
      ((d.render text).error = none →
        references text = .ok (d.scope.asks (Marker.named text)).eraseDups)) ∧
    ∀ found, references text = .ok found →
      ∃ added : List Text, (d.render text).desk.scope.imports.Perm (d.scope.imports ++ added) ∧
        ∀ x ∈ added, ∃ n ∈ found, x = n.topLevel.toText := by
  obtain ⟨hscope, hasked⟩ := scope_render d text
  refine ⟨fun e => references_eq_error_iff.trans (render_error_iff d).symm,
    fun e h => (references_eq_error_iff.mp h).render d, fun failure h => ?_,
    ⟨hscope, fun hwell => ?_⟩, fun found hfound => ?_⟩
  · rw [isBadValue_render h]
    constructor
    · rintro ⟨e, rfl⟩
      exact ⟨e, references_eq_error_iff.mpr ((render_error_iff d).mp h), rfl⟩
    · rintro ⟨e, he, -⟩
      rw [(references_eq_error_iff.mp he).render d] at h
      exact ⟨e, (Option.some.inj h).symm⟩
  · have hnames : NamesTypes (pieces text) := by
      rcases render_ends d text with ⟨hnames, -⟩ | ⟨e, -, hrender⟩
      · exact hnames
      · simp [hrender] at hwell
    obtain ⟨named, hnamed⟩ := exists_names hnames
    exact references_eq_ok_iff.mpr ⟨named, hnamed, by rw [hasked.all hwell, named_eq hnamed]⟩
  · obtain ⟨named, hnamed, rfl⟩ := references_eq_ok_iff.mp hfound
    rw [named_eq hnamed] at hscope hasked
    obtain ⟨added, hperm, hadded⟩ := d.scope.imports_askedFor (d.scope.asks named)
    rw [hscope]
    refine ⟨added, hperm, fun x hx => ?_⟩
    obtain ⟨n, hn, rfl⟩ := hadded x hx
    exact ⟨n, List.mem_eraseDups.mpr (hasked.first.subset hn), rfl⟩

/-- Two spellings of one type and a namesake that is printed in full. -/
def mothText : Text := Text.lit "$[x.Moth] $[x:Moth] 5% $[y.Moth]"

/-- Two spellings of one type are told once and imported once, and the namesake is told as well. -/
theorem references_agree_moths :
    (blankDesk.render mothText).error = none ∧
      references mothText = .ok (blankDesk.scope.asks (Marker.named mothText)).eraseDups ∧
      (blankDesk.scope.asks (Marker.named mothText)).map (·.toText) =
        [Text.lit "x.Moth", Text.lit "x.Moth", Text.lit "y.Moth"] ∧
      (references mothText).map (·.map (·.toText)) =
        .ok [Text.lit "x.Moth", Text.lit "y.Moth"] ∧
      ∃ e, (blankDesk.render (Text.lit "$[x.Moth]$[x]")).error = some (.name e) := by
  obtain ⟨-, -, -, ⟨-, hwell⟩, -⟩ := references_agree blankDesk mothText
  have hrendered : (blankDesk.render mothText).error = none := by decide +kernel
  obtain ⟨hbad, -⟩ := references_agree blankDesk (Text.lit "$[x.Moth]$[x]")
  have hmisnamed : references (Text.lit "$[x.Moth]$[x]") = .error (.noTypeName ['x']) := by
    decide +kernel
  exact ⟨hrendered, hwell hrendered, by decide +kernel, by decide +kernel,
    ⟨_, (hbad _).mp hmisnamed⟩⟩

end Marker

end UnitForge
