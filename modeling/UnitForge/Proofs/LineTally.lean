import UnitForge.Proofs.Lexis

set_option autoImplicit false

/-!
# The scan of a line against the automaton

The scan of a line looks ahead for the delimiters of comments and text blocks and jumps over them.
The automaton reads one character at a time; a count of the braces of the code is kept beside it.
Both tell the same about every line: the closing braces before any other code, the change of the
number of open braces, and what is left open for the next line.

## Main definitions

* `UnitForge.Layout.BraceCount` — the braces of the code of a line so far.
* `UnitForge.Layout.Tally` — the automaton and the count beside it.
* `UnitForge.Layout.Tally.across` — the tally after the characters of a line.

## Main results

* `UnitForge.Layout.outcome_scanLine` — the scan of a line tells what the tally tells.
* `UnitForge.Layout.pending_scanLine` — a line leaves open what the automaton leaves open.
* `UnitForge.Layout.outcome_scanLine_append` — blanks at the end of a line change nothing of it.

## Design

The scan and the automaton are compared where the automaton stands in one of four modes: code, a
literal, a block comment, or a text block. In its other modes it waits to see what the last
character began. The scan has looked ahead there, and if nothing was begun, the mode tells as much
as one of the four about all that follows (`Tally.outcome_across_slash` and its companions).
-/

namespace UnitForge.Layout

/-! ## The tally -/

/-- The braces of the code of a line. -/
structure BraceCount where
  /-- The number of closing braces before any other code. -/
  leading : Nat := 0
  /-- The number of opening braces less that of closing ones. -/
  net : Int := 0
  /-- Whether there was code other than leading closing braces. -/
  seenCode : Bool := false
  deriving DecidableEq, Repr

namespace BraceCount

/-- The count after other code than a brace. -/
def withCode (b : BraceCount) : BraceCount := { b with seenCode := true }

/-- The count after a character of code. A slash counts when it turns out that it begins no
comment. -/
def add (b : BraceCount) (c : Char) : BraceCount :=
  if c = '/' then b
  else if c = '{' then { b with net := b.net + 1, seenCode := true }
  else if c = '}' then
    { b with net := b.net - 1, leading := if b.seenCode then b.leading else b.leading + 1 }
  else if Text.isBlank c then b
  else b.withCode

/-- The count after a character that is read in the given mode. -/
def addIn (b : BraceCount) (c : Char) : Mode → BraceCount
  | .code => b.add c
  | .slash => if c = '/' ∨ c = '*' then b else b.withCode.add c
  | .quotes => if c = '"' then b else b.add c
  | _ => b

/-- A blank opens and closes nothing. -/
lemma add_of_isBlank (b : BraceCount) {c : Char} (hc : Text.isBlank c) : b.add c = b := by
  have hopen : c ≠ '{' := Text.ne_of_isBlank hc (by decide)
  have hclose : c ≠ '}' := Text.ne_of_isBlank hc (by decide)
  rw [add, if_neg hopen, if_neg hclose, if_pos hc, ite_self]

end BraceCount

/-- The automaton on a line, and the braces counted so far. -/
structure Tally where
  /-- What the next character stands in. -/
  mode : Mode
  /-- The braces so far. -/
  braces : BraceCount := {}
  deriving DecidableEq, Repr

namespace Tally

/-- The tally after one character. -/
def next (t : Tally) (c : Char) : Tally := ⟨t.mode.next c, t.braces.addIn c t.mode⟩

/-- The tally after the characters of a line. -/
def across (t : Tally) (line : Text) : Tally := line.foldl next t

/-- What the line says so far: its leading closing braces, its change of depth, and what it leaves
open. -/
def outcome (t : Tally) : Nat × Int × Option Text :=
  (t.braces.leading, t.braces.net, t.mode.pending)

@[simp] lemma across_nil (t : Tally) : t.across [] = t := rfl

@[simp] lemma across_cons (t : Tally) (c : Char) (rest : Text) :
    t.across (c :: rest) = (t.next c).across rest := rfl

@[simp] lemma across_append (t : Tally) (front back : Text) :
    t.across (front ++ back) = (t.across front).across back := List.foldl_append

/-- The tally runs beside the automaton. -/
lemma mode_across (t : Tally) (line : Text) :
    (t.across line).mode = line.foldl Mode.next t.mode := by
  induction line generalizing t with
  | nil => rfl
  | cons c rest ih => rw [across_cons, ih, next, List.foldl_cons]

/-- A blank changes nothing of what a line says. -/
lemma outcome_next_of_isBlank (t : Tally) {c : Char} (hc : Text.isBlank c) :
    (t.next c).outcome = t.outcome := by
  obtain ⟨m, b⟩ := t
  have hpending : (m.next c).pending = m.pending := by
    rw [← Mode.pending_endLine, Mode.endLine_next_of_isBlank hc, Mode.pending_endLine]
  have hbraces : (b.addIn c m).leading = b.leading ∧ (b.addIn c m).net = b.net := by
    cases m with
    | code => rw [BraceCount.addIn, b.add_of_isBlank hc]; exact ⟨rfl, rfl⟩
    | slash =>
      rw [BraceCount.addIn, b.withCode.add_of_isBlank hc]
      split <;> exact ⟨rfl, rfl⟩
    | quotes =>
      rw [BraceCount.addIn, b.add_of_isBlank hc, ite_self]
      exact ⟨rfl, rfl⟩
    | _ => exact ⟨rfl, rfl⟩
  rw [outcome, outcome, next, hpending, hbraces.1, hbraces.2]

/-- Blanks change nothing of what a line says. -/
lemma outcome_across_of_allBlank (t : Tally) {blanks : Text} (h : Text.allBlank blanks) :
    (t.across blanks).outcome = t.outcome := by
  induction blanks generalizing t with
  | nil => rfl
  | cons c rest ih =>
    obtain ⟨hc, hrest⟩ := List.forall_mem_cons.1 (Text.allBlank_iff.1 h)
    rw [across_cons, ih (t.next c) (Text.allBlank_iff.2 hrest), outcome_next_of_isBlank t hc]

/-- Once in a line comment, a line says nothing more. -/
lemma across_lineComment (b : BraceCount) (rest : Text) :
    across ⟨.lineComment, b⟩ rest = ⟨.lineComment, b⟩ := by
  induction rest with
  | nil => rfl
  | cons c rest ih => exact ih

/-! ## Modes that wait for the next character -/

section Waiting

variable {b : BraceCount} {rest : Text}

/-- Two tallies that say the same so far say the same of the rest of a line, if they do after its
next character. -/
lemma outcome_across_congr {t u : Tally} (h : t.outcome = u.outcome)
    (hnext : ∀ c ∈ rest.head?, ((t.next c).across rest.tail).outcome =
      ((u.next c).across rest.tail).outcome) :
    (t.across rest).outcome = (u.across rest).outcome := by
  cases rest with
  | nil => exact h
  | cons c rest => exact hnext c rfl

/-- Two tallies that say the same so far say the same of the rest of a line, if its next character
makes them equal. -/
lemma outcome_across_of_next_eq {t u : Tally} (h : t.outcome = u.outcome)
    (hnext : ∀ c ∈ rest.head?, t.next c = u.next c) :
    (t.across rest).outcome = (u.across rest).outcome :=
  outcome_across_congr h fun c hc => by rw [hnext c hc]

/-- A slash that begins no comment is code. -/
lemma outcome_across_slash (h : ∀ c ∈ rest.head?, c ≠ '/' ∧ c ≠ '*') :
    (across ⟨.slash, b⟩ rest).outcome = (across ⟨.code, b.withCode⟩ rest).outcome := by
  refine outcome_across_of_next_eq rfl fun c hc => ?_
  obtain ⟨hslash, hstar⟩ := h c hc
  simp only [next, Mode.next, BraceCount.addIn, hslash, hstar, or_self, if_false]

/-- Two quotes that begin no text block are an empty literal. -/
lemma outcome_across_quotes (h : ∀ c ∈ rest.head?, c ≠ '"') :
    (across ⟨.quotes, b⟩ rest).outcome = (across ⟨.code, b⟩ rest).outcome := by
  refine outcome_across_of_next_eq rfl fun c hc => ?_
  simp only [next, Mode.next, BraceCount.addIn, h c hc, if_false]

/-- A star that ends no block comment is part of it. -/
lemma outcome_across_star (h : ∀ c ∈ rest.head?, c ≠ '/') :
    (across ⟨.star, b⟩ rest).outcome = (across ⟨.blockComment, b⟩ rest).outcome := by
  refine outcome_across_of_next_eq rfl fun c hc => ?_
  simp only [next, Mode.next, BraceCount.addIn, h c hc, if_false]

/-- A second quote that ends no text block says as much as a first one. -/
lemma outcome_across_textQuotes (h : ∀ c ∈ rest.head?, c ≠ '"') :
    (across ⟨.textQuotes, b⟩ rest).outcome = (across ⟨.textQuote, b⟩ rest).outcome := by
  refine outcome_across_of_next_eq rfl fun c hc => ?_
  simp only [next, Mode.next, BraceCount.addIn, h c hc, if_false]

/-- If no two quotes come next, then after a quote there is no other one. -/
private lemma ne_quote_of_tail (h : ∀ more, rest ≠ '"' :: '"' :: more)
    (hquote : '"' ∈ rest.head?) : ∀ c ∈ rest.tail.head?, c ≠ '"' := by
  rintro c hc rfl
  obtain ⟨others, rfl⟩ := List.head?_eq_some_iff.1 hquote
  obtain ⟨more, hmore⟩ := List.head?_eq_some_iff.1 hc
  exact h more (congrArg ('"' :: ·) hmore)

/-- A quote that begins no text block begins a literal. -/
lemma outcome_across_quote (h : ∀ more, rest ≠ '"' :: '"' :: more) :
    (across ⟨.quote, b⟩ rest).outcome = (across ⟨.literal '"', b⟩ rest).outcome := by
  refine outcome_across_congr rfl fun c hc => ?_
  by_cases hquote : c = '"'
  · subst hquote
    exact outcome_across_quotes (ne_quote_of_tail h hc)
  · have hnext : next ⟨.quote, b⟩ c = next ⟨.literal '"', b⟩ c := by
      simp only [next, Mode.next, BraceCount.addIn, hquote, if_false]
    rw [hnext]

/-- A quote that ends no text block is part of it. -/
lemma outcome_across_textQuote (h : ∀ more, rest ≠ '"' :: '"' :: more) :
    (across ⟨.textQuote, b⟩ rest).outcome = (across ⟨.textBlock, b⟩ rest).outcome := by
  refine outcome_across_congr rfl fun c hc => ?_
  by_cases hquote : c = '"'
  · subst hquote
    exact outcome_across_textQuotes (ne_quote_of_tail h hc)
  · have hnext : next ⟨.textQuote, b⟩ c = next ⟨.textBlock, b⟩ c := by
      simp only [next, Mode.next, BraceCount.addIn, hquote, if_false]
    rw [hnext]

end Waiting

end Tally

/-! ## The scan where the automaton does not wait -/

/-- What the scan of a line says: its leading closing braces, its change of depth, and what it
leaves open. -/
def LineScan.outcome (s : LineScan) : Nat × Int × Option Text := (s.leading, s.net, s.pending)

/-- The quote that ends the literal that the next character stands in. -/
def Mode.literalQuote : Mode → Option Char
  | literal q => some q
  | _ => none

/-- The modes that do not wait for the next character to tell what the last one began. -/
def Mode.Settled : Mode → Prop
  | code | literal _ | blockComment | textBlock => True
  | _ => False

/-- The scan that stands where a tally stands. -/
def Tally.scan (t : Tally) : LineScan where
  leading := t.braces.leading
  net := t.braces.net
  pending := t.mode.pending
  seenCode := t.braces.seenCode
  quote := t.mode.literalQuote

/-- The scan and the tally say the same of the rest of a line. -/
def Tally.Matches (t : Tally) (rest : Text) : Prop :=
  (t.scan.scanFrom 0 rest).outcome = (t.across rest).outcome

namespace Tally

/-- The mode after a character of code that begins no comment and no text block. -/
def afterCode (c : Char) : Mode := if c = '"' || c = '\'' then .literal c else .code

lemma settled_afterCode (c : Char) : (afterCode c).Settled := by
  unfold afterCode
  split <;> trivial

/-- The count after a character of code that begins no comment. -/
def bracesAfterCode (b : BraceCount) (c : Char) : BraceCount :=
  if c = '/' then b.withCode else b.add c

lemma code_scan (b : BraceCount) (c : Char) :
    (scan ⟨.code, b⟩).code c = scan ⟨afterCode c, bracesAfterCode b c⟩ := by
  unfold LineScan.code afterCode
  split
  next hquote =>
    have hadd : bracesAfterCode b c = b.withCode := by
      rcases by simpa using hquote with rfl | rfl <;> rfl
    rw [hadd]
    rfl
  next hquote =>
    unfold bracesAfterCode BraceCount.add
    by_cases hslash : c = '/'
    · subst hslash
      rfl
    · rw [if_neg hslash, if_neg hslash]
      split
      · rfl
      split
      · rfl
      split <;> rfl

/-- A character of code that begins no comment and no text block leaves the mode that the scan
takes it for, as far as the rest of the line goes. -/
lemma outcome_across_afterCode {b : BraceCount} {c : Char} {rest : Text}
    (hline : ∀ more, c :: rest ≠ '/' :: '/' :: more)
    (hblock : ∀ more, c :: rest ≠ '/' :: '*' :: more)
    (htext : ∀ more, c :: rest ≠ '"' :: '"' :: '"' :: more) :
    ((next ⟨.code, b⟩ c).across rest).outcome =
      (across ⟨afterCode c, bracesAfterCode b c⟩ rest).outcome := by
  by_cases hslash : c = '/'
  · subst hslash
    refine outcome_across_slash fun d hd => ?_
    obtain ⟨more, rfl⟩ := List.head?_eq_some_iff.1 hd
    constructor
    · rintro rfl
      exact hline more rfl
    · rintro rfl
      exact hblock more rfl
  have hbraces : bracesAfterCode b c = b.add c := if_neg hslash
  by_cases hquote : c = '"'
  · subst hquote
    refine outcome_across_quote fun more => ?_
    rintro rfl
    exact htext more rfl
  · have hnext : next ⟨.code, b⟩ c = ⟨afterCode c, bracesAfterCode b c⟩ := by
      rw [next, Mode.next, Mode.inCode, if_neg hslash, if_neg hquote, hbraces, afterCode]
      simp [hquote, BraceCount.addIn]
    rw [hnext]

section Steps

variable {b : BraceCount} {c : Char} {rest : Text}
  (ih : ∀ (t : Tally) (text : Text), t.mode.Settled → text.length ≤ rest.length → t.Matches text)

include ih

lemma matches_literal (q : Char) : Matches ⟨.literal q, b⟩ (c :: rest) := by
  have hscan : (scan ⟨.literal q, b⟩).scanFrom 0 (c :: rest) =
      if c = '\\' then (scan ⟨.literal q, b⟩).scanFrom 1 rest
      else (scan ⟨if c = q then .code else .literal q, b⟩).scanFrom 0 rest := by
    rw [LineScan.scanFrom]
    by_cases hq : c = q <;> simp [LineScan.terminator, scan, Mode.pending, Mode.literalQuote, hq]
  unfold Matches
  rw [hscan]
  split
  next hc =>
    subst hc
    cases rest with
    | nil => rfl
    | cons d rest => exact ih ⟨.literal q, b⟩ rest trivial (Nat.le_succ _)
  next hc =>
    have hnext : next ⟨.literal q, b⟩ c = ⟨if c = q then .code else .literal q, b⟩ := by
      rw [next, Mode.next, Mode.inLiteral, if_neg hc]
      rfl
    rw [across_cons, hnext]
    refine ih _ rest ?_ le_rfl
    show Mode.Settled (if c = q then .code else .literal q)
    split <;> trivial

lemma matches_blockComment : Matches ⟨.blockComment, b⟩ (c :: rest) := by
  have hscan : (scan ⟨.blockComment, b⟩).scanFrom 0 (c :: rest) =
      if Text.startsWith (c :: rest) blockCommentEnd then
        (scan ⟨.code, b⟩).scanFrom 1 rest
      else (scan ⟨.blockComment, b⟩).scanFrom 0 rest := by
    rw [LineScan.scanFrom]
    rfl
  unfold Matches
  rw [hscan]
  split
  next hend =>
    obtain ⟨more, hmore⟩ : ['*', '/'] <+: c :: rest := List.isPrefixOf_iff_prefix.1 hend
    obtain ⟨rfl, rfl⟩ := List.cons.inj hmore
    exact ih ⟨.code, b⟩ more trivial (Nat.le_succ _)
  next hend =>
    rw [ih ⟨.blockComment, b⟩ rest trivial le_rfl, across_cons, next, Mode.next,
      Mode.inBlockComment]
    split
    next hstar =>
      subst hstar
      refine (outcome_across_star fun d hd => ?_).symm
      rintro rfl
      obtain ⟨more, rfl⟩ := List.head?_eq_some_iff.1 hd
      exact hend rfl
    next => rfl

lemma matches_textBlock : Matches ⟨.textBlock, b⟩ (c :: rest) := by
  have hscan : (scan ⟨.textBlock, b⟩).scanFrom 0 (c :: rest) =
      if c = '\\' then (scan ⟨.textBlock, b⟩).scanFrom 1 rest
      else if Text.startsWith (c :: rest) textBlockQuote then
        (scan ⟨.code, b⟩).scanFrom 2 rest
      else (scan ⟨.textBlock, b⟩).scanFrom 0 rest := by
    have hopen : (scan ⟨.textBlock, b⟩).terminator = some textBlockQuote := rfl
    rw [LineScan.scanFrom, hopen]
    simp only [decide_true, Bool.true_and, decide_eq_true_eq]
    rfl
  unfold Matches
  rw [hscan]
  split
  next hc =>
    subst hc
    cases rest with
    | nil => rfl
    | cons d rest => exact ih ⟨.textBlock, b⟩ rest trivial (Nat.le_succ _)
  next hc =>
    split
    next hend =>
      obtain ⟨more, hmore⟩ : ['"', '"', '"'] <+: c :: rest := List.isPrefixOf_iff_prefix.1 hend
      obtain ⟨rfl, rfl⟩ := List.cons.inj hmore
      exact ih ⟨.code, b⟩ more trivial (Nat.le_add_right _ 2)
    next hend =>
      rw [ih ⟨.textBlock, b⟩ rest trivial le_rfl, across_cons, next, Mode.next, Mode.inTextBlock,
        if_neg hc]
      split
      next hquote =>
        subst hquote
        refine (outcome_across_textQuote fun more => ?_).symm
        rintro rfl
        exact hend rfl
      next => rfl

lemma matches_code : Matches ⟨.code, b⟩ (c :: rest) := by
  have hscan : (scan ⟨.code, b⟩).scanFrom 0 (c :: rest) =
      if Text.startsWith (c :: rest) (Text.lit "//") then scan ⟨.code, b⟩
      else if Text.startsWith (c :: rest) (Text.lit "/*") then
        (scan ⟨.blockComment, b⟩).scanFrom 1 rest
      else if Text.startsWith (c :: rest) textBlockQuote then
        (scan ⟨.textBlock, b.withCode⟩).scanFrom 2 rest
      else (scan ⟨.code, b⟩).code c |>.scanFrom 0 rest := by
    rw [LineScan.scanFrom]
    rfl
  unfold Matches
  rw [hscan]
  split
  next hline =>
    obtain ⟨more, hmore⟩ : ['/', '/'] <+: c :: rest := List.isPrefixOf_iff_prefix.1 hline
    obtain ⟨rfl, rfl⟩ := List.cons.inj hmore
    have hcomment : (across ⟨.lineComment, b⟩ more).outcome = outcome ⟨.lineComment, b⟩ := by
      rw [across_lineComment]
    exact hcomment.symm
  next hline =>
  split
  next hblock =>
    obtain ⟨more, hmore⟩ : ['/', '*'] <+: c :: rest := List.isPrefixOf_iff_prefix.1 hblock
    obtain ⟨rfl, rfl⟩ := List.cons.inj hmore
    exact ih ⟨.blockComment, b⟩ more trivial (Nat.le_succ _)
  next hblock =>
  split
  next htext =>
    obtain ⟨more, hmore⟩ : ['"', '"', '"'] <+: c :: rest := List.isPrefixOf_iff_prefix.1 htext
    obtain ⟨rfl, rfl⟩ := List.cons.inj hmore
    exact ih ⟨.textBlock, b.withCode⟩ more trivial (Nat.le_add_right _ 2)
  next htext =>
    rw [code_scan, ih _ rest (settled_afterCode c) le_rfl, across_cons]
    refine (outcome_across_afterCode (fun more => ?_) (fun more => ?_) (fun more => ?_)).symm
    · rintro h
      exact hline (h ▸ rfl)
    · rintro h
      exact hblock (h ▸ rfl)
    · rintro h
      exact htext (h ▸ rfl)

end Steps

/-- **The scan and the tally say the same of the rest of a line**, wherever the automaton does not
wait for the next character.

**Proof sketch.** Strong induction on the length of the rest, as the scan jumps over delimiters and
escaped characters: each of the four lemmas above goes from one settled mode to the next one. -/
lemma matches_of_settled (t : Tally) (rest : Text) (h : t.mode.Settled) : t.Matches rest := by
  induction hlength : rest.length using Nat.strong_induction_on generalizing t rest with
  | _ n ih =>
    obtain ⟨m, b⟩ := t
    cases rest with
    | nil => rfl
    | cons c rest =>
      have ih (t : Tally) (text : Text) (ht : t.mode.Settled) (hle : text.length ≤ rest.length) :
          t.Matches text := by
        refine ih text.length ?_ t text ht rfl
        rw [← hlength, List.length_cons]
        omega
      cases m with
      | code => exact matches_code ih
      | literal q => exact matches_literal ih q
      | blockComment => exact matches_blockComment ih
      | textBlock => exact matches_textBlock ih
      | _ => exact h.elim

end Tally

/-! ## The scan of a line -/

variable {m : Mode} {line : Text}

/-- **The scan of a line tells what the tally tells**, where the line starts in the given mode. -/
theorem outcome_scanLine (hm : m.endLine = m) :
    (scanLine line m.pending).outcome = (Tally.across ⟨m, {}⟩ line).outcome := by
  cases m with
  | code => exact Tally.matches_of_settled ⟨.code, {}⟩ line trivial
  | blockComment => exact Tally.matches_of_settled ⟨.blockComment, {}⟩ line trivial
  | textBlock => exact Tally.matches_of_settled ⟨.textBlock, {}⟩ line trivial
  | _ => exact Mode.noConfusion hm

/-- **A line leaves open what the automaton leaves open.** -/
theorem pending_scanLine (hm : m.endLine = m) :
    (scanLine line m.pending).pending = (line.foldl Mode.next m).pending := by
  have h : (scanLine line m.pending).outcome = (Tally.across ⟨m, {}⟩ line).outcome :=
    outcome_scanLine hm
  rw [← Tally.mode_across ⟨m, {}⟩ line]
  exact congrArg (·.2.2) h

/-- **Blanks at the end of a line change nothing** of what its scan tells. -/
theorem outcome_scanLine_append {blanks : Text} (hm : m.endLine = m) (h : Text.allBlank blanks) :
    (scanLine (line ++ blanks) m.pending).outcome = (scanLine line m.pending).outcome := by
  rw [outcome_scanLine hm, outcome_scanLine hm, Tally.across_append,
    Tally.outcome_across_of_allBlank _ h]

end UnitForge.Layout
