import Mathlib.Data.List.Infix
import UnitForge.Proofs.LineTally
import UnitForge.Proofs.SourceLiterals

set_option autoImplicit false

/-!
# The braces of the code of a source

The braces of code are counted over a whole source, by the automaton that reads it character by
character. What the tally of a line counts is the part of that count that falls on the line.

## Main definitions

* `UnitForge.Layout.netBraces`, `UnitForge.Layout.openBraces` — the braces of code that a reading,
  or a text at the start of a source, opens less those that it closes.
* `UnitForge.Layout.NeverOverclosed` — no beginning of a source closes more than it opens.
* `UnitForge.Layout.closersFirst` — the closing braces of a line before any other code.

## Main results

* `UnitForge.Layout.Tally.net_across`, `UnitForge.Layout.Tally.leading_across` — what the tally of
  a line counts.
* `UnitForge.Layout.Tally.exists_leading_closed` — a line begins with a part that closes its first
  closing braces and opens none.

## Design

The scan of a line is never opened here. What it tells is what the tally of the line tells
(`outcome_scanLine`), and the tally runs beside the automaton, so its counts are compared with the
reading one character at a time.
-/

namespace UnitForge.Layout

variable {m : Mode} {c : Char} {front line : Text}

/-! ## The braces of code -/

/-- What a character changes about the number of open braces, where it is read in a certain mode. -/
def braceChange (c : Char) (m : Mode) : Int :=
  if m.isCode then (if c = '\x7b' then 1 else if c = '\x7d' then -1 else 0) else 0

/-- The braces that are opened in a reading less those that are closed. -/
def netBraces : List (Char × Mode) → Int
  | [] => 0
  | x :: read => braceChange x.1 x.2 + netBraces read

@[simp] lemma netBraces_nil : netBraces [] = 0 := rfl

@[simp] lemma netBraces_cons (x : Char × Mode) (read : List (Char × Mode)) :
    netBraces (x :: read) = braceChange x.1 x.2 + netBraces read := rfl

@[simp] lemma netBraces_append (front back : List (Char × Mode)) :
    netBraces (front ++ back) = netBraces front + netBraces back := by
  induction front with
  | nil => simp
  | cons x front ih => simp [ih, Int.add_assoc]

/-- A character other than a brace changes nothing. -/
lemma braceChange_of_ne (hopen : c ≠ '\x7b') (hclose : c ≠ '\x7d') (m : Mode) :
    braceChange c m = 0 := by
  simp [braceChange, hopen, hclose]

/-- Blanks open and close nothing. -/
lemma netBraces_of_allBlank (ends : Char → Bool) (m : Mode) (h : Text.allBlank front) :
    netBraces (m.reading ends front) = 0 := by
  induction front generalizing m with
  | nil => rfl
  | cons c rest ih =>
    obtain ⟨hc, hrest⟩ := List.forall_mem_cons.1 (Text.allBlank_iff.1 h)
    have hopen : c ≠ '\x7b' := Text.ne_of_isBlank hc (by decide)
    have hclose : c ≠ '\x7d' := Text.ne_of_isBlank hc (by decide)
    rw [Mode.reading_cons, netBraces_cons, braceChange_of_ne hopen hclose,
      ih _ (Text.allBlank_iff.2 hrest), Int.add_zero]

/-- The mode that a source is in after a text. -/
def modeAfter (before : Text) : Mode := Mode.code.after Text.isLineBreak before

/-- The braces of code that a source opens in a text at its start less those that it closes. -/
def openBraces (before : Text) : Int := netBraces (Mode.code.reading Text.isLineBreak before)

lemma openBraces_append (front back : Text) :
    openBraces (front ++ back) =
      openBraces front + netBraces ((modeAfter front).reading Text.isLineBreak back) := by
  rw [openBraces, Mode.reading_append, netBraces_append]
  rfl

/-- No beginning of the source closes more braces of code than it opens. -/
def NeverOverclosed (source : Text) : Prop := ∀ before, before <+: source → 0 ≤ openBraces before

instance (source : Text) : Decidable (NeverOverclosed source) :=
  decidable_of_iff (∀ before ∈ source.inits, 0 ≤ openBraces before) <| by
    simp only [List.mem_inits, NeverOverclosed]

/-! ## The closing braces that come first -/

/-- The closing braces before any other code, where `comment` tells whether a block comment is
open. -/
def closersFrom : (comment : Bool) → Text → Nat
  | false, '/' :: '*' :: rest => closersFrom true rest
  | false, '\x7d' :: rest => closersFrom false rest + 1
  | false, c :: rest => if Text.isBlank c then closersFrom false rest else 0
  | true, '*' :: '/' :: rest => closersFrom false rest
  | true, _ :: rest => closersFrom true rest
  | _, [] => 0

/-- The number of closing braces that stand before any other code on a line. Blanks and comments
are no code. -/
def closersFirst (line : Text) : Nat := closersFrom false line

/-! ## What the tally of a line counts -/

namespace BraceCount

variable (b : BraceCount)

lemma net_addIn (c : Char) (m : Mode) : (b.addIn c m).net = b.net + braceChange c m := by
  have hadd (b : BraceCount) : (b.add c).net = b.net + braceChange c .code := by
    unfold add braceChange
    split
    next hc =>
      subst hc
      simp
    split
    · rfl
    split
    · rfl
    split <;> simp [Mode.isCode, withCode]
  cases m with
  | code => exact hadd b
  | slash =>
    rw [addIn]
    split
    next hc => rcases hc with rfl | rfl <;> simp [braceChange]
    next => exact hadd b.withCode
  | quotes =>
    rw [addIn]
    split
    next hc =>
      subst hc
      simp [braceChange]
    next => exact hadd b
  | _ => simp [addIn, braceChange, Mode.isCode]

/-- Once there was other code, no closing brace is a leading one. -/
lemma addIn_of_seenCode (h : b.seenCode = true) (c : Char) (m : Mode) :
    (b.addIn c m).seenCode = true ∧ (b.addIn c m).leading = b.leading := by
  have hadd (b : BraceCount) (h : b.seenCode = true) :
      (b.add c).seenCode = true ∧ (b.add c).leading = b.leading := by
    unfold add
    split_ifs <;> simp [h, withCode]
  cases m with
  | code => exact hadd b h
  | slash =>
    rw [addIn]
    split
    · exact ⟨h, rfl⟩
    · exact hadd b.withCode rfl
  | quotes =>
    rw [addIn]
    split
    · exact ⟨h, rfl⟩
    · exact hadd b h
  | _ => exact ⟨h, rfl⟩

/-- Before there was other code, a character is other code or, if it closes a brace, a leading
closing brace. -/
lemma addIn_of_not_seenCode (h : b.seenCode = false) (c : Char) (m : Mode) :
    (b.addIn c m).seenCode = true ∧ (b.addIn c m).leading = b.leading ∨
      (b.addIn c m).seenCode = false ∧
        (b.addIn c m).net + (b.addIn c m).leading = b.net + b.leading := by
  have hadd : (b.add c).seenCode = true ∧ (b.add c).leading = b.leading ∨
      (b.add c).seenCode = false ∧ (b.add c).net + (b.add c).leading = b.net + b.leading := by
    unfold add
    split
    · exact .inr ⟨h, rfl⟩
    split
    · exact .inl ⟨rfl, rfl⟩
    split
    · have hleading : (if b.seenCode then b.leading else b.leading + 1) = b.leading + 1 := by
        rw [h, if_neg Bool.false_ne_true]
      refine .inr ⟨h, ?_⟩
      simp only [hleading]
      omega
    split
    · exact .inr ⟨h, rfl⟩
    · exact .inl ⟨rfl, rfl⟩
  cases m with
  | code => exact hadd
  | slash =>
    rw [addIn]
    split
    · exact .inr ⟨h, rfl⟩
    · exact .inl (b.withCode.addIn_of_seenCode rfl c .code)
  | quotes =>
    rw [addIn]
    split
    · exact .inr ⟨h, rfl⟩
    · exact hadd
  | _ => exact .inr ⟨h, rfl⟩

end BraceCount

namespace Tally

/-- Blanks at the start of a line are not counted. -/
lemma across_of_allBlank (hm : m.endLine = m) (h : Text.allBlank front) (b : BraceCount) :
    across ⟨m, b⟩ front = ⟨m, b⟩ := by
  induction front with
  | nil => rfl
  | cons c rest ih =>
    obtain ⟨hc, hrest⟩ := List.forall_mem_cons.1 (Text.allBlank_iff.1 h)
    have hbraces : b.addIn c m = b := by
      cases m with
      | code => exact b.add_of_isBlank hc
      | blockComment | textBlock => rfl
      | _ => exact Mode.noConfusion hm
    rw [across_cons, next, Mode.next_of_isBlank hc hm, hbraces, ih (Text.allBlank_iff.2 hrest)]

/-- **The tally of a line counts the braces of its code.** -/
lemma net_across (t : Tally) (h : Text.Unbroken line) :
    (t.across line).braces.net =
      t.braces.net + netBraces (t.mode.reading Text.isLineBreak line) := by
  induction line generalizing t with
  | nil => exact (Int.add_zero _).symm
  | cons c rest ih =>
    obtain ⟨hc, hrest⟩ := List.forall_mem_cons.1 h
    have hstep : t.mode.step Text.isLineBreak c = (t.next c).mode := by
      rw [Mode.step, hc, if_neg Bool.false_ne_true]
      rfl
    rw [across_cons, ih _ hrest, Mode.reading_cons, netBraces_cons, hstep, next,
      BraceCount.net_addIn, Int.add_assoc]

/-- Once there was other code on a line, the leading closing braces stay what they are. -/
lemma leading_across_of_seenCode (t : Tally) (h : t.braces.seenCode = true) (line : Text) :
    (t.across line).braces.leading = t.braces.leading := by
  induction line generalizing t with
  | nil => rfl
  | cons c rest ih =>
    obtain ⟨hseen, hleading⟩ := t.braces.addIn_of_seenCode h c t.mode
    rw [across_cons, ih _ hseen]
    exact hleading

/-- A line begins with a part that closes its leading closing braces and opens none. -/
lemma exists_leading_closed (t : Tally) (h : t.braces.seenCode = false)
    (hnet : t.braces.net + t.braces.leading = 0) (line : Text) :
    ∃ part, part <+: line ∧
      (t.across part).braces.net + (t.across line).braces.leading = 0 := by
  induction line generalizing t with
  | nil => exact ⟨[], List.nil_prefix, hnet⟩
  | cons c rest ih =>
    rcases t.braces.addIn_of_not_seenCode h c t.mode with ⟨hseen, hleading⟩ | ⟨hseen, hsame⟩
    · refine ⟨[], List.nil_prefix, ?_⟩
      rw [across_cons, leading_across_of_seenCode _ hseen]
      simpa only [across_nil, next, hleading] using hnet
    · obtain ⟨part, hpart, hclosed⟩ := ih (t.next c) hseen (hsame.trans hnet)
      exact ⟨c :: part, List.cons_prefix_cons.2 ⟨rfl, hpart⟩, hclosed⟩

/-- A slash that begins no block comment is other code or begins a line comment. -/
private lemma leading_across_slash (b : BraceCount) {rest : Text}
    (h : ∀ more, rest ≠ '*' :: more) :
    (across ⟨.code, b⟩ ('/' :: rest)).braces.leading = b.leading := by
  have hnext : next ⟨.code, b⟩ '/' = ⟨.slash, b⟩ := rfl
  rw [across_cons, hnext]
  by_cases hline : rest.head? = some '/'
  · obtain ⟨more, rfl⟩ := List.head?_eq_some_iff.1 hline
    have hcomment : next ⟨.slash, b⟩ '/' = ⟨.lineComment, b⟩ := rfl
    rw [across_cons, hcomment, across_lineComment]
  · have hcode : (across ⟨.slash, b⟩ rest).outcome = (across ⟨.code, b.withCode⟩ rest).outcome := by
      refine outcome_across_slash fun d hd => ⟨?_, ?_⟩
      · rintro rfl
        exact hline hd
      · rintro rfl
        obtain ⟨more, hmore⟩ := List.head?_eq_some_iff.1 hd
        exact h more hmore
    exact (congrArg (·.1) hcode).trans (leading_across_of_seenCode _ rfl rest)

/-- **The tally of a line counts the closing braces before any other code**, where the line starts
in code or, with the flag set, in a block comment.

**Proof sketch.** Induction on the count of these braces: whatever is no blank, no closing brace and
no block comment is other code, and after it nothing is counted. -/
lemma leading_across (comment : Bool) (b : BraceCount) (hb : b.seenCode = false) (line : Text) :
    (across ⟨if comment then .blockComment else .code, b⟩ line).braces.leading =
      b.leading + closersFrom comment line := by
  fun_induction closersFrom comment line generalizing b with
  | case1 rest ih => exact ih b hb
  | case2 rest ih =>
    have hnext : next ⟨.code, b⟩ '\x7d' =
        ⟨.code, { b with net := b.net - 1, leading := b.leading + 1 }⟩ := by
      simp [next, Mode.next, Mode.inCode, BraceCount.addIn, BraceCount.add, hb]
    have hrest := ih { b with net := b.net - 1, leading := b.leading + 1 } hb
    simp only [Bool.false_eq_true, if_false] at hrest ⊢
    rw [across_cons, hnext, hrest]
    omega
  | case3 c rest hcomment hclose hc ih =>
    have hnext : next ⟨.code, b⟩ c = ⟨.code, b⟩ := by
      rw [next, Mode.next_of_isBlank hc rfl, BraceCount.addIn, b.add_of_isBlank hc]
    simp only [Bool.false_eq_true, if_false] at ih ⊢
    rw [across_cons, hnext, ih b hb]
  | case4 c rest hcomment hclose hc =>
    simp only [Bool.false_eq_true, if_false, Nat.add_zero]
    by_cases hslash : c = '/'
    · subst hslash
      exact leading_across_slash b fun more hmore => hcomment more rfl hmore
    · obtain ⟨hseen, hleading⟩ : (b.add c).seenCode = true ∧ (b.add c).leading = b.leading := by
        unfold BraceCount.add
        split_ifs <;> simp_all [BraceCount.withCode]
      rw [across_cons, leading_across_of_seenCode _ hseen]
      exact hleading
  | case5 rest ih => exact ih b hb
  | case6 c rest hend ih =>
    have hnext : next ⟨.blockComment, b⟩ c = ⟨Mode.inBlockComment c, b⟩ := rfl
    simp only [if_true] at ih ⊢
    rw [across_cons, hnext, Mode.inBlockComment, ← ih b hb]
    split
    next hstar =>
      refine congrArg (·.1) (outcome_across_star fun d hd => ?_)
      rintro rfl
      obtain ⟨more, hmore⟩ := List.head?_eq_some_iff.1 hd
      exact hend more hstar hmore
    next => rfl
  | case7 comment => rfl

end Tally

end UnitForge.Layout
