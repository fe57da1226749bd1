import Mathlib.Data.List.Basic
import UnitForge.Text.Utf8

set_option autoImplicit false

/-!
# Texts and their bytes

Reading bytes as UTF-8 undoes the encoding of a text, and nothing else is read: bytes are read as a
text if and only if they are the encoding of that text. In particular no two texts have the same
bytes, and overlong forms and surrogates are refused.

## Main definitions

* `UnitForge.Text.Spells` — the bytes of a code point, by their values.

## Main results

* `UnitForge.Text.spells_utf8EncodeChar` — the bytes of a character.
* `UnitForge.Text.nextScalar_of_spells`, `UnitForge.Text.exists_spells` — the first character of
  some bytes is read if and only if they begin with its bytes.
* `UnitForge.Text.decodeUtf8_eq_ok_iff` — bytes are read as a text exactly if they are its encoding.
-/

namespace UnitForge

namespace Text

variable {n value size lo hi count : Nat} {a b : UInt8} {bytes rest tail : List UInt8} {c : Char}

/-! ## The bytes of a code point -/

/-- The bytes of the code point `n`: one to four of them, as many as are needed. -/
inductive Spells (n : Nat) : List UInt8 → Prop
  /-- One byte. -/
  | one {a : UInt8} (hn : n < 0x80) (ha : a.toNat = n) : Spells n [a]
  /-- Two bytes. -/
  | two {a b : UInt8} (hn : 0x80 ≤ n ∧ n < 0x800) (ha : a.toNat = 0xc0 + n / 64)
    (hb : b.toNat = 0x80 + n % 64) : Spells n [a, b]
  /-- Three bytes. -/
  | three {a b c : UInt8} (hn : 0x800 ≤ n ∧ n < 0x10000) (ha : a.toNat = 0xe0 + n / 4096)
    (hb : b.toNat = 0x80 + n / 64 % 64) (hc : c.toNat = 0x80 + n % 64) : Spells n [a, b, c]
  /-- Four bytes. -/
  | four {a b c d : UInt8} (hn : 0x10000 ≤ n ∧ n < 0x110000) (ha : a.toNat = 0xf0 + n / 262144)
    (hb : b.toNat = 0x80 + n / 4096 % 64) (hc : c.toNat = 0x80 + n / 64 % 64)
    (hd : d.toNat = 0x80 + n % 64) : Spells n [a, b, c, d]

/-- Bytes with the same value are the same. -/
lemma byte_eq (ha : a.toNat = n) (hb : b.toNat = n) : a = b :=
  UInt8.toNat_inj.mp (ha.trans hb.symm)

/-- A code point has its bytes in one way only. -/
lemma Spells.eq {bytes' : List UInt8} (h : Spells n bytes) (h' : Spells n bytes') :
    bytes = bytes' := by
  cases h with
  | one hn ha =>
    cases h' with
    | one _ ha' => rw [byte_eq ha ha']
    | two hn' | three hn' | four hn' => omega
  | two hn ha hb =>
    cases h' with
    | two _ ha' hb' => rw [byte_eq ha ha', byte_eq hb hb']
    | one hn' | three hn' | four hn' => omega
  | three hn ha hb hc =>
    cases h' with
    | three _ ha' hb' hc' => rw [byte_eq ha ha', byte_eq hb hb', byte_eq hc hc']
    | one hn' | two hn' | four hn' => omega
  | four hn ha hb hc hd =>
    cases h' with
    | four _ ha' hb' hc' hd' =>
      rw [byte_eq ha ha', byte_eq hb hb', byte_eq hc hc', byte_eq hd hd']
    | one hn' | two hn' | three hn' => omega

/-- A byte has the value that is written into it. -/
lemma toNat_ofNat_of_lt (hn : n < 256) : (UInt8.ofNat n).toNat = n := by
  rw [UInt8.toNat_ofNat']
  exact Nat.mod_eq_of_lt hn

/-- **The encoding of a character spells its code point.** -/
theorem spells_utf8EncodeChar (c : Char) : Spells c.toNat (String.utf8EncodeChar c) := by
  have hvalid : c.toNat.isValidChar := c.valid
  have hval : c.val.toNat = c.toNat := rfl
  unfold String.utf8EncodeChar
  rw [hval]
  dsimp only
  split_ifs with h₁ h₂ h₃
  · exact .one (by omega) (toNat_ofNat_of_lt (by omega))
  · refine .two (by omega) ?_ ?_ <;> rw [toNat_ofNat_of_lt] <;> omega
  · refine .three (by omega) ?_ ?_ ?_ <;> rw [toNat_ofNat_of_lt] <;> omega
  · have hlt : c.toNat < 0x110000 := by
      rcases hvalid with h | h <;> omega
    refine .four (by omega) ?_ ?_ ?_ ?_ <;> rw [toNat_ofNat_of_lt] <;> omega

/-! ## The first character of some bytes -/

/-- A continuation byte within the bounds is taken in. -/
lemma continueScalar_cons (hb : lo ≤ b.toNat ∧ b.toNat ≤ hi) :
    continueScalar value size lo hi (count + 1) (b :: rest) =
      continueScalar (value * 64 + b.toNat % 64) (size + 1) 0x80 0xbf count rest := by
  rw [continueScalar, if_pos (by simpa using hb)]

/-- A character that continues begins with a continuation byte within the bounds. -/
lemma exists_of_continueScalar {k : Nat}
    (h : continueScalar value size lo hi (count + 1) rest = .char c k) :
    ∃ b more, rest = b :: more ∧ (lo ≤ b.toNat ∧ b.toNat ≤ hi) ∧
      continueScalar (value * 64 + b.toNat % 64) (size + 1) 0x80 0xbf count more = .char c k := by
  cases rest with
  | nil => simp [continueScalar] at h
  | cons b more =>
    by_cases hb : lo ≤ b.toNat ∧ b.toNat ≤ hi
    · rw [continueScalar_cons hb] at h
      exact ⟨b, more, rfl, hb, h⟩
    · rw [continueScalar, if_neg (by simpa using hb)] at h
      simp at h

/-- A first byte of two. -/
lemma nextScalar_two (ha : a.toNat = 0xc0 + n) (hn : 2 ≤ n ∧ n < 0x20) :
    nextScalar a rest = continueScalar n 1 0x80 0xbf 1 rest := by
  have hvalue : (0xc0 + n) % 32 = n := by omega
  rw [nextScalar, ha, if_neg (by omega), if_neg (by omega), if_pos (by omega), hvalue]

/-- A first byte of three. The second byte keeps out overlong forms and surrogates. -/
lemma nextScalar_three (ha : a.toNat = 0xe0 + n) (hn : n < 0x10) :
    nextScalar a rest =
      continueScalar n 1 (if n = 0 then 0xa0 else 0x80) (if n = 13 then 0x9f else 0xbf) 2 rest := by
  have hvalue : (0xe0 + n) % 16 = n := by omega
  rw [nextScalar, ha]
  simp only [beq_iff_eq]
  rw [if_neg (by omega), if_neg (by omega), if_neg (by omega)]
  by_cases h₀ : n = 0
  · subst h₀
    rfl
  by_cases h₁ : n = 13
  · subst h₁
    rfl
  rw [if_neg (by omega), if_neg (by omega), if_pos (by omega), hvalue, if_neg h₀, if_neg h₁]

/-- A first byte of four. The second byte keeps out overlong forms and points beyond the last. -/
lemma nextScalar_four (ha : a.toNat = 0xf0 + n) (hn : n < 5) :
    nextScalar a rest =
      continueScalar n 1 (if n = 0 then 0x90 else 0x80) (if n = 4 then 0x8f else 0xbf) 3 rest := by
  have hvalue : (0xf0 + n) % 8 = n := by omega
  rw [nextScalar, ha]
  simp only [beq_iff_eq]
  rw [if_neg (by omega), if_neg (by omega), if_neg (by omega), if_neg (by omega), if_neg (by omega),
    if_neg (by omega)]
  by_cases h₀ : n = 0
  · subst h₀
    rfl
  by_cases h₁ : n = 4
  · subst h₁
    rfl
  rw [if_neg (by omega), if_neg (by omega), if_pos (by omega), hvalue, if_neg h₀, if_neg h₁]

/-- Any other byte is a character of its own or begins none. -/
lemma nextScalar_other (h₂ : ¬ (0xc2 ≤ a.toNat ∧ a.toNat < 0xf5)) :
    nextScalar a rest =
      if a.toNat < 0x80 then .char (Char.ofNat a.toNat) 1 else .broken .start 1 := by
  rw [nextScalar]
  simp only [beq_iff_eq]
  by_cases h : a.toNat < 0x80
  · rw [if_pos h, if_pos h]
  rw [if_neg h, if_neg h]
  by_cases h' : a.toNat < 0xc2
  · rw [if_pos h']
  rw [if_neg h', if_neg (by omega), if_neg (by omega), if_neg (by omega), if_neg (by omega),
    if_neg (by omega), if_neg (by omega), if_neg (by omega)]

/-- **Bytes that begin with those of a character are read as that character.** -/
theorem nextScalar_of_spells (hn : n.isValidChar) (h : Spells n (a :: tail)) (rest : List UInt8) :
    nextScalar a (tail ++ rest) = .char (Char.ofNat n) (tail.length + 1) := by
  cases h with
  | one hlt ha =>
    rw [nextScalar_other (by omega), ha, if_pos hlt]
    rfl
  | @two _ b hlt ha hb =>
    have hvalue : n / 64 * 64 + b.toNat % 64 = n := by omega
    rw [nextScalar_two ha (by omega), List.cons_append, continueScalar_cons (by omega), hvalue]
    rfl
  | @three _ b c hlt ha hb hc =>
    have hvalue : (n / 4096 * 64 + b.toNat % 64) * 64 + c.toNat % 64 = n := by omega
    rw [nextScalar_three ha (by omega), List.cons_append, List.cons_append,
      continueScalar_cons (by split_ifs <;> omega), continueScalar_cons (by omega), hvalue]
    rfl
  | @four _ b c d hlt ha hb hc hd =>
    have hvalue : ((n / 262144 * 64 + b.toNat % 64) * 64 + c.toNat % 64) * 64 + d.toNat % 64 =
        n := by omega
    rw [nextScalar_four ha (by omega), List.cons_append, List.cons_append, List.cons_append,
      continueScalar_cons (by split_ifs <;> omega), continueScalar_cons (by omega),
      continueScalar_cons (by omega), hvalue]
    rfl

/-- A code point that is no surrogate is that of a character. -/
lemma toNat_ofNat_of_valid (hn : n.isValidChar) : (Char.ofNat n).toNat = n := by
  rw [Char.ofNat, dif_pos hn]
  rfl

/-- What is read after a first byte of two. -/
lemma exists_spells_two (ha : a.toNat = 0xc0 + n) (hn : 2 ≤ n ∧ n < 0x20)
    (h : nextScalar a rest = .char c size) :
    ∃ tail more, rest = tail ++ more ∧ Spells c.toNat (a :: tail) ∧ size = tail.length + 1 := by
  rw [nextScalar_two ha hn] at h
  obtain ⟨b, more, rfl, hb, h⟩ := exists_of_continueScalar h
  obtain ⟨rfl, rfl⟩ := Scalar.char.inj h
  refine ⟨[b], more, rfl, ?_, rfl⟩
  rw [toNat_ofNat_of_valid (.inl (by omega))]
  exact .two (by omega) (by omega) (by omega)

/-- What is read after a first byte of three. -/
lemma exists_spells_three (ha : a.toNat = 0xe0 + n) (hn : n < 0x10)
    (h : nextScalar a rest = .char c size) :
    ∃ tail more, rest = tail ++ more ∧ Spells c.toNat (a :: tail) ∧ size = tail.length + 1 := by
  rw [nextScalar_three ha hn] at h
  obtain ⟨b, more, rfl, hb, h⟩ := exists_of_continueScalar h
  obtain ⟨b', more, rfl, hb', h⟩ := exists_of_continueScalar h
  obtain ⟨rfl, rfl⟩ := Scalar.char.inj h
  have hbounds : (n = 0 → 0xa0 ≤ b.toNat) ∧ (n = 13 → b.toNat < 0xa0) ∧ 0x80 ≤ b.toNat ∧
      b.toNat < 0xc0 := by
    split_ifs at hb <;> omega
  refine ⟨[b, b'], more, rfl, ?_, rfl⟩
  rw [toNat_ofNat_of_valid (by unfold Nat.isValidChar; omega)]
  exact .three (by omega) (by omega) (by omega) (by omega)

/-- What is read after a first byte of four. -/
lemma exists_spells_four (ha : a.toNat = 0xf0 + n) (hn : n < 5)
    (h : nextScalar a rest = .char c size) :
    ∃ tail more, rest = tail ++ more ∧ Spells c.toNat (a :: tail) ∧ size = tail.length + 1 := by
  rw [nextScalar_four ha hn] at h
  obtain ⟨b, more, rfl, hb, h⟩ := exists_of_continueScalar h
  obtain ⟨b', more, rfl, hb', h⟩ := exists_of_continueScalar h
  obtain ⟨b'', more, rfl, hb'', h⟩ := exists_of_continueScalar h
  obtain ⟨rfl, rfl⟩ := Scalar.char.inj h
  have hbounds : (n = 0 → 0x90 ≤ b.toNat) ∧ (n = 4 → b.toNat < 0x90) ∧ 0x80 ≤ b.toNat ∧
      b.toNat < 0xc0 := by
    split_ifs at hb <;> omega
  refine ⟨[b, b', b''], more, rfl, ?_, rfl⟩
  rw [toNat_ofNat_of_valid (.inr (by omega))]
  exact .four (by omega) (by omega) (by omega) (by omega) (by omega)

/-- **If a character is read, the bytes begin with those of the character.** -/
theorem exists_spells (h : nextScalar a rest = .char c size) :
    ∃ tail more, rest = tail ++ more ∧ Spells c.toNat (a :: tail) ∧ size = tail.length + 1 := by
  by_cases hother : ¬ (0xc2 ≤ a.toNat ∧ a.toNat < 0xf5)
  · rw [nextScalar_other hother] at h
    split_ifs at h with hlt
    obtain ⟨rfl, rfl⟩ := Scalar.char.inj h
    refine ⟨[], rest, rfl, ?_, rfl⟩
    rw [toNat_ofNat_of_valid (.inl (by omega))]
    exact .one hlt rfl
  rcases Nat.lt_or_ge a.toNat 0xe0 with hlt | hge
  · obtain ⟨k, hk⟩ := Nat.exists_eq_add_of_le (show 0xc0 ≤ a.toNat by omega)
    exact exists_spells_two hk (by omega) h
  rcases Nat.lt_or_ge a.toNat 0xf0 with hlt | hge'
  · obtain ⟨k, hk⟩ := Nat.exists_eq_add_of_le hge
    exact exists_spells_three hk (by omega) h
  · obtain ⟨k, hk⟩ := Nat.exists_eq_add_of_le hge'
    exact exists_spells_four hk (by omega) h

/-! ## Texts -/

/-- The bytes that belong to a character already read are passed over. -/
lemma decodeFrom_append (position : Nat) (tail rest : List UInt8) :
    decodeFrom position tail.length (tail ++ rest) =
      decodeFrom (position + tail.length) 0 rest := by
  induction tail generalizing position with
  | nil => rfl
  | cons b tail ih =>
    rw [List.length_cons, List.cons_append, decodeFrom, ih, Nat.add_right_comm, Nat.add_assoc]

/-- A character is read from its bytes. -/
lemma decodeFrom_encode (position : Nat) (c : Char) (rest : List UInt8) :
    ∃ later, decodeFrom position 0 (String.utf8EncodeChar c ++ rest) =
      (decodeFrom later 0 rest).map (c :: ·) := by
  have h := spells_utf8EncodeChar c
  generalize String.utf8EncodeChar c = bytes at h ⊢
  obtain ⟨a, tail, rfl⟩ : ∃ a tail, bytes = a :: tail := by
    cases h <;> exact ⟨_, _, rfl⟩
  refine ⟨position + 1 + tail.length, ?_⟩
  have hvalid : c.toNat.isValidChar := c.valid
  have hnext : nextScalar a (tail ++ rest) = .char c (tail.length + 1) := by
    rw [nextScalar_of_spells hvalid h, Char.ofNat_toNat]
  rw [List.cons_append, decodeFrom, hnext]
  dsimp only
  rw [Nat.add_sub_cancel, decodeFrom_append]

/-- A text is read from its bytes, character by character. -/
lemma decodeFrom_encodeUtf8 (position : Nat) (text : Text) :
    decodeFrom position 0 (encodeUtf8 text) = .ok text := by
  induction text generalizing position with
  | nil => rfl
  | cons c text ih =>
    obtain ⟨later, h⟩ := decodeFrom_encode position c (encodeUtf8 text)
    rw [encodeUtf8, List.flatMap_cons, ← encodeUtf8, h, ih]
    rfl

/-- Bytes that are read as a text are its encoding.

**Proof sketch.** Induction on the number of bytes: they begin with those of the first character
that is read (`exists_spells`), and the others are read as the rest of the text. -/
lemma eq_encodeUtf8_of_decodeFrom {text : Text} (position : Nat)
    (h : decodeFrom position 0 bytes = .ok text) : bytes = encodeUtf8 text := by
  induction hlength : bytes.length using Nat.strongRecOn generalizing bytes text position with
  | ind length ih =>
    cases bytes with
    | nil =>
      obtain rfl := Except.ok.inj h
      rfl
    | cons a rest =>
      rw [decodeFrom] at h
      cases hnext : nextScalar a rest with
      | broken fault size => simp [hnext] at h
      | char c size =>
        obtain ⟨tail, more, rfl, hspells, rfl⟩ := exists_spells hnext
        rw [hnext] at h
        dsimp only at h
        rw [Nat.add_sub_cancel, decodeFrom_append] at h
        cases hmore : decodeFrom (position + 1 + tail.length) 0 more with
        | error e => simp [hmore, Except.map] at h
        | ok others =>
          rw [hmore] at h
          obtain rfl : c :: others = text := Except.ok.inj h
          have hlt : more.length < length := by
            rw [← hlength, List.length_cons, List.length_append]
            omega
          rw [encodeUtf8, List.flatMap_cons, ← encodeUtf8, ← ih _ hlt _ hmore rfl,
            ← hspells.eq (spells_utf8EncodeChar c), List.cons_append]

/-- **Bytes are read as a text exactly if they are its encoding.** -/
theorem decodeUtf8_eq_ok_iff {text : Text} :
    decodeUtf8 bytes = .ok text ↔ bytes = encodeUtf8 text :=
  ⟨eq_encodeUtf8_of_decodeFrom 0, fun h => h ▸ decodeFrom_encodeUtf8 0 text⟩

/-- Two texts with the same bytes are the same. -/
lemma encodeUtf8_injective : Function.Injective encodeUtf8 := by
  intro text text' h
  have hread := decodeUtf8_eq_ok_iff.mpr h
  exact Except.ok.inj ((decodeUtf8_eq_ok_iff.mpr rfl).symm.trans hread)

end Text

end UnitForge
