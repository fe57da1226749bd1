set_option autoImplicit false

/-!
# Binary floating-point numbers

A finite binary floating-point number of sixty-four bits, as the exact value
`± significand * 2 ^ exponent`.

## Main definitions

* `UnitForge.Number.Binary64`: a finite number.
* `UnitForge.Number.Binary64.ofBits`: the number with the given encoding.
* `UnitForge.Number.Binary64.ofInt?`, `UnitForge.Number.Binary64.ofDecimal?`: the number nearest to
  a whole number or to a decimal fraction, if it is in range.
* `UnitForge.Number.Binary64.truncate`: the whole part.
-/

namespace UnitForge.Number

/-- A finite floating-point number: `± significand * 2 ^ exponent`. -/
structure Binary64 where
  /-- Whether the sign bit is set. -/
  negative : Bool
  /-- The significand, below `2 ^ 53`. -/
  significand : Nat
  /-- The exponent of two, at least `-1074`. -/
  exponent : Int
  deriving DecidableEq, Repr

/-- The quotient `num / den` rounded to the nearest whole number; a half goes to the even one. -/
def roundDiv (num den : Nat) : Nat :=
  let q := num / den
  let r := num % den
  if 2 * r < den then q
  else if den < 2 * r then q + 1
  else if q % 2 == 0 then q else q + 1

namespace Binary64

/-- The finite number with the given encoding; the encodings of infinities and of undefined
results are read as if their exponent were an ordinary one. -/
def ofBits (bits : UInt64) : Binary64 :=
  let n := bits.toNat
  let fraction : Nat := n % Nat.pow 2 52
  let scale : Nat := n / Nat.pow 2 52 % Nat.pow 2 11
  let negative := n / Nat.pow 2 63 == 1
  if scale == 0 then ⟨negative, fraction, -1074⟩
  else ⟨negative, Nat.pow 2 52 + fraction, (scale : Int) - 1075⟩

/-- The numerator of the absolute value as a fraction of whole numbers. -/
def num (x : Binary64) : Nat := x.significand * Nat.pow 2 x.exponent.toNat

/-- The denominator of the absolute value as a fraction of whole numbers. -/
def den (x : Binary64) : Nat := Nat.pow 2 (-x.exponent).toNat

/-- The whole part, towards zero. -/
def truncate (x : Binary64) : Int :=
  let n := x.num / x.den
  if x.negative then -(n : Int) else (n : Int)

/-- The number nearest to a whole number, a tie going to the even significand; none if it is
beyond the largest finite number. -/
def ofInt? (i : Int) : Option Binary64 :=
  let n := i.natAbs
  let negative := decide (i < 0)
  if n < Nat.pow 2 53 then some ⟨negative, n, 0⟩
  else
    let shift := n.log2 - 52
    let rounded := roundDiv n (Nat.pow 2 shift)
    let (significand, exponent) :=
      if rounded == Nat.pow 2 53 then (Nat.pow 2 52, shift + 1) else (rounded, shift)
    if 971 < exponent then none else some ⟨negative, significand, exponent⟩

/-- The number nearest to the fraction `num / den` of positive numbers, a tie going to the even
significand; none if it is beyond the largest finite number. -/
def ofRatio? (negative : Bool) (num den : Nat) : Option Binary64 :=
  let low : Int := (num.log2 : Int) - den.log2 - 53
  let scaled (exponent : Int) : Nat × Nat :=
    (num * Nat.pow 2 (-exponent).toNat, den * Nat.pow 2 exponent.toNat)
  let fits := (scaled low).1 / (scaled low).2 < Nat.pow 2 53
  let full := if fits then low else low + 1
  let exponent := if full < -1074 then -1074 else full
  let rounded := roundDiv (scaled exponent).1 (scaled exponent).2
  let (significand, exponent) :=
    if rounded == Nat.pow 2 53 then (Nat.pow 2 52, exponent + 1) else (rounded, exponent)
  if 971 < exponent then none else some ⟨negative, significand, exponent⟩

/-- The decimal places beyond which a number is zero or out of range. -/
def maxPlaces : Int := 400

/-- The number nearest to `± digits * 10 ^ scale`, a tie going to the even significand; none if it
is beyond the largest finite number. -/
def ofDecimal? (negative : Bool) (digits : Nat) (scale : Int) : Option Binary64 :=
  let places : Int := scale + (Nat.toDigits 10 digits).length
  if digits == 0 || places < -maxPlaces then some ⟨negative, 0, -1074⟩
  else if maxPlaces < places then none
  else ofRatio? negative (digits * Nat.pow 10 scale.toNat) (Nat.pow 10 (-scale).toNat)

end Binary64

end UnitForge.Number
