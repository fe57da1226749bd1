import UnitForge.Number.Binary64
import UnitForge.Number.Digits

set_option autoImplicit false

/-!
# Decimal notation of floating-point numbers

A floating-point number is written with a fixed number of places, with a fixed number of
significant digits, or with the fewest digits that read back as the same number.

## Main definitions

* `UnitForge.Number.Digits10`: significant decimal digits and the position of the point.
* `UnitForge.Number.significant`: rounds to a number of significant digits.
* `UnitForge.Number.shortest`: the fewest digits that read back.
* `UnitForge.Number.fixedNotation`, `UnitForge.Number.scientificNotation`,
  `UnitForge.Number.generalNotation`, `UnitForge.Number.plainNotation`: the four notations.

## Design

All arithmetic is exact: a number is a fraction of whole numbers, and a rounding is a rounding of
a quotient. Ties go to the even digit.
-/

namespace UnitForge.Number

/-- Decimal digits `d₁d₂…dₙ`, standing for `0.d₁d₂…dₙ * 10 ^ point`. -/
structure Digits10 where
  /-- The digits, most significant first. -/
  digits : Text
  /-- The position of the decimal point from the left of the digits. -/
  point : Int
  deriving DecidableEq, Repr

/-- The fraction `num / den * 10 ^ k` as a numerator and a denominator. -/
def scale10 (num den : Nat) (k : Int) : Nat × Nat :=
  (num * Nat.pow 10 k.toNat, den * Nat.pow 10 (-k).toNat)

/-- The power of ten just above a positive fraction: `10 ^ (p - 1) ≤ num / den < 10 ^ p`. -/
def magnitude (num den : Nat) : Int :=
  let k : Int := (showNat num).length - (showNat den).length
  let (n, d) := scale10 num den (-k)
  if d ≤ n then k + 1 else k

/-- The fraction rounded to `count` significant digits. -/
def significantOf (num den count : Nat) : Digits10 :=
  if num == 0 then ⟨List.replicate count '0', 1⟩
  else
    let point := magnitude num den
    let (n, d) := scale10 num den (count - point)
    let rounded := roundDiv n d
    if rounded == Nat.pow 10 count then ⟨showNat (Nat.pow 10 (count - 1)), point + 1⟩
    else ⟨showNat rounded, point⟩

/-- The absolute value rounded to `count` significant digits. -/
def significant (x : Binary64) (count : Nat) : Digits10 := significantOf x.num x.den count

/-- Whether `a / b` lies between the two halfway points around the absolute value of `x`, where
the points themselves count if the significand of `x` is even. -/
def readsBack (x : Binary64) (a b : Nat) : Bool :=
  -- four times the value and both halfway points, over the common denominator `4 * den`
  let unit := Nat.pow 2 x.exponent.toNat
  let narrowBelow := x.significand == Nat.pow 2 52 && -1074 < x.exponent
  let below := 4 * x.num - (if narrowBelow then unit else 2 * unit)
  let above := 4 * x.num + 2 * unit
  let four := 4 * x.den
  if x.significand % 2 == 0 then below * b ≤ a * four && a * four ≤ above * b
  else below * b < a * four && a * four < above * b

/-- The shortest digits among those of `count, count + 1, …` digits, at most `fuel` counts. -/
def shortestFrom (x : Binary64) (count : Nat) : Nat → Digits10
  | 0 => significant x 17
  | fuel + 1 =>
    let point := magnitude x.num x.den
    let (n, d) := scale10 x.num x.den (count - point)
    let q := n / d
    let value (m : Nat) : Nat × Nat := scale10 m 1 (point - count)
    let hit (m : Nat) : Bool := 0 < m && let (a, b) := value m; readsBack x a b
    let make (m : Nat) : Digits10 :=
      if m == Nat.pow 10 count then ⟨showNat (Nat.pow 10 (count - 1)), point + 1⟩
      else ⟨showNat m, point⟩
    match hit q, hit (q + 1) with
    | true, true => make (roundDiv n d)
    | true, false => make q
    | false, true => make (q + 1)
    | false, false => shortestFrom x (count + 1) fuel

/-- The fewest digits that read back as the same number; of two such, the nearer. -/
def shortest (x : Binary64) : Digits10 :=
  if x.significand == 0 then ⟨['0'], 1⟩ else shortestFrom x 1 16

/-- The digits without zeros at the end, but at least one digit. -/
def Digits10.stripZeros (ds : Digits10) : Digits10 :=
  match (ds.digits.reverse.dropWhile (· == '0')).reverse with
  | [] => { ds with digits := ['0'] }
  | digits => { ds with digits }

/-- The digits with the point among them, filled with zeros on both sides; `places` are the digits
after the point at least, and `keepPoint` keeps a point with nothing after it. -/
def Digits10.positional (ds : Digits10) (places : Nat) (keepPoint : Bool) : Text :=
  let (whole, fraction) :=
    if ds.point ≤ 0 then (['0'], List.replicate (-ds.point).toNat '0' ++ ds.digits)
    else
      let p := ds.point.toNat
      (ds.digits.take p ++ List.replicate (p - ds.digits.length) '0', ds.digits.drop p)
  let fraction := fraction ++ List.replicate (places - fraction.length) '0'
  if fraction.isEmpty && !keepPoint then whole else whole ++ '.' :: fraction

/-- The digits with the point after the first one, and the exponent of ten with its sign and at
least two digits. -/
def Digits10.exponential (ds : Digits10) (letter : Char) (keepPoint : Bool) : Text :=
  let e := ds.point - 1
  let digits := showNat e.natAbs
  let exponent := letter :: (if e < 0 then '-' else '+') ::
    (List.replicate (2 - digits.length) '0' ++ digits)
  match ds.digits with
  | [] => exponent
  | [d] => (if keepPoint then [d, '.'] else [d]) ++ exponent
  | d :: more => d :: '.' :: more ++ exponent

/-- A minus sign for a negative number. -/
def minusSign (x : Binary64) : Text := if x.negative then ['-'] else []

/-- The number with `places` digits after the point. -/
def fixedNotation (x : Binary64) (places : Nat) (keepPoint : Bool) : Text :=
  let (n, d) := scale10 x.num x.den places
  let digits := showNat (roundDiv n d)
  let digits := List.replicate (places + 1 - digits.length) '0' ++ digits
  minusSign x ++ Digits10.positional ⟨digits, (digits.length : Int) - places⟩ places keepPoint

/-- The number with one digit before the point, `places` digits after it, and an exponent. -/
def scientificNotation (x : Binary64) (places : Nat) (letter : Char) (keepPoint : Bool) : Text :=
  minusSign x ++ (significant x (places + 1)).exponential letter keepPoint

/-- The number with `precision` significant digits: positional unless the exponent is below `-4`
or not below the precision. Zeros at the end are kept only if the point is. -/
def generalNotation (x : Binary64) (precision : Nat) (letter : Char) (keepPoint : Bool) : Text :=
  let precision := max precision 1
  let ds := significant x precision
  let shown := if keepPoint then ds else ds.stripZeros
  minusSign x ++
    (if ds.point ≤ -4 || precision < ds.point then shown.exponential letter keepPoint
    else shown.positional 0 keepPoint)

/-- The number with the fewest digits that read back: positional with at least one place from
`10 ^ -4` up to `10 ^ 16`, and with an exponent outside. -/
def plainNotation (x : Binary64) : Text :=
  let ds := shortest x
  minusSign x ++
    (if ds.point ≤ -4 || 16 < ds.point then ds.exponential 'e' false else ds.positional 1 false)

end UnitForge.Number
