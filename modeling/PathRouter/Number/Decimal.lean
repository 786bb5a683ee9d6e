/-
Decimal numerals: reading one as the nearest floating-point number, and the fewest digits that
read back to a floating-point number.
-/
import PathRouter.Text
import PathRouter.Number.Binary

namespace PathRouter

/-- The number `digits * 10 ^ exponent`. -/
structure Decimal where
  digits : Nat
  exponent : Int
  deriving DecidableEq, Repr

namespace Decimal

/-- The number that a row of digits spells. -/
def ofDigits (t : Text) : Nat :=
  t.foldl (fun n c => 10 * n + (c.toNat - '0'.toNat)) 0

/-- The digits of a number, without leading zeros. -/
def digitsOf (n : Nat) : Text :=
  Nat.toDigits 10 n

/-- The numerator of the number as a ratio. -/
def num (d : Decimal) : Nat :=
  d.digits * Nat.pow 10 d.exponent.toNat

/-- The denominator of the number as a ratio. -/
def den (d : Decimal) : Nat :=
  Nat.pow 10 (-d.exponent).toNat

/-- A power of ten above all numbers of every format here, with its inverse below them. -/
def farExponent : Int := 400

/-- The number of the format nearest to a decimal with a sign. A decimal far outside the range of
every format is not computed. -/
def toBinary (f : BinaryFormat) (negative : Bool) (d : Decimal) : Binary :=
  let top := d.exponent + (digitsOf d.digits).length
  if d.digits = 0 || top < -farExponent then .finite negative f.zero
  else if farExponent < top then .infinite negative
  else f.round negative d.num d.den

/-! ## Reading numerals -/

/-- The value of an optional exponent: a letter `e`, a sign or none, and digits. -/
def exponent? : Text → Option Int
  | [] => some 0
  | e :: t =>
    if e != 'e' && e != 'E' then none
    else
      let (negative, digits) := match t with
        | '+' :: t => (false, t)
        | '-' :: t => (true, t)
        | t => (false, t)
      if digits.isEmpty || !digits.all Char.isDigit then none
      else some (if negative then -(ofDigits digits) else ofDigits digits)

/-- The decimal that a numeral without a sign spells: digits with a point among them or beside
them, and an optional exponent. -/
def parse? (t : Text) : Option Decimal :=
  let whole := t.takeWhile Char.isDigit
  let rest := t.dropWhile Char.isDigit
  let (fraction, rest) := match rest with
    | '.' :: rest => (rest.takeWhile Char.isDigit, rest.dropWhile Char.isDigit)
    | rest => ([], rest)
  if whole.isEmpty && fraction.isEmpty then none
  else (exponent? rest).map fun e => ⟨ofDigits (whole ++ fraction), e - fraction.length⟩

/-! ## Fewest digits -/

/-- Whether a decimal, as a ratio, rounds to the magnitude: it lies between the points halfway to
the neighbours, and on such a point only if the significand is even. -/
def readsAs (f : BinaryFormat) (m : Magnitude) (num den : Nat) : Bool :=
  -- The bounds are counted in quarters of the least place.
  let low := if m.significand = Nat.pow 2 (f.precision - 1) && f.minExponent < m.exponent
    then 4 * m.significand - 1 else 4 * m.significand - 2
  let high := 4 * m.significand + 2
  let e := m.exponent - 2
  let x := num * Nat.pow 2 (-e).toNat
  let unit := den * Nat.pow 2 e.toNat
  if m.significand % 2 = 0 then low * unit ≤ x && x ≤ high * unit
  else low * unit < x && x < high * unit

/-- The multiple of `10 ^ e` that reads as the magnitude and is nearest to it, if there is one; a
tie goes to the even multiple. -/
def onGrid? (f : BinaryFormat) (m : Magnitude) (e : Int) : Option Decimal :=
  let num := m.num * Nat.pow 10 (-e).toNat
  let den := m.den * Nat.pow 10 e.toNat
  let nearest := roundHalfEven num den
  let fits (n : Nat) := readsAs f m (n * Nat.pow 10 e.toNat) (Nat.pow 10 (-e).toNat)
  let other := if nearest * den ≤ num then nearest + 1 else nearest - 1
  if fits nearest then some ⟨nearest, e⟩ else if fits other then some ⟨other, e⟩ else none

/-- The first decimal that reads as the magnitude, on grids that become finer, at most `k` of them
before the exact value. -/
def firstOnGrids (f : BinaryFormat) (m : Magnitude) : Nat → Int → Decimal
  | 0, e => ⟨roundHalfEven (m.num * Nat.pow 10 (-e).toNat) (m.den * Nat.pow 10 e.toNat), e⟩
  | k + 1, e => (onGrid? f m e).getD (firstOnGrids f m k (e - 1))

/-- The decimal with the fewest digits that reads as the magnitude, and of those the nearest. -/
def shortest (f : BinaryFormat) (m : Magnitude) : Decimal :=
  if m.significand = 0 then ⟨0, 0⟩
  else
    let top : Int := (digitsOf (m.num / m.den)).length
    let below : Int := (digitsOf (m.den / m.num)).length
    firstOnGrids f m 20 (if m.den ≤ m.num then top else 1 - below)

end Decimal

end PathRouter
