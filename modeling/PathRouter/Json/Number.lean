/-
Numbers of JSON values: integers of 64 bits, with or without sign, and floating-point numbers. A
floating-point number is written with the fewest digits, in plain notation where it is not too
small or too large for it.
-/
import PathRouter.Number.Decimal

namespace PathRouter.Json

/-- A number of a JSON value; a floating-point number is always finite. -/
inductive Number where
  | int (n : Int)
  | float (negative : Bool) (magnitude : Magnitude)
  deriving DecidableEq, Repr

namespace Number

/-- Whether an integer can be held: one of 64 bits, with or without sign. -/
def holds (n : Int) : Bool :=
  -(Nat.pow 2 63 : Int) ≤ n && n < (Nat.pow 2 64 : Int)

/-- Whether the number is zero. -/
def isZero : Number → Bool
  | int n => n == 0
  | float _ m => m.significand == 0

/-! ## Writing -/

/-- The decimal text of an integer. -/
def intText (n : Int) : Text :=
  if n < 0 then '-' :: Decimal.digitsOf n.natAbs else Decimal.digitsOf n.natAbs

/-- How far plain notation reaches: the most zeros between the point and the first digit other
than zero, and the most digits before the point. -/
structure PlainRange where
  zeros : Nat
  digits : Nat
  deriving DecidableEq, Repr

/-- Numbers of 32 bits have fewer digits, which leaves room for one more zero. -/
def plainRange (f : BinaryFormat) : PlainRange :=
  if f = .single then ⟨5, 13⟩ else ⟨4, 16⟩

/-- Whether a number with `point` digits before the point is written in plain notation. Zeros that
follow the point count as negative digits. -/
def PlainRange.reaches (r : PlainRange) (point : Int) : Bool :=
  -r.zeros ≤ point && point ≤ r.digits

/-- The text of a decimal in plain notation, with at least one digit on either side of the
point. -/
def plainText (d : Decimal) : Text :=
  let digits := Decimal.digitsOf d.digits
  let point := digits.length + d.exponent
  if 0 ≤ d.exponent then digits ++ List.replicate d.exponent.toNat '0' ++ ".0".toList
  else if 0 < point then digits.take point.toNat ++ '.' :: digits.drop point.toNat
  else "0.".toList ++ List.replicate (-point).toNat '0' ++ digits

/-- The text of a decimal with one digit before the point and a signed exponent. -/
def exponentText (d : Decimal) : Text :=
  let digits := Decimal.digitsOf d.digits
  let e := digits.length + d.exponent - 1
  let fraction := digits.drop 1
  digits.take 1 ++ (if fraction.isEmpty then [] else '.' :: fraction) ++
    'e' :: (if 0 ≤ e then ['+'] else []) ++ intText e

/-- The text of a decimal. -/
def decimalText (r : PlainRange) (d : Decimal) : Text :=
  if r.reaches ((Decimal.digitsOf d.digits).length + d.exponent) then plainText d
  else exponentText d

/-- The text of a finite number of a floating-point format. -/
def floatText (f : BinaryFormat) (negative : Bool) (m : Magnitude) : Text :=
  let text :=
    if m.significand = 0 then "0.0".toList else decimalText (plainRange f) (Decimal.shortest f m)
  if negative then '-' :: text else text

/-- The text of a number. -/
def text : Number → Text
  | int n => intText n
  | float negative m => floatText .double negative m

/-! ## Reading -/

/-- A magnitude times or over a power of ten; both the power and the result are rounded. -/
def scaleTen? (m : Magnitude) (e : Int) : Option Magnitude := do
  let p ← BinaryFormat.double.round? (Nat.pow 10 e.natAbs) 1
  if 0 ≤ e then BinaryFormat.double.round? (m.num * p.num) (m.den * p.den)
  else BinaryFormat.double.round? (m.num * p.den) (m.den * p.num)

/-- The greatest power of ten that a floating-point number can hold. -/
def greatestTen : Nat := 308

/-- A rounded integer brought to a power of ten in steps that can be held. The first argument
bounds the number of steps. -/
def scaleSteps? : Nat → Magnitude → Int → Option Magnitude
  | 0, _, _ => none
  | k + 1, m, e =>
    if e.natAbs ≤ greatestTen then scaleTen? m e
    else if m.significand = 0 then some m
    else if 0 ≤ e then none
    else (scaleTen? m (-greatestTen)).bind (scaleSteps? k · (e + greatestTen))

/-- The leading digits of a row as far as they stay below `2 ^ 64`, as a number, and the count of
the digits left. -/
def leadingDigits (n : Nat) : Text → Nat × Nat
  | [] => (n, 0)
  | c :: t =>
    let next := 10 * n + (c.toNat - '0'.toNat)
    if next < Nat.pow 2 64 then leadingDigits next t else (n, t.length + 1)

/-- The floating-point number of a JSON numeral: its leading digits rounded, then brought to the
power of ten. Digits that do not fit in 64 bits count as zeros. -/
def readFloat? (negative : Bool) (whole fraction : Text) (exponent : Int) : Option Number :=
  let (n, dropped) := leadingDigits 0 (whole ++ fraction)
  -- Once a digit of the whole part is dropped, the digits of the fraction are dropped as well.
  let e := exponent - fraction.length + dropped
  if n = 0 then some (float negative BinaryFormat.double.zero)
  else
    (BinaryFormat.double.round? n 1).bind fun m =>
      (scaleSteps? (e.natAbs / greatestTen + 2) m e).map (float negative)

/-- The number that a JSON numeral spells. Without a fraction and an exponent it is an integer if
it can be held; a minus before zero makes a floating-point zero. -/
def read? (t : Text) : Option Number :=
  let (negative, t) := match t with
    | '-' :: t => (true, t)
    | t => (false, t)
  let whole := t.takeWhile Char.isDigit
  let rest := t.dropWhile Char.isDigit
  let n := Decimal.ofDigits whole
  if whole.isEmpty || (whole.head? == some '0' && 1 < whole.length) then none
  else if rest.isEmpty && (!negative && n < Nat.pow 2 64) then some (int n)
  else if rest.isEmpty && (negative && 0 < n && n ≤ Nat.pow 2 63) then some (int (-n))
  else match rest with
    | '.' :: rest =>
      let fraction := rest.takeWhile Char.isDigit
      if fraction.isEmpty then none
      else (Decimal.exponent? (rest.dropWhile Char.isDigit)).bind (readFloat? negative whole fraction)
    | rest => (Decimal.exponent? rest).bind (readFloat? negative whole [])

end Number

end PathRouter.Json
