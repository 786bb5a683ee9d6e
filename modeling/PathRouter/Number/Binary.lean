/-
Binary floating-point numbers: the values of a format, their bits, and rounding to the nearest
value. All arithmetic is exact, on natural numbers.
-/

namespace PathRouter

/-- A format of binary floating-point numbers: the bits of a full significand and the bits of the
exponent field. -/
structure BinaryFormat where
  precision : Nat
  exponentBits : Nat
  deriving DecidableEq, Repr

/-- The number `significand * 2 ^ exponent`. -/
structure Magnitude where
  significand : Nat
  exponent : Int
  deriving DecidableEq, Repr

/-- A floating-point number. Zeros have a sign. -/
inductive Binary where
  | finite (negative : Bool) (magnitude : Magnitude)
  | infinite (negative : Bool)
  | nan
  deriving DecidableEq, Repr

namespace Magnitude

/-- The numerator of the number as a ratio. -/
def num (m : Magnitude) : Nat :=
  m.significand * Nat.pow 2 m.exponent.toNat

/-- The denominator of the number as a ratio. -/
def den (m : Magnitude) : Nat :=
  Nat.pow 2 (-m.exponent).toNat

end Magnitude

/-- The integer nearest to a ratio; a half goes to the even neighbour. -/
def roundHalfEven (num den : Nat) : Nat :=
  let q := num / den
  let r := num % den
  if 2 * r < den || (2 * r == den && q % 2 == 0) then q else q + 1

namespace BinaryFormat

/-- The format of 32 bits. -/
def single : BinaryFormat := ⟨24, 8⟩

/-- The format of 64 bits. -/
def double : BinaryFormat := ⟨53, 11⟩

/-- The exponent that the field of a number between 1 and 2 stands for. -/
def bias (f : BinaryFormat) : Nat :=
  Nat.pow 2 (f.exponentBits - 1) - 1

/-- The exponent of the least place of the smallest numbers. -/
def minExponent (f : BinaryFormat) : Int :=
  2 - f.bias - f.precision

/-- The exponent of the least place of the greatest numbers. -/
def maxExponent (f : BinaryFormat) : Int :=
  f.bias + 1 - f.precision

/-- The zero of a format. -/
def zero (f : BinaryFormat) : Magnitude :=
  ⟨0, f.minExponent⟩

/-- The magnitude with a given exponent that is nearest to a ratio, in the form of the format. -/
def roundAt (f : BinaryFormat) (e : Int) (num den : Nat) : Magnitude :=
  let m := roundHalfEven (num * Nat.pow 2 (-e).toNat) (den * Nat.pow 2 e.toNat)
  if m = Nat.pow 2 f.precision then ⟨Nat.pow 2 (f.precision - 1), e + 1⟩ else ⟨m, e⟩

/-- The greatest `e` with `2 ^ e ≤ num / den`, for positive numbers. -/
def logTwo (num den : Nat) : Int :=
  let e : Int := num.log2 - den.log2
  if den * Nat.pow 2 e.toNat ≤ num * Nat.pow 2 (-e).toNat then e else e - 1

/-- The magnitude nearest to a ratio, unless the ratio is too large for the format. -/
def round? (f : BinaryFormat) (num den : Nat) : Option Magnitude :=
  if num = 0 then some f.zero
  else
    let m := f.roundAt (max f.minExponent (logTwo num den + 1 - f.precision)) num den
    if f.maxExponent < m.exponent then none else some m

/-- The number nearest to a ratio with a sign. -/
def round (f : BinaryFormat) (negative : Bool) (num den : Nat) : Binary :=
  match f.round? num den with
  | some m => .finite negative m
  | none => .infinite negative

/-- The number of bits. -/
def width (f : BinaryFormat) : Nat :=
  f.exponentBits + f.precision

/-- The bits of a sign, an exponent field and a fraction. -/
def assemble (f : BinaryFormat) (negative : Bool) (field fraction : Nat) : Nat :=
  (negative.toNat <<< f.exponentBits + field) <<< (f.precision - 1) + fraction

/-- The bits of a number. -/
def bits (f : BinaryFormat) : Binary → Nat
  | .finite s m =>
    let lead := Nat.pow 2 (f.precision - 1)
    if m.significand < lead then f.assemble s 0 m.significand
    else f.assemble s (m.exponent - f.minExponent + 1).toNat (m.significand - lead)
  | .infinite s => f.assemble s (Nat.pow 2 f.exponentBits - 1) 0
  | .nan => f.assemble false (Nat.pow 2 f.exponentBits - 1) (Nat.pow 2 (f.precision - 2))

/-- The nearest number of the format to a number of another one. -/
def convert (f : BinaryFormat) : Binary → Binary
  | .finite s m => f.round s m.num m.den
  | x => x

end BinaryFormat

end PathRouter
