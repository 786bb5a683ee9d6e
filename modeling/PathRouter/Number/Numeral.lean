/-
Numerals with a sign: integers, and floating-point numbers with names for the infinite ones and
for what is no number.
-/
import PathRouter.Number.Decimal

namespace PathRouter.Numeral

/-- Whether a minus begins the text, and the text without its sign. -/
def splitSign : Text → Bool × Text
  | '+' :: t => (false, t)
  | '-' :: t => (true, t)
  | t => (false, t)

/-- The integer that a numeral spells: digits with a sign or without one. -/
def int? (t : Text) : Option Int :=
  let (negative, digits) := splitSign t
  if digits.isEmpty || !digits.all Char.isDigit then none
  else some (if negative then -(Decimal.ofDigits digits) else Decimal.ofDigits digits)

/-- The natural number that a numeral spells; not even a zero may have a minus. -/
def nat? (t : Text) : Option Int :=
  if (splitSign t).1 then none else int? t

/-- The number of the format nearest to what a numeral spells. Names are read in any case. -/
def float? (f : BinaryFormat) (t : Text) : Option Binary :=
  let (negative, body) := splitSign t
  let name := String.ofList (body.map Char.toLower)
  if name = "inf" || name = "infinity" then some (.infinite negative)
  else if name = "nan" then some .nan
  else (Decimal.parse? body).map (Decimal.toBinary f negative)

end PathRouter.Numeral
