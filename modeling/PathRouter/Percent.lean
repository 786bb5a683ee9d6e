/-
Percent-encoded texts: a percent sign with two hexadecimal digits stands for a byte, everything
else for its own bytes in UTF-8.
-/
import PathRouter.Utf8

namespace PathRouter.Percent

/-- The value of a hexadecimal digit. -/
def hexValue? (b : Nat) : Option Nat :=
  if 48 ≤ b && b < 58 then some (b - 48)
  else if 65 ≤ b && b < 71 then some (b - 55)
  else if 97 ≤ b && b < 103 then some (b - 87)
  else none

/-- The byte that two hexadecimal digits spell. -/
def byte? (high low : Nat) : Option Nat :=
  (hexValue? high).bind fun h => (hexValue? low).map fun l => h * 16 + l

/-- The bytes that encoded bytes stand for. A percent sign without two digits stands for itself. -/
def decodeBytes : List Nat → List Nat
  | [] => []
  | 37 :: high :: low :: bs =>
    match byte? high low with
    | some b => b :: decodeBytes bs
    | none => 37 :: decodeBytes (high :: low :: bs)
  | b :: bs => b :: decodeBytes bs

/-- The text that an encoded text stands for. -/
def decode (t : Text) : Except Utf8.Error Text :=
  Utf8.decode (decodeBytes (Utf8.encode t))

end PathRouter.Percent
