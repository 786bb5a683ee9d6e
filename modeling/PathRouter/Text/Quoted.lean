/-
Texts shown in double quotes, on one line and without invisible characters.
-/
import PathRouter.Text
import PathRouter.Unicode.Printable

namespace PathRouter.Text

/-- A character as it is shown between double quotes. -/
def shown (c : Char) : Text :=
  match c with
  | '\x00' => ['\\', '0']
  | '\t' => ['\\', 't']
  | '\r' => ['\\', 'r']
  | '\n' => ['\\', 'n']
  | '"' => ['\\', '"']
  | '\\' => ['\\', '\\']
  | c =>
    if !Unicode.isJoining c && Unicode.isPrintable c then [c]
    else '\\' :: 'u' :: '\x7b' :: Nat.toDigits 16 c.toNat ++ ['\x7d']

/-- A text shown in double quotes. -/
def quoted (t : Text) : Text :=
  '"' :: t.flatMap shown ++ ['"']

end PathRouter.Text
