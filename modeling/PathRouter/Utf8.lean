/-
UTF-8: the bytes of a text, and reading bytes back. Reading stops at the first place where the
bytes are no text, and says how many bytes are wrong there, or that the last character is cut off.
-/
import PathRouter.Text

namespace PathRouter.Utf8

/-- The bytes of a character. -/
def encodeChar (c : Char) : List Nat :=
  let n := c.toNat
  if n < 0x80 then [n]
  else if n < 0x800 then [0xC0 + n / 64, 0x80 + n % 64]
  else if n < 0x10000 then [0xE0 + n / 4096, 0x80 + n / 64 % 64, 0x80 + n % 64]
  else [0xF0 + n / 262144, 0x80 + n / 4096 % 64, 0x80 + n / 64 % 64, 0x80 + n % 64]

/-- The bytes of a text. -/
def encode (t : Text) : List Nat :=
  t.flatMap encodeChar

/-- Bytes that are no text: the number of bytes before the fault, and the number of bytes that are
wrong there, or none if the bytes end inside a character. -/
structure Error where
  validUpTo : Nat
  length : Option Nat
  deriving DecidableEq, Repr

/-- The wording of an error. -/
def Error.message (e : Error) : Text :=
  let index := Nat.toDigits 10 e.validUpTo
  match e.length with
  | some n =>
    "invalid utf-8 sequence of ".toList ++ Nat.toDigits 10 n ++ " bytes from index ".toList ++ index
  | none => "incomplete utf-8 byte sequence from index ".toList ++ index

/-- Whether a byte continues a character. -/
def isTail (b : Nat) : Bool :=
  0x80 ≤ b && b < 0xC0

/-- The number of bytes of the character that a byte begins; 0 if it begins none. -/
def width (first : Nat) : Nat :=
  if first < 0x80 then 1
  else if 0xC2 ≤ first && first < 0xE0 then 2
  else if 0xE0 ≤ first && first < 0xF0 then 3
  else if 0xF0 ≤ first && first < 0xF5 then 4
  else 0

/-- Whether a byte can be the second one of a character. Overlong forms, surrogates and numbers
beyond the last code point are ruled out here. -/
def isSecond (first b : Nat) : Bool :=
  let low := if first = 0xE0 then 0xA0 else if first = 0xF0 then 0x90 else 0x80
  let high := if first = 0xED then 0xA0 else if first = 0xF4 then 0x90 else 0xC0
  low ≤ b && b < high

/-- What follows the first byte of a character: all its other bytes, fewer of them before a byte
that does not fit, or fewer of them before the end. -/
inductive Tails where
  | complete
  | misfit (seen : Nat)
  | cutOff
  deriving DecidableEq, Repr

/-- What follows the byte `first`, of whose character `seen` further bytes were seen and `need` are
left. -/
def tails (first seen : Nat) : Nat → List Nat → Tails
  | 0, _ => .complete
  | _ + 1, [] => .cutOff
  | need + 1, b :: bs =>
    if (if seen = 0 then isSecond first b else isTail b) then tails first (seen + 1) need bs
    else .misfit seen

/-- The code point that the bytes of a character spell. -/
def codePoint (first : Nat) (tails : List Nat) : Nat :=
  let lead := match tails.length with
    | 0 => first
    | 1 => first - 0xC0
    | 2 => first - 0xE0
    | _ => first - 0xF0
  tails.foldl (fun n b => n * 64 + (b - 0x80)) lead

/-- The text that the bytes from position `pos` on spell. The first argument bounds the number of
characters. -/
def decodeFrom : Nat → Nat → List Nat → Except Error Text
  | 0, _, _ => .ok []
  | _, _, [] => .ok []
  | k + 1, pos, b :: bs =>
    match width b with
    | 0 => .error ⟨pos, some 1⟩
    | w + 1 =>
      match tails b 0 w bs with
      | .cutOff => .error ⟨pos, none⟩
      | .misfit seen => .error ⟨pos, some (seen + 1)⟩
      | .complete => do
        let rest ← decodeFrom k (pos + w + 1) (bs.drop w)
        return Char.ofNat (codePoint b (bs.take w)) :: rest

/-- The text that the bytes spell. -/
def decode (bytes : List Nat) : Except Error Text :=
  decodeFrom bytes.length 0 bytes

end PathRouter.Utf8
