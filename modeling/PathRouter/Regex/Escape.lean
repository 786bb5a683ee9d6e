/-
Escapes in pattern text: what a backslash and the characters after it stand for, inside and
outside of a bracketed class.
-/
import PathRouter.Regex.Property

namespace PathRouter.Regex

/-- What an escape stands for. -/
inductive Escape where
  | literal (c : Char)
  | set (s : CharSet)
  | assertion (a : Assertion)

namespace Escape

/-- The value of a hexadecimal digit. -/
def hexValue? (c : Char) : Option Nat :=
  if c.isDigit then some (c.toNat - '0'.toNat)
  else if 'a' ≤ c && c ≤ 'f' then some (c.toNat - 'a'.toNat + 10)
  else if 'A' ≤ c && c ≤ 'F' then some (c.toNat - 'A'.toNat + 10)
  else none

/-- The character with a code point; surrogates and numbers beyond the last one have none. -/
def character (code : Nat) : Except PatternError Escape :=
  if h : code.isValidChar then .ok (.literal (Char.ofNatAux code h)) else .error .codePoint

/-- A fixed number of hexadecimal digits after `value`. -/
def fixedHex (f : Flags) (value : Nat) : Nat → Text → Except PatternError (Escape × Text)
  | 0, t => do return (← character value, t)
  | _ + 1, [] => .error .escapeUnfinished
  | k + 1, c :: t =>
    match hexValue? c with
    | some d => fixedHex f (16 * value + d) k (f.skip t)
    | none => .error .codePoint

/-- The hexadecimal digits up to the closing brace; `digits` is what was read so far. The first
argument bounds the number of characters. -/
def bracedHex (f : Flags) : Nat → List Nat → Text → Except PatternError (Escape × Text)
  | 0, _, _ | _, _, [] => .error .escapeUnfinished
  | k + 1, digits, c :: t =>
    if c == '}' then
      if digits.isEmpty then .error .codePoint
      else do return (← character (digits.foldr (fun d n => 16 * n + d) 0), f.skip t)
    else match hexValue? c with
      | some d => bracedHex f k (d :: digits) (f.skip t)
      | none => .error .codePoint

/-- A code point, in braces or as `width` digits. Where text is not read as characters, two digits
are a byte, and a byte beyond ASCII is no character. -/
def hex (f : Flags) (width : Nat) (t : Text) : Except PatternError (Escape × Text) :=
  match f.skip t with
  | [] => .error .escapeUnfinished
  | '{' :: t => bracedHex f (t.length + 1) [] (f.skip t)
  | t => do
    let (e, rest) ← fixedHex f 0 width t
    match e with
    | .literal c =>
      if !f.unicode && width == 2 && 128 ≤ c.val then .error .notCharacters else return (e, rest)
    | _ => return (e, rest)

/-- The characters up to the closing brace, in reverse. The first argument bounds their number. -/
def bracedName (f : Flags) : Nat → Text → Text → Except PatternError (Text × Text)
  | 0, _, _ | _, _, [] => .error .escapeUnfinished
  | k + 1, name, c :: t =>
    if c == '}' then .ok (name, t) else bracedName f k (c :: name) (f.skip t)

/-- A set of characters by name, or all others. -/
def property (f : Flags) (negated : Bool) (t : Text) : Except PatternError (Escape × Text) := do
  let (name, t) ←
    match f.skip t with
    | [] => .error .escapeUnfinished
    | '{' :: t => do
      let (name, t) ← bracedName f (t.length + 1) [] (f.skip t)
      pure (name.reverse, t)
    | '\\' :: _ => .error .propertyUnknown
    | c :: t => pure ([c], f.skip t)
  if !f.unicode then .error .notCharacters
  else match Property.set? name with
    | some s => return (.set (if negated then (f.foldCase s).compl else f.foldCase s), t)
    | none => .error .propertyUnknown

/-- The letters and hyphens of a boundary name, in reverse, and the text after them. The first
argument bounds their number. -/
def boundaryName (f : Flags) : Nat → Text → Text → Text × Text
  | 0, name, t => (name, t)
  | _, name, [] => (name, [])
  | k + 1, name, c :: t =>
    if c.isAlpha || c == '-' then boundaryName f k (c :: name) (f.skip t) else (name, c :: t)

/-- What `\b` asserts: braces that begin with a letter or a hyphen name a special boundary, other
braces belong to what follows. -/
def boundary (f : Flags) (t : Text) : Except PatternError (Escape × Text) :=
  let plain := (Escape.assertion (.wordBoundary f.word), t)
  match t with
  | '{' :: inner =>
    match f.skip inner with
    | [] => .error .wordBoundaryUnknown
    | c :: u =>
      if c.isAlpha || c == '-' then
        let (name, rest) := boundaryName f (u.length + 1) [] (c :: u)
        match rest with
        | '}' :: rest =>
          match String.ofList name.reverse with
          | "start" => .ok (.assertion (.wordStart f.word), rest)
          | "end" => .ok (.assertion (.wordEnd f.word), rest)
          | "start-half" => .ok (.assertion (.wordStartHalf f.word), rest)
          | "end-half" => .ok (.assertion (.wordEndHalf f.word), rest)
          | _ => .error .wordBoundaryUnknown
        | _ => .error .wordBoundaryUnknown
      else .ok plain
  | _ => .ok plain

/-- The escape in the text after a backslash, and what follows it. Every ASCII character that is
no letter, no digit and no angle bracket stands for itself. -/
def read (f : Flags) : Text → Except PatternError (Escape × Text)
  | [] => .error .escapeUnfinished
  | c :: t =>
    match c with
    | 'x' => hex f 2 t
    | 'u' => hex f 4 t
    | 'U' => hex f 8 t
    | 'p' => property f false t
    | 'P' => property f true t
    | 'd' => .ok (.set f.digit, t)
    | 's' => .ok (.set f.blank, t)
    | 'w' => .ok (.set f.word, t)
    | 'D' => do return (.set (← f.complement f.digit), t)
    | 'S' => do return (.set (← f.complement f.blank), t)
    | 'W' => do return (.set (← f.complement f.word), t)
    | 'a' => .ok (.literal '\x07', t)
    | 'f' => .ok (.literal '\x0c', t)
    | 't' => .ok (.literal '\t', t)
    | 'n' => .ok (.literal '\n', t)
    | 'r' => .ok (.literal '\r', t)
    | 'v' => .ok (.literal '\x0b', t)
    | 'A' => .ok (.assertion .textStart, t)
    | 'z' => .ok (.assertion .textEnd, t)
    | 'b' => boundary f t
    | 'B' => .ok (.assertion (Assertion.wordBoundary f.word).negate, t)
    | '<' => .ok (.assertion (.wordStart f.word), t)
    | '>' => .ok (.assertion (.wordEnd f.word), t)
    | c =>
      if c.isDigit then .error .backreference
      else if c.isAlpha || 128 ≤ c.val then .error .escapeUnknown
      else .ok (.literal c, t)

end Escape

end PathRouter.Regex
