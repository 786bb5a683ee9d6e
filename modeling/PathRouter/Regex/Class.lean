/-
Bracketed character classes: members, ranges, named ASCII classes, nested classes and the set
operations `&&`, `--` and `~~`, which all bind alike and to the left.
-/
import PathRouter.Regex.Escape

namespace PathRouter.Regex

/-- A part of a class: its members and how deep classes nest in it. -/
structure ClassPart where
  set : CharSet
  height : Nat

namespace ClassPart

/-- A set without nested classes. -/
def flat (s : CharSet) : ClassPart := ⟨s, 0⟩

/-- The parts side by side. -/
def union (parts : List ClassPart) : ClassPart where
  set c := parts.any (·.set c)
  height := match parts with
    | [] => 0
    | [p] => p.height
    | ps => 1 + (ps.map (·.height)).foldl max 0

end ClassPart

/-- An operation on the sets to its left and right. -/
inductive ClassOp where
  | inter
  | diff
  | symmDiff

namespace ClassOp

/-- The result of the operation. -/
def apply (op : ClassOp) (s t : CharSet) : CharSet :=
  match op with
  | inter => s.inter t
  | diff => s.diff t
  | symmDiff => s.symmDiff t

end ClassOp

/-- An open class: the operation that waits for its right side, with its left side, and the parts
read since, newest first. -/
structure OpenClass where
  negated : Bool
  left : Option (ClassPart × ClassOp)
  parts : List ClassPart

namespace OpenClass

/-- With one more part. -/
def add (o : OpenClass) (p : ClassPart) : OpenClass :=
  { o with parts := p :: o.parts }

/-- What was read so far; when case is ignored, so it is on both sides of an operation. -/
def joined (f : Flags) (o : OpenClass) : ClassPart :=
  let right := ClassPart.union o.parts
  match o.left with
  | none => right
  | some (left, op) =>
    ⟨op.apply (f.foldCase left.set) (f.foldCase right.set), 1 + max left.height right.height⟩

/-- After an operation, everything read so far is its left side. -/
def operate (f : Flags) (o : OpenClass) (op : ClassOp) : OpenClass :=
  { o with left := some (o.joined f, op), parts := [] }

/-- The class as a part, once its bracket is closed. -/
def close (f : Flags) (o : OpenClass) : Except PatternError ClassPart := do
  let p := o.joined f
  let s := f.foldCase p.set
  return ⟨← if o.negated then f.complement s else pure s, 1 + p.height⟩

end OpenClass

namespace ClassPart

/-- The ASCII classes by name. -/
def ascii? (name : Text) : Option CharSet :=
  match String.ofList name with
  | "alnum" => some Char.isAlphanum
  | "alpha" => some Char.isAlpha
  | "ascii" => some fun c => c.val < 128
  | "blank" => some fun c => c == '\t' || c == ' '
  | "cntrl" => some fun c => c.val < 32 || c.val == 127
  | "digit" => some Char.isDigit
  | "graph" => some (CharSet.range '!' '~')
  | "lower" => some Char.isLower
  | "print" => some (CharSet.range ' ' '~')
  | "punct" => some fun c => '!' ≤ c && c ≤ '~' && !c.isAlphanum
  | "space" => some Unicode.isAsciiBlank
  | "upper" => some Char.isUpper
  | "word" => some Unicode.isAsciiWord
  | "xdigit" => some fun c => (Escape.hexValue? c).isSome
  | _ => none

/-- A named ASCII class in the text after its opening bracket, and what follows it. Text that is
not quite a named class is none at all. -/
def namedAscii? (f : Flags) (t : Text) : Option (Except PatternError ClassPart × Text) :=
  match t with
  | ':' :: t =>
    let (negated, t) := match t with
      | '^' :: t => (true, t)
      | t => (false, t)
    match t.dropWhile (· != ':') with
    | ':' :: ']' :: rest =>
      (ascii? (t.takeWhile (· != ':'))).map fun s =>
        let s := f.foldCase s
        ((if negated then f.complement s else .ok s).map flat, rest)
    | _ => none
  | _ => none

/-- One member: an escape or a character that stands for itself. -/
def member (f : Flags) : Text → Except PatternError (Escape × Text)
  | [] => .error .classUnclosed
  | '\\' :: t => Escape.read f t
  | c :: t => .ok (.literal c, t)

/-- A member as a part; assertions are no members. -/
def ofMember (f : Flags) : Escape → Except PatternError ClassPart
  | .literal c =>
    if !f.unicode && 128 ≤ c.val then .error .notCharacters else .ok (flat (CharSet.single c))
  | .set s => .ok (flat s)
  | .assertion _ => .error .classMember

/-- The character after a hyphen, as far as it decides whether the hyphen makes a range: blanks
and the mark of one comment are passed over in verbose text. -/
def afterHyphen (f : Flags) (t : Text) : Option Char :=
  if f.verbose then
    match t.dropWhile Unicode.isBlank with
    | '#' :: u =>
      match u.dropWhile Unicode.isBlank with
      | c :: _ => some c
      | [] => t.head?
    | c :: _ => some c
    | [] => t.head?
  else t.head?

/-- A member or a range, and what follows it. A hyphen before `]` or before another hyphen makes
no range. -/
def memberOrRange (f : Flags) (t : Text) : Except PatternError (ClassPart × Text) := do
  let (first, t) ← member f t
  let t := f.skip t
  match t with
  | [] => .error .classUnclosed
  | c :: u =>
    let next := afterHyphen f u
    if c != '-' || next == some ']' || next == some '-' then return (← ofMember f first, t)
    else match f.skip u with
      | [] => .error .classUnclosed
      | v => do
        let (second, rest) ← member f v
        match first, second with
        | .literal lo, .literal hi =>
          if !f.unicode && (128 ≤ lo.val || 128 ≤ hi.val) then .error .notCharacters
          else if lo ≤ hi then return (flat (CharSet.range lo hi), rest)
          else .error .classRange
        | _, _ => .error .classRange

/-- The hyphens that open a class, as members. The first argument bounds their number. -/
def openingHyphens (f : Flags) : Nat → List ClassPart → Text → List ClassPart × Text
  | k + 1, parts, '-' :: t => openingHyphens f k (flat (CharSet.single '-') :: parts) (f.skip t)
  | _, parts, t => (parts, t)

/-- The beginning of a class, in the text after its bracket: `^` negates, and what stands first is
a member even if it is a hyphen or a closing bracket. -/
def openClass (f : Flags) (t : Text) : Except PatternError (OpenClass × Text) :=
  let t := f.skip t
  let (negated, t) := match t with
    | '^' :: t => (true, f.skip t)
    | t => (false, t)
  let (parts, t) := openingHyphens f t.length [] t
  let (parts, t) := match parts, t with
    | [], ']' :: t => ([flat (CharSet.single ']')], f.skip t)
    | parts, t => (parts, t)
  if t.isEmpty then .error .classUnclosed else .ok (⟨negated, none, parts⟩, t)

/-- The rest of a class that is open inside the `outer` ones, innermost first, up to the bracket
that closes the outermost. The first argument bounds the number of characters. -/
def readOpen (f : Flags) : Nat → OpenClass → List OpenClass → Text →
    Except PatternError (ClassPart × Text)
  | 0, _, _, _ => .error .classUnclosed
  | k + 1, o, outer, t =>
    match f.skip t with
    | [] => .error .classUnclosed
    | '[' :: u =>
      match namedAscii? f u with
      | some (part, rest) => do readOpen f k (o.add (← part)) outer rest
      | none => do
        let (inner, rest) ← openClass f u
        readOpen f k inner (o :: outer) rest
    | ']' :: u => do
      let part ← o.close f
      match outer with
      | [] => return (part, u)
      | p :: outer => readOpen f k (p.add part) outer u
    | '&' :: '&' :: u => readOpen f k (o.operate f .inter) outer u
    | '-' :: '-' :: u => readOpen f k (o.operate f .diff) outer u
    | '~' :: '~' :: u => readOpen f k (o.operate f .symmDiff) outer u
    | u => do
      let (part, rest) ← memberOrRange f u
      readOpen f k (o.add part) outer rest

/-- The class in the text after its opening bracket, and what follows it. -/
def read (f : Flags) (t : Text) : Except PatternError (ClassPart × Text) := do
  let (o, rest) ← openClass f t
  readOpen f t.length o [] rest

end ClassPart

end PathRouter.Regex
