/-
Reading pattern text. The reader keeps the groups that are open, each with the alternatives and
the pieces read in it, and every step takes at least one character. Pieces remember how deep they
nest, because nesting is limited.
-/
import PathRouter.Regex.Class

namespace PathRouter.Regex

/-- The deepest nesting of a pattern text. -/
def maxHeight : Nat := 250

/-- The most bytes that a program may take: 10 MiB. -/
def maxSize : Nat := 10485760

/-- The bytes that every program takes around that of its expression: for where it is entered, for where the match
begins and ends, and for the report of it. -/
def frameSize : Nat := 128

/-- A piece of a concatenation: an expression and how deep it nests. A change of modes is a piece
that matches nothing and cannot be repeated. -/
structure Piece where
  regex : Regex
  height : Nat
  modes : Bool

namespace Piece

/-- A piece that nests nothing. -/
def leaf (r : Regex) : Piece := ⟨r, 0, false⟩

/-- The pieces, newest first, one after another. -/
def concat : List Piece → Piece
  | [] => leaf .empty
  | [p] => ⟨.concat p.regex .empty, p.height, false⟩
  | ps => ⟨concatAll (ps.reverse.map (·.regex)), 1 + (ps.map (·.height)).foldl max 0, false⟩

/-- A last alternative after earlier ones, newest first. -/
def alternatives (last : Piece) : List Piece → Piece
  | [] => last
  | ps =>
    let all := (last :: ps).reverse
    ⟨altAll (all.headD last).regex (all.tail.map (·.regex)),
      1 + (all.map (·.height)).foldl max 0, false⟩

end Piece

/-- A group that is open: its index if it is counted, the modes to return to, and what was read
around it. -/
structure OpenGroup where
  index : Option Nat
  flags : Flags
  pieces : List Piece
  branches : List Piece

/-- The state of the reader: the modes, the number of counted groups so far and their names, the
pieces of the current alternative and the earlier alternatives, both newest first, and the open
groups, innermost first. -/
structure Reader where
  flags : Flags
  groups : Nat
  names : List (Nat × Text)
  pieces : List Piece
  branches : List Piece
  outer : List OpenGroup

namespace Reader

/-- The reader at the start of a pattern text. -/
def start (anyCase : Bool) : Reader :=
  ⟨.initial anyCase, 0, [], [], [], []⟩

/-- With one more piece. -/
def add (b : Reader) (p : Piece) : Reader :=
  { b with pieces := p :: b.pieces }

/-- What was read in the current group. -/
def body (b : Reader) : Piece :=
  (Piece.concat b.pieces).alternatives b.branches

/-- Begins a further alternative. -/
def alternate (b : Reader) : Reader :=
  { b with pieces := [], branches := Piece.concat b.pieces :: b.branches }

/-- Opens a group that is read with the given modes. -/
def openGroup (b : Reader) (index : Option Nat) (flags : Flags) : Reader :=
  { b with
    flags, pieces := [], branches := []
    outer := ⟨index, b.flags, b.pieces, b.branches⟩ :: b.outer }

/-- Opens a counted group. -/
def openCounted (b : Reader) : Reader :=
  { b.openGroup (some (b.groups + 1)) b.flags with groups := b.groups + 1 }

/-- Closes the innermost group. -/
def closeGroup (b : Reader) : Except PatternError Reader :=
  match b.outer with
  | [] => .error .groupUnopened
  | g :: outer =>
    let p := b.body
    let r := match g.index with
      | some i => .group i p.regex
      | none => p.regex
    .ok { b with
      flags := g.flags
      pieces := ⟨r, 1 + p.height, false⟩ :: g.pieces
      branches := g.branches
      outer }

/-- Whether a character may stand in the name of a group. -/
def isNameChar (first : Bool) (c : Char) : Bool :=
  c == '_' || Unicode.isAlphabetic c ||
    (!first && (c == '.' || c == '[' || c == ']' || Unicode.isNumeric c))

/-- Opens the group whose name begins the text. -/
def openNamed (b : Reader) (t : Text) : Except PatternError (Reader × Text) :=
  let name := t.takeWhile (· != '>')
  match t.dropWhile (· != '>') with
  | [] => .error .groupUnclosed
  | _ :: rest =>
    match name with
    | [] => .error .groupNameEmpty
    | c :: cs =>
      if !(isNameChar true c && cs.all (isNameChar false)) then .error .groupNameInvalid
      else if b.names.any (·.2 == name) then .error .groupNameRepeated
      else
        let b := b.openCounted
        .ok ({ b with names := b.names ++ [(b.groups, name)] }, rest)

/-- The mode letters up to `:` or `)`: the modes they set, whether there were any, which of the two
ended them, and the text after it. A letter may stand once, and so may the hyphen that turns modes
off; it must not stand last. -/
def readModes (seen : List Char) (f : Flags) : Text →
    Except PatternError (Flags × Bool × Char × Text)
  | [] => .error .flagsUnclosed
  | c :: t =>
    if c == ':' || c == ')' then
      if seen.head? == some '-' then .error .flagMissing else .ok (f, !seen.isEmpty, c, t)
    else if seen.contains c then .error .flagRepeated
    else if c == '-' then readModes (c :: seen) f t
    else match f.set? c (!seen.contains '-') with
      | some f => readModes (c :: seen) f t
      | none => .error .flagUnknown

/-- What follows an opening parenthesis: a group or a change of modes. -/
def readGroup (b : Reader) (t : Text) : Except PatternError (Reader × Text) :=
  match b.flags.skip t with
  | '?' :: '=' :: _ | '?' :: '!' :: _ | '?' :: '<' :: '=' :: _ | '?' :: '<' :: '!' :: _ =>
    .error .lookAround
  | '?' :: 'P' :: '<' :: t | '?' :: '<' :: t => b.openNamed t
  | '?' :: [] => .error .groupUnclosed
  | '?' :: t => do
    let (flags, any, stop, rest) ← readModes [] b.flags t
    if stop == ':' then return (b.openGroup none flags, rest)
    else if any then return ({ b with flags }.add ⟨.empty, 0, true⟩, rest)
    else .error .nothingToRepeat
  | t => .ok (b.openCounted, t)

/-- Repeats the latest piece. -/
def repeatLatest (b : Reader) (greedy : Bool) (min : Nat) (max : Option Nat) :
    Except PatternError Reader :=
  match b.pieces with
  | [] => .error .nothingToRepeat
  | p :: ps =>
    if p.modes then .error .nothingToRepeat
    else
      let r := repetition (greedy != b.flags.swapGreed) min max p.regex
      .ok { b with pieces := ⟨r, 1 + p.height, false⟩ :: ps }

/-- Whether a question mark makes the repetition before it lazy, and the text after it. -/
def readLazy : Text → Bool × Text
  | '?' :: t => (true, t)
  | t => (false, t)

/-- A repetition without numbers. -/
def readRepetition (b : Reader) (min : Nat) (max : Option Nat) (t : Text) :
    Except PatternError (Reader × Text) := do
  let (isLazy, t) := readLazy t
  return (← b.repeatLatest (!isLazy) min max, t)

/-- The leading digits, in reverse, and the text after them. The first argument bounds their
number. -/
def readDigits (f : Flags) : Nat → Text → Text → Text × Text
  | k + 1, digits, c :: t =>
    if c.isDigit then readDigits f k (c :: digits) (f.skip t) else (digits, c :: t)
  | _, digits, t => (digits, t)

/-- The text after blanks, and in verbose text after comments that follow a blank. The first
argument bounds the number of characters. -/
def skipAroundCount (f : Flags) : Nat → Text → Text
  | k + 1, c :: t => if Unicode.isBlank c then skipAroundCount f k (f.skip t) else c :: t
  | _, t => t

/-- A count with the blanks around it: nothing where no digit stands. -/
def readCount (f : Flags) (t : Text) : Except PatternError (Option Nat × Text) :=
  let t := t.dropWhile Unicode.isBlank
  let (digits, t) := readDigits f t.length [] t
  let n := digits.foldr (fun c n => 10 * n + (c.toNat - '0'.toNat)) 0
  let t := skipAroundCount f t.length t
  if digits.isEmpty then .ok (none, t)
  else if n < Nat.pow 2 32 then .ok (some n, t)
  else .error .countRange

/-- A repetition with numbers, in the text after its opening brace. -/
def readCounted (b : Reader) (t : Text) : Except PatternError (Reader × Text) := do
  let f := b.flags
  let (min, t) ← readCount f (f.skip t)
  let (min, max, t) ← match t with
    | [] => throw .countUnclosed
    | ',' :: t =>
      match f.skip t, min with
      | [], _ => throw .countUnclosed
      | _, none => throw .countMissing
      | '}' :: t, some m => pure (m, none, '}' :: t)
      | t, some m => do
        match ← readCount f t with
        | (some n, t) => pure (m, some n, t)
        | (none, _) => throw .countMissing
    | t =>
      match min with
      | some m => pure (m, some m, t)
      | none => throw .countMissing
  match t with
  | '}' :: t =>
    let (isLazy, t) := readLazy (f.skip t)
    if max.any (· < min) then throw .countRange
    else return (← b.repeatLatest (!isLazy) min max, t)
  | _ => throw .countUnclosed

/-- One step: what the character `c` and the text after it begin with. -/
def step (b : Reader) (c : Char) (t : Text) : Except PatternError (Reader × Text) :=
  match c with
  | '(' => b.readGroup t
  | ')' => do return (← b.closeGroup, t)
  | '|' => .ok (b.alternate, t)
  | '[' => do
    let (p, rest) ← ClassPart.read b.flags t
    return (b.add ⟨.chars p.set, p.height, false⟩, rest)
  | '?' => b.readRepetition 0 (some 1) t
  | '*' => b.readRepetition 0 none t
  | '+' => b.readRepetition 1 none t
  | '{' => b.readCounted t
  | '\\' => do
    let (e, rest) ← Escape.read b.flags t
    let r := match e with
      | .literal c => .chars (b.flags.literal c)
      | .set s => .chars s
      | .assertion a => .assert a
    return (b.add (.leaf r), rest)
  | '.' => do return (b.add (.leaf (.chars (← b.flags.dot))), t)
  | '^' => .ok (b.add (.leaf (.assert b.flags.caret)), t)
  | '$' => .ok (b.add (.leaf (.assert b.flags.dollar)), t)
  | c => .ok (b.add (.leaf (.chars (b.flags.literal c))), t)

/-- Reads the whole text. The first argument bounds the number of steps. -/
def run : Nat → Reader → Text → Except PatternError Reader
  | 0, b, _ => .ok b
  | k + 1, b, t =>
    match b.flags.skip t with
    | [] => .ok b
    | c :: t => do
      let (b, t) ← b.step c t
      run k b t

/-- What was read, if every group is closed, nothing nests too deep and its program need not be too large. -/
def finish (b : Reader) : Except PatternError (Regex × List (Nat × Text)) :=
  if !b.outer.isEmpty then .error .groupUnclosed
  else if maxHeight < b.body.height then .error .tooDeep
  else
    let r := b.body.regex
    if maxSize < frameSize + r.leastSize then .error .tooLarge
    else .ok (r, b.names.filter fun (i, _) => r.hasGroup i)

end Reader

end PathRouter.Regex

namespace PathRouter

/-- A regular expression with the text it was read from and the names of its groups. -/
structure Expression where
  source : Text
  regex : Regex
  names : List (Nat × Text)

namespace Expression

/-- Reads a pattern text; `anyCase` is whether case is ignored from the start. -/
def parse (anyCase : Bool) (source : Text) : Except PatternError Expression := do
  let b ← Regex.Reader.run source.length (.start anyCase) source
  let (regex, names) ← b.finish
  return { source, regex, names }

end Expression

end PathRouter
