/-
The scanner of parameters: one pass over the characters of a segment behind its colon. It keeps byte offsets and cuts
the parts of a parameter out of the text by these, which fails where an offset lies inside a character.
-/
import PathRouter.Template.Segment
import PathRouter.Text.Slice

namespace PathRouter.Param

/-- Where the scanner is: in the name, in parentheses behind it, or past both. The text in the parentheses begins at the
offset `start`, and `depth` further parentheses are open in it. -/
inductive Place where
  | name
  | matcher (start depth : Nat)
  | modifiers
  deriving DecidableEq, Repr

/-- The scanner, with the offset where the name ends and the parts that were found. -/
structure Scanner where
  place : Place
  nameEnd : Nat
  optional : Bool
  matcher : Option Text
  suffix : Option Text
  deriving DecidableEq, Repr

/-- Whether the scanner goes on behind a character. -/
inductive Scanned where
  | next (s : Scanner)
  | stop (s : Scanner)
  deriving DecidableEq, Repr

namespace Scanner

/-- The scanner before the first character. As long as no end of the name was found, it is the end of the text. -/
def start (body : Text) : Scanner :=
  ⟨.name, Text.byteLength body, false, none, none⟩

/-- Takes the character at an offset. The suffix is the rest of the text, so there is nothing to scan behind it. -/
def step (body : Text) (offset : Nat) (c : Char) (s : Scanner) : Option Scanned :=
  match s.place with
  | .name =>
    if c = '(' then some (.next { s with nameEnd := offset, place := .matcher (offset + 1) 0 })
    else if c = '?' then some (.next { s with nameEnd := offset, optional := true, place := .modifiers })
    else if c = '.' then
      (Text.from? body offset).map fun t => .stop { s with nameEnd := offset, suffix := some t }
    else some (.next s)
  | .matcher start depth =>
    if c = '(' then some (.next { s with place := .matcher start (depth + 1) })
    else if c = ')' then
      match depth with
      | 0 => (Text.slice? body start offset).map fun t => .next { s with matcher := some t, place := .modifiers }
      | d + 1 => some (.next { s with place := .matcher start d })
    else some (.next s)
  | .modifiers =>
    if c = '?' then some (.next { s with optional := true })
    else if c = '.' then (Text.from? body offset).map fun t => .stop { s with suffix := some t }
    else some (.next s)

/-- Takes the characters from an offset on. -/
def run (body : Text) : Nat → Text → Scanner → Option Scanner
  | _, [], s => some s
  | offset, c :: t, s =>
    match s.step body offset c with
    | none => none
    | some (.stop s) => some s
    | some (.next s) => run body (offset + c.utf8Size) t s

/-- The parameter that was found. Parentheses that are still open hold the rest of the text. -/
def finish (body : Text) (s : Scanner) : Option Param := do
  let matcher ← match s.place with
    | .matcher start _ => (Text.from? body start).map some
    | .name | .modifiers => some s.matcher
  return ⟨← Text.slice? body 0 s.nameEnd, s.optional, matcher, s.suffix⟩

end Scanner

/-- The parameter written in a segment behind its colon, as the scanner finds it. -/
def scan? (body : Text) : Option Param :=
  ((Scanner.start body).run body 0 body).bind (Scanner.finish body)

end PathRouter.Param
