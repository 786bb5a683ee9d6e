/-
The segments of a route template: the pieces between its slashes, each a literal, a parameter or a
wildcard. Every piece is some segment; nothing is refused here.
-/
import PathRouter.Text

namespace PathRouter

/-- A parameter segment: the name, whether it may be missing, the pattern in parentheses directly
after the name, and the fixed text from the first dot on, the dot included. -/
structure Param where
  name : Text
  optional : Bool
  matcher : Option Text
  suffix : Option Text
  deriving DecidableEq, Repr

namespace Param

/-- Splits a text behind `depth + 1` open parentheses where the outermost one closes: the text
before the closing parenthesis and the text after it. -/
def splitClosed : Nat → Text → Option (Text × Text)
  | _, [] => none
  | depth, c :: t =>
    let within (r : Option (Text × Text)) := r.map fun (inside, rest) => (c :: inside, rest)
    if c = '(' then within (splitClosed (depth + 1) t)
    else if c = ')' then
      match depth with
      | 0 => some ([], t)
      | d + 1 => within (splitClosed d t)
    else within (splitClosed depth t)

/-- The parameter whose name and matcher are known, with the rest of its segment: a question mark
before the first dot makes it optional, the text from the first dot on is its suffix, and any
other text is dropped. -/
def withModifiers (name : Text) (matcher : Option Text) (rest : Text) : Param where
  name
  matcher
  optional := Text.has (rest.takeWhile (· != '.')) '?'
  suffix := match rest.dropWhile (· != '.') with
    | [] => none
    | suffix => some suffix

/-- Whether a character ends the name of a parameter. -/
def endsName (c : Char) : Bool :=
  c == '(' || c == '?' || c == '.'

/-- The parameter written in a segment after its colon. A parenthesis that is never closed takes
everything after it as the matcher. -/
def parse (body : Text) : Param :=
  let name := body.takeWhile (!endsName ·)
  match body.dropWhile (!endsName ·) with
  | '(' :: rest =>
    match splitClosed 0 rest with
    | some (matcher, rest) => withModifiers name (some matcher) rest
    | none => ⟨name, false, some rest, none⟩
  | rest => withModifiers name none rest

end Param

/-- A segment of a route template. -/
inductive Segment where
  | empty
  | literal (text : Text)
  | param (p : Param)
  | wildcard (optional : Bool)
  deriving DecidableEq, Repr

namespace Segment

/-- The segment that a piece between two slashes is. Text after the star of a wildcard counts for
nothing but the question mark that makes it optional. -/
def parse : Text → Segment
  | [] => empty
  | '*' :: rest => wildcard (rest.head? == some '?')
  | ':' :: body => param (.parse body)
  | text => literal text

end Segment

namespace Template

/-- The key under which wildcards are recorded. -/
def wildcardKey : Text := "wild".toList

/-- The pieces of a template between its slashes, without the empty piece before a leading
slash. -/
def pieces (t : Text) : List Text :=
  match Text.split '/' t with
  | [] :: rest => rest
  | all => all

/-- The segments of a template. -/
def segments (t : Text) : List Segment :=
  (pieces t).map Segment.parse

end Template

end PathRouter
