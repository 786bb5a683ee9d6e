/-
Compiled patterns and what they capture. A loose pattern ends with a group of its own, which
callers never see: it is not among the groups, and the reported match ends where it begins.
-/
import PathRouter.Regex.Parser
import PathRouter.Regex.Search
import PathRouter.Template.Source
import PathRouter.Text.Quoted

namespace PathRouter

/-- How a pattern ends: as a strict or a loose template does, or in an unknown way. -/
inductive Tail where
  | strict
  | loose
  | unknown
  deriving DecidableEq, Repr

/-- The name of an ending. -/
def Tail.name : Tail → String
  | .strict => "Strict"
  | .loose => "Loose"
  | .unknown => "Opaque"

/-- The ending of a template compiled in a mode. -/
def Template.Mode.tail : Template.Mode → Tail
  | .strict => .strict
  | .loose => .loose

/-- A regular expression with the way it ends. -/
structure Pattern where
  expression : Expression
  tail : Tail

/-- A match as callers see it: the matched text with the spans of all groups, the position where
the reported match ends, the number of visible groups, and the names of the groups. -/
structure Captures where
  path : Text
  found : Match
  stop : Nat
  count : Nat
  names : List (Nat × Text)

namespace Captures

/-- The reported part of the path. -/
def matched (c : Captures) : Text :=
  (c.path.take c.stop).drop c.found.start

/-- The rest of the path after the reported part. -/
def rest (c : Captures) : Text :=
  c.path.drop c.stop

/-- The number of bytes before the end of the reported part. -/
def offset (c : Captures) : Nat :=
  Text.byteLength (c.path.take c.stop)

/-- The text of a visible group, if it took part; groups count from 1. -/
def get? (c : Captures) (i : Nat) : Option Text :=
  if i = 0 || c.count < i then none else c.found.text? c.path i

/-- The texts of the visible groups, in order. -/
def groups (c : Captures) : List (Option Text) :=
  (List.range c.count).map fun i => c.get? (i + 1)

/-- The text of a named group, if it took part. -/
def named? (c : Captures) (name : Text) : Option Text :=
  (c.names.find? (·.2 == name)).bind fun (i, _) => c.found.text? c.path i

end Captures

namespace Pattern

/-- The pattern text. -/
def source (p : Pattern) : Text :=
  p.expression.source

/-- Whether the pattern was compiled from a loose template. -/
def isLoose (p : Pattern) : Bool :=
  p.tail == .loose

/-- The number of visible groups. -/
def groupCount (p : Pattern) : Nat :=
  let all := p.expression.regex.groupCount
  if p.isLoose then all - 1 else all

/-- The names of the visible groups, in the order of the groups. -/
def groupNames (p : Pattern) : List (Nat × Text) :=
  p.expression.names.filter fun (i, _) => i ≤ p.groupCount

/-- Whether the pattern matches somewhere in the path. -/
def isMatch (p : Pattern) (path : Text) : Bool :=
  p.expression.regex.isMatch path

/-- What the pattern captures in the path. -/
def exec (p : Pattern) (path : Text) : Option Captures :=
  (p.expression.regex.find path).map fun found =>
    { path, found
      stop := match p.tail with
        | .loose => ((found.span? p.expression.regex.groupCount).map (·.start)).getD found.stop
        | _ => found.stop
      count := p.groupCount
      names := p.expression.names }

/-- Patterns are the same when their texts and endings are; how case is treated does not count. -/
def same (p q : Pattern) : Bool :=
  p.tail == q.tail && p.source == q.source

/-- The pattern shown with its text and its ending. -/
def description (p : Pattern) : Text :=
  "Pattern \x7b source: ".toList ++ p.source.quoted ++ ", tail: ".toList ++
    p.tail.name.toList ++ " \x7d".toList

end Pattern

end PathRouter
