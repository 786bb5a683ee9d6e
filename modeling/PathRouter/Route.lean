/-
Compiled routes: the keys of a template with its pattern. A route can also be made from a regular
expression; its keys are unknown then, and the named groups stand in for them.
-/
import PathRouter.Params

namespace PathRouter

/-- The parameter names of a route, in the order of their groups. -/
inductive Keys where
  | named (names : List Text)
  | unknown
  deriving DecidableEq, Repr

/-- The names, if they are known. -/
def Keys.names? : Keys → Option (List Text)
  | named names => some names
  | unknown => none

/-- A compiled route. -/
structure Route where
  keys : Keys
  pattern : Pattern

/-- A template whose pattern text is no regular expression. -/
structure InvalidPattern where
  template : Text
  cause : PatternError
  deriving DecidableEq, Repr

namespace Route

/-- The route of a template. Case is ignored. -/
def compile (template : Text) (mode : Template.Mode) : Except InvalidPattern Route :=
  match Expression.parse true (Template.source template mode) with
  | .ok expression => .ok ⟨.named (Template.keys template), ⟨expression, mode.tail⟩⟩
  | .error cause => .error ⟨template, cause⟩

/-- The route of a regular expression, as it is. -/
def ofExpression (e : Expression) : Route :=
  ⟨.unknown, ⟨e, .unknown⟩⟩

/-- The parameters that the route captures in a path. -/
def exec (r : Route) (path : Text) : Option Params :=
  (r.pattern.exec path).map fun c =>
    match r.keys with
    | .named names => .ofKeys names c
    | .unknown => .ofNames r.pattern.groupNames c

/-- Routes are the same when their keys and patterns are. -/
def same (r s : Route) : Bool :=
  r.keys == s.keys && r.pattern.same s.pattern

end Route

end PathRouter
