/-
What a router reports while it is built and while it serves: events with a level, a message and
named fields.
-/
import PathRouter.Template.Source

namespace PathRouter

/-- Something worth reporting. -/
inductive Event where
  | compiled (template : Text) (mode : Template.Mode)
  | registered (template : Text)
  | nestingRouter (prefixTemplate : Text) (routes : Nat)
  | nestingService (prefixTemplate : Text)
  | unmatched (path : Text)
  | matched (path template : Text)
  | stripped (before after : Text)
  | rejected (error : Text)
  deriving DecidableEq, Repr

/-- The name of a mode. -/
def Template.Mode.name : Template.Mode → String
  | .strict => "Strict"
  | .loose => "Loose"

namespace Event

/-- How much detail an event is. -/
def level : Event → String
  | compiled _ _ | unmatched _ | matched _ _ | stripped _ _ => "TRACE"
  | registered _ | nestingRouter _ _ | nestingService _ | rejected _ => "DEBUG"

/-- What happened. -/
def message : Event → String
  | compiled _ _ => "compiled route template"
  | registered _ => "registered route"
  | nestingRouter _ _ => "nesting router"
  | nestingService _ => "nesting service"
  | unmatched _ => "no route matched"
  | matched _ _ => "route matched"
  | stripped _ _ => "stripped nest prefix"
  | rejected _ => "rejected path parameters"

/-- The particulars, by name. -/
def fields : Event → List (String × Text)
  | compiled template mode =>
    [("template", template), ("pattern", Template.source template mode),
      ("mode", mode.name.toList)]
  | registered template => [("template", template), ("pattern", Template.source template .strict)]
  | nestingRouter p routes => [("prefix", p), ("routes", Nat.toDigits 10 routes)]
  | nestingService p => [("prefix", p)]
  | unmatched path => [("path", path)]
  | matched path template => [("path", path), ("template", template)]
  | stripped before after => [("from", before), ("to", after)]
  | rejected error => [("error", error)]

end Event

end PathRouter
