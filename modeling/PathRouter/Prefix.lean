/-
Loose patterns as prefixes: what a matched prefix leaves of a path, and URIs without it.
-/
import PathRouter.Pattern
import PathRouter.Uri

namespace PathRouter.Pattern

/-- The path left behind the matched part. It always begins with a slash. -/
def remainder? (p : Pattern) (path : Text) : Option Text :=
  (p.exec path).map fun c => if c.rest.head? = some '/' then c.rest else '/' :: c.rest

/-- The URI with its path replaced by what is left behind the prefix. There is none if the prefix
does not match, or if the URI has no place for a path. -/
def strip? (p : Pattern) (u : Uri) : Option Uri :=
  (p.remainder? u.path).bind u.withPath?

end PathRouter.Pattern
