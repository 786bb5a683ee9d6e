/-
How a prefix is stripped from a URI, step by step. The path is cut at the byte where the reported match ends, what is
left of it is written as one text with the query and read again, and the URI is put together from its parts. A step can
fail, and the URI is not rewritten then.
-/
import PathRouter.Prefix
import PathRouter.Text.Slice

namespace PathRouter

namespace Uri

/-- The parts of a URI: its path and query are one of them. -/
structure Parts where
  scheme : Option Text
  authority : Option Text
  pathAndQuery : Option (Text × Option Text)
  deriving DecidableEq, Repr

/-- The parts of a URI. An authority alone has no path and no query. -/
def parts (u : Uri) : Parts where
  scheme := u.scheme
  authority := u.authority
  pathAndQuery := if u.path.isEmpty && u.query.isNone then none else some (u.path, u.query)

/-- The URI with the given parts. A scheme needs both other parts, and an authority without a scheme has no path. A
path that is empty stands for the root. -/
def ofParts? (p : Parts) : Option Uri :=
  match p.scheme, p.authority, p.pathAndQuery with
  | none, some _, some _ | some _, none, _ | some _, _, none => none
  | none, authority, none => some ⟨none, authority, [], none⟩
  | scheme, authority, some (path, query) => some ⟨scheme, authority, if path.isEmpty then ['/'] else path, query⟩

/-- A path and a query as one text. -/
def joined (path : Text) (query : Option Text) : Text :=
  match query with
  | some q => path ++ '?' :: q
  | none => path

end Uri

namespace Pattern

/-- The path from the byte on where the reported match ends. It always begins with a slash. -/
def cut? (p : Pattern) (path : Text) : Option Text := do
  let c ← p.exec path
  let rest ← Text.from? path c.offset
  return if rest.head? = some '/' then rest else '/' :: rest

/-- The URI with its path cut behind the prefix, put together from its parts. -/
def rewrite? (p : Pattern) (u : Uri) : Option Uri := do
  let rest ← p.cut? u.path
  let pathAndQuery ← (Uri.pathAndQuery (Uri.joined rest u.query)).toOption
  Uri.ofParts? { u.parts with pathAndQuery := some pathAndQuery }

end Pattern

end PathRouter
