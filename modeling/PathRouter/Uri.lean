/-
URIs of requests: a path with an optional query, an absolute URI with a scheme and an authority, or
an authority alone. Reading drops the fragment. The path of an absolute URI is never empty, the
path of an authority alone always is.
-/
import PathRouter.Text

namespace PathRouter

/-- The URI of a request. -/
structure Uri where
  scheme : Option Text
  authority : Option Text
  path : Text
  query : Option Text
  deriving DecidableEq, Repr

namespace Uri

/-- Why a text is no URI. -/
inductive Error where
  | empty
  | tooLong
  | schemeTooLong
  | character
  | authority
  | format
  deriving DecidableEq, Repr

/-- The wording of an error. -/
def Error.message : Error → String
  | empty => "empty string"
  | tooLong => "uri too long"
  | schemeTooLong => "scheme too long"
  | character => "invalid uri character"
  | authority => "invalid authority"
  | format => "invalid format"

/-- The text of a URI. -/
def text (u : Uri) : Text :=
  (match u.scheme with
    | some s => s ++ "://".toList
    | none => []) ++
  u.authority.getD [] ++ u.path ++
  (match u.query with
    | some q => '?' :: q
    | none => [])

/-! ## Path and query -/

/-- Whether a path may contain the character as it is. -/
def inPath (c : Char) : Bool :=
  c == '!' || ('$' ≤ c && c ≤ ';') || c == '=' || ('@' ≤ c && c ≤ '_') || ('a' ≤ c && c ≤ '~') ||
    '\x80' ≤ c || c == '"'

/-- Whether a query may contain the character as it is. -/
def inQuery (c : Char) : Bool :=
  c == '!' || ('$' ≤ c && c ≤ ';') || c == '=' || ('?' ≤ c && c ≤ '~') || '\x80' ≤ c

/-- The path, and the query if there is one, that a text spells; a fragment at its end is
dropped. -/
def pathAndQuery (t : Text) : Except Error (Text × Option Text) :=
  let path := t.takeWhile inPath
  match t.dropWhile inPath with
  | [] => .ok (path, none)
  | '#' :: _ => .ok (path, none)
  | '?' :: rest =>
    let query := rest.takeWhile inQuery
    match rest.dropWhile inQuery with
    | [] | '#' :: _ => .ok (path, some query)
    | _ => .error .character
  | _ => .error .character

/-! ## Authority -/

/-- Whether an authority may contain the character. The percent sign is a matter of its own. -/
def inAuthority (c : Char) : Bool :=
  c.isAlphanum || "!$&'()*+,-.:;=@[]_~".toList.contains c

/-- What is known about the host while an authority is read: the colons since the last `@` or
closing bracket, whether the brackets were opened and closed, whether a percent sign stands outside
user name and brackets, and whether nothing follows an `@` yet. -/
structure Host where
  colons : Nat
  opened : Bool
  closed : Bool
  percent : Bool
  missing : Bool
  deriving DecidableEq, Repr

/-- The greatest number of colons in a host. -/
def maxColons : Nat := 8

/-- One more character of an authority. -/
def Host.add (h : Host) (c : Char) : Except Error Host :=
  let h := { h with missing := false }
  match c with
  | ':' =>
    if maxColons ≤ h.colons then .error .authority else .ok { h with colons := h.colons + 1 }
  | '[' => if h.percent || h.opened then .error .authority else .ok { h with opened := true }
  | ']' =>
    if !h.opened || h.closed then .error .authority
    else .ok { h with closed := true, colons := 0, percent := false }
  | '@' => .ok { h with missing := true, colons := 0, percent := false }
  | '%' => .ok { h with percent := true }
  | c => if inAuthority c then .ok h else .error .character

/-- Whether a character ends an authority. -/
def endsAuthority (c : Char) : Bool :=
  c == '/' || c == '?' || c == '#'

/-- Whether an authority may end here: brackets are in pairs, at most one colon follows the host,
and percent signs stand in the user name or in brackets only. -/
def Host.complete (h : Host) : Bool :=
  h.opened == h.closed && h.colons ≤ 1 && !h.missing && !h.percent

/-- The authority that a text begins with, possibly empty, and the rest of the text. -/
def splitAuthority (t : Text) : Except Error (Text × Text) := do
  let authority := t.takeWhile (!endsAuthority ·)
  let h ← authority.foldlM Host.add ⟨0, false, false, false, false⟩
  if h.complete then return (authority, t.dropWhile (!endsAuthority ·))
  else throw .authority

/-! ## Scheme -/

/-- Whether a scheme may contain the character. -/
def inScheme (c : Char) : Bool :=
  c.isAlphanum || c == '+' || c == '-' || c == '.' || c == '~'

/-- The greatest length of a scheme. -/
def maxSchemeLength : Nat := 64

/-- The scheme that a text begins with, if it does, and the rest of the text. The names of the two
common schemes are kept in lower case. -/
def splitScheme (t : Text) : Except Error (Option Text × Text) :=
  let scheme := t.takeWhile inScheme
  match t.dropWhile inScheme with
  | ':' :: '/' :: '/' :: rest =>
    let lower := scheme.map Char.toLower
    if lower = "http".toList || lower = "https".toList then .ok (some lower, rest)
    else if maxSchemeLength < scheme.length then .error .schemeTooLong
    else if t.length ≤ 3 then .ok (none, t)
    else .ok (some scheme, rest)
  | _ => .ok (none, t)

/-! ## Whole URIs -/

/-- The greatest number of bytes of a URI. -/
def maxLength : Nat := 65534

/-- Reads an absolute URI or an authority alone. A scheme with nothing behind it is as good as no
text at all. -/
def parseFull (t : Text) : Except Error Uri := do
  let (scheme, t) ← splitScheme t
  if t.isEmpty then throw .empty
  let (authority, rest) ← splitAuthority t
  match scheme with
  | none => if rest.isEmpty then return ⟨none, some authority, [], none⟩ else throw .format
  | some scheme =>
    if authority.isEmpty then throw .format
    else
      let (path, query) ← pathAndQuery rest
      return ⟨some scheme, some authority, if path.isEmpty then ['/'] else path, query⟩

/-- Reads a URI. -/
def parse (t : Text) : Except Error Uri :=
  if maxLength < Text.byteLength t then .error .tooLong
  else match t with
    | [] => .error .empty
    | ['*'] => .ok ⟨none, none, t, none⟩
    | '/' :: _ => do
      let (path, query) ← pathAndQuery t
      return ⟨none, none, path, query⟩
    | [c] => do
      let (authority, rest) ← splitAuthority [c]
      if rest.isEmpty then return ⟨none, some authority, [], none⟩ else throw .character
    | t => parseFull t

/-- The URI with another path. An authority alone has no place for a path. -/
def withPath? (u : Uri) (path : Text) : Option Uri :=
  if u.scheme.isNone && u.authority.isSome then none else some { u with path }

end Uri

end PathRouter
