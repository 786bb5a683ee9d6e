/-
The pattern text of a route template. Each segment contributes its keys and a piece of pattern
text with exactly one counted group per key: groups inside a custom matcher or a suffix are
turned into uncounted ones.
-/
import PathRouter.Template.Segment

namespace PathRouter

namespace Template

/-- How a route ends: strictly at the end of the path, up to one slash, or before a slash as
well. -/
inductive Mode where
  | strict
  | loose
  deriving DecidableEq, Repr

/-- The pattern text that ends a route. The group of a loose ending is the last of the pattern. -/
def Mode.ending : Mode → Text
  | .strict => "/?$".toList
  | .loose => "(/|$)".toList

/-- Whether the text after an opening parenthesis names a group. -/
def namesGroup : Text → Bool
  | '?' :: 'P' :: '<' :: t | '?' :: '<' :: t => t.head? != some '=' && t.head? != some '!'
  | _ => false

/-- Where the reading of pattern text stands: in plain text, behind a backslash, inside a bracketed
class (and there behind a backslash), or inside the name of a group. -/
inductive Scan where
  | plain
  | escaped
  | inClass
  | escapedInClass
  | inName
  deriving DecidableEq, Repr

/-- The pattern text with its groups turned into uncounted ones, from a place on. Parentheses in
a class and escaped ones stay, and so do groups that set modes; names of groups are left out. -/
def uncountedFrom : Scan → Text → Text
  | _, [] => []
  | .inName, c :: t => uncountedFrom (if c = '>' then .plain else .inName) t
  | .escaped, c :: t => c :: uncountedFrom .plain t
  | .escapedInClass, c :: t => c :: uncountedFrom .inClass t
  | .inClass, c :: t =>
    c :: uncountedFrom
      (if c = '\\' then .escapedInClass else if c = ']' then .plain else .inClass) t
  | .plain, c :: t =>
    if c = '(' then
      if namesGroup t then '(' :: '?' :: ':' :: uncountedFrom .inName t
      else if t.head? = some '?' then '(' :: uncountedFrom .plain t
      else '(' :: '?' :: ':' :: uncountedFrom .plain t
    else
      c :: uncountedFrom
        (if c = '\\' then .escaped else if c = '[' then .inClass else .plain) t

/-- The pattern text with its groups turned into uncounted ones. -/
def uncounted (t : Text) : Text :=
  uncountedFrom .plain t

/-- The pattern of a parameter without a matcher of its own. -/
def anySegment : Text := "[^/]+?".toList

end Template

/-- The pattern text of a parameter. An optional parameter without a suffix takes its slash with
it; with a suffix only the value is optional. -/
def Param.source (p : Param) : Text :=
  let sub := (p.matcher.map Template.uncounted).getD Template.anySegment
  match p.suffix with
  | none =>
    if p.optional then "(?:/(".toList ++ sub ++ "))?".toList
    else "/(".toList ++ sub ++ ")".toList
  | some suffix =>
    "/(".toList ++ sub ++ (if p.optional then ")?" else ")").toList ++ "\\.".toList ++
      Template.uncounted suffix.tail

namespace Segment

/-- The pattern text of a segment. Literal text stands for itself as a pattern. -/
def source : Segment → Text
  | empty => []
  | literal text => '/' :: text
  | param p => p.source
  | wildcard true => "(?:/(.*))?".toList
  | wildcard false => "/(.*)".toList

/-- The keys of a segment: one for a parameter or a wildcard, none otherwise. -/
def keys : Segment → List Text
  | empty | literal _ => []
  | param p => [p.name]
  | wildcard _ => [Template.wildcardKey]

end Segment

namespace Template

/-- The keys of a template, in order. -/
def keys (t : Text) : List Text :=
  (segments t).flatMap Segment.keys

/-- The pattern text of a template without its ending. -/
def body (t : Text) : Text :=
  '^' :: (segments t).flatMap Segment.source

/-- The pattern text of a template. -/
def source (t : Text) (mode : Mode) : Text :=
  body t ++ mode.ending

end Template

end PathRouter
