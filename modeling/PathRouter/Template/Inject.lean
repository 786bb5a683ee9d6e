/-
Injection: the path of a template with values for its parameters. Values are looked up by name in
a JSON object; what counts as no value is treated as missing. A missing optional parameter is left
out with its slash, its fixed suffix stays; a missing required parameter stays as it is written.
-/
import PathRouter.Data
import PathRouter.Template.Segment

namespace PathRouter

/-- Values by name. -/
abbrev Values := List (Text × Json)

/-- The text of a value, unless it counts as missing: null, false, zero and the empty text do. -/
def Json.presentText? : Json → Option Text
  | .null | .bool false | .string [] => none
  | .number n => if n.isZero then none else some n.text
  | .string s => some s
  | v => some v.text

namespace Values

/-- The text for a name, unless it is missing. -/
def text? (values : Values) (name : Text) : Option Text :=
  (values.lookup name).bind Json.presentText?

/-- Why a value holds no values by name. -/
inductive Error where
  | notAnObject (found : String)
  | data (cause : Data.Error)
  deriving DecidableEq, Repr

/-- The wording of an error. -/
def Error.message : Error → Text
  | notAnObject found => "injection values must serialize to a map, got ".toList ++ found.toList
  | data cause => "failed to serialize injection values: ".toList ++ cause.message

/-- The kind of a JSON value, with its article. -/
def kind : Json → String
  | .null => "null"
  | .bool _ => "a boolean"
  | .number _ => "a number"
  | .string _ => "a string"
  | .array _ => "an array"
  | .object _ => "an object"

/-- The values in a JSON value: those of an object, or none in null. -/
def ofJson : Json → Except Error Values
  | .object members => .ok members
  | .null => .ok []
  | v => .error (.notAnObject (kind v))

/-- The values in a structured value. -/
def ofData (d : Data) : Except Error Values :=
  match d.toJson with
  | .ok v => ofJson v
  | .error e => .error (.data e)

end Values

namespace Template

/-- What a piece of a template contributes to the path; `slash` is the slash before the piece, if
there is one. A value brings a slash of its own. -/
def injectPiece (values : Values) (slash piece : Text) : Text :=
  match Segment.parse piece with
  | .empty | .literal _ => slash ++ piece
  | .wildcard _ => ((values.text? wildcardKey).map ('/' :: ·)).getD []
  | .param p =>
    match values.text? p.name with
    | some value => '/' :: value ++ p.suffix.getD []
    | none => if p.optional then p.suffix.getD [] else '/' :: piece

/-- The path of a template with the given values. -/
def inject (t : Text) (values : Values) : Text :=
  match Text.split '/' t with
  | [] => []
  | first :: rest => injectPiece values [] first ++ rest.flatMap (injectPiece values ['/'])

end Template

end PathRouter
