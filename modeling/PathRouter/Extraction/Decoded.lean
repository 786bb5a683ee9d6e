/-
Captured parameters after percent-decoding. Decoding fails at the first value that is no text.
-/
import PathRouter.Params
import PathRouter.Percent

namespace PathRouter

/-- Keys with their decoded values, in the order of the template. -/
abbrev Decoded := List (Text × Text)

/-- What a router records of the parameters: the decoded ones, or the key of the first value that
cannot be decoded. -/
abbrev Recorded := Except Text Decoded

/-- Decodes one value; a failure names its key. -/
def Decoded.entry (key value : Text) : Except Text (Text × Text) :=
  match Percent.decode value with
  | .ok t => .ok (key, t)
  | .error _ => .error key

/-- Decodes captured parameters. -/
def Params.decode (p : Params) : Recorded :=
  p.entries.mapM fun (key, value) => Decoded.entry key value

end PathRouter
