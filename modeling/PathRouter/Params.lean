/-
Parameters captured from a path: keys with the raw texts of their groups, in order. What captured
nothing is not listed.
-/
import PathRouter.Pattern

namespace PathRouter

/-- Captured parameters, in the order of the template. -/
structure Params where
  entries : List (Text × Text)
  deriving DecidableEq, Repr

namespace Params

/-- The pair of a key and the text of its group, unless the group took no part or is empty. -/
def entry? (key : Text) (value : Option Text) : Option (Text × Text) :=
  match value with
  | some (c :: t) => some (key, c :: t)
  | _ => none

/-- Pairs each key with the group at its place. -/
def ofKeys (keys : List Text) (c : Captures) : Params where
  entries := (keys.zip c.groups).filterMap fun (key, value) => entry? key value

/-- Pairs the names of groups with their texts. -/
def ofNames (names : List (Nat × Text)) (c : Captures) : Params where
  entries := names.filterMap fun (i, name) => entry? name (c.get? i)

/-- The first value for a key. -/
def get? (p : Params) (key : Text) : Option Text :=
  p.entries.lookup key

/-- The number of captured parameters. -/
def size (p : Params) : Nat :=
  p.entries.length

/-- Whether nothing was captured. -/
def isEmpty (p : Params) : Bool :=
  p.entries.isEmpty

end Params

end PathRouter
