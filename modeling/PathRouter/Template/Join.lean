/-
Templates one behind the other.
-/
import PathRouter.Text

namespace PathRouter.Template

/-- A template behind a prefix, with exactly one slash between them. -/
def join (front back : Text) : Text :=
  match Text.trimStart '/' back with
  | [] => Text.trimEnd '/' front
  | rest => Text.trimEnd '/' front ++ '/' :: rest

end PathRouter.Template
