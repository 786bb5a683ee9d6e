/-
The mode of a template as a setting, read from a JSON value: the name of the mode, or an object
whose only key is the name and whose value is null.
-/
import PathRouter.Json.Kind
import PathRouter.Template.Source

namespace PathRouter.Template.Mode

/-- Why a JSON value is no mode. -/
inductive SettingError where
  | unknown (name : Text)
  | notAMode (found : Json)
  | notSingle
  | notUnit (found : Json)

/-- The wording of an error. -/
def SettingError.message : SettingError → Text
  | unknown name => "unknown variant `".toList ++ name ++ "`, expected `strict` or `loose`".toList
  | notAMode found => "invalid type: ".toList ++ found.shown ++ ", expected string or map".toList
  | notSingle => "invalid value: map, expected map with a single key".toList
  | notUnit found => "invalid type: ".toList ++ found.shown ++ ", expected unit".toList

/-- The mode with a name. -/
def named (name : Text) : Except SettingError Mode :=
  if name = "strict".toList then .ok .strict
  else if name = "loose".toList then .ok .loose
  else .error (.unknown name)

/-- The mode that a JSON value stands for. -/
def ofJson : Json → Except SettingError Mode
  | .string name => named name
  | .object [(name, payload)] => do
    let mode ← named name
    match payload with
    | .null => return mode
    | found => throw (.notUnit found)
  | .object _ => .error .notSingle
  | found => .error (.notAMode found)

end PathRouter.Template.Mode
