/-
Structured values of a program, and the JSON values they become. Most shapes have a JSON
counterpart; a floating-point number that is not finite becomes null. Keys of maps have to become
texts.
-/
import PathRouter.Json.Value

namespace PathRouter

/-- A structured value. A variant is a named choice, alone or with a payload; `failing` stands for
a value that refuses to be converted. -/
inductive Data where
  | nothing
  | present (value : Data)
  | wrapped (value : Data)
  | bool (b : Bool)
  | int (n : Int)
  | float (format : BinaryFormat) (value : Binary)
  | char (c : Char)
  | text (t : Text)
  | bytes (bytes : List Nat)
  | list (items : List Data)
  | map (entries : List (Data × Data))
  | record (fields : List (Text × Data))
  | variant (name : Text)
  | variantOf (name : Text) (payload : Data)
  | failing (message : Text)

namespace Data

/-- Why a value has no JSON counterpart. -/
inductive Error where
  | outOfRange
  | keyNotFinite
  | keyNotText
  | refused (message : Text)
  deriving DecidableEq, Repr

/-- The wording of an error. -/
def Error.message : Error → Text
  | outOfRange => "number out of range".toList
  | keyNotFinite => "float key must be finite (got NaN or +/-inf)".toList
  | keyNotText => "key must be a string".toList
  | refused message => message

/-- A floating-point number as a JSON value. -/
def ofFloat (x : Binary) : Json :=
  match BinaryFormat.double.convert x with
  | .finite negative m => .number (.float negative m)
  | _ => .null

/-- The text that a value becomes as a key. -/
def toKey : Data → Except Error Text
  | wrapped value => toKey value
  | bool b => .ok (toString b).toList
  | int n => .ok (Json.Number.intText n)
  | float f (.finite negative m) => .ok (Json.Number.floatText f negative m)
  | float _ _ => .error .keyNotFinite
  | char c => .ok [c]
  | text t => .ok t
  | variant name => .ok name
  | failing message => .error (.refused message)
  | _ => .error .keyNotText

mutual

/-- The JSON value that a value becomes. -/
def toJson : Data → Except Error Json
  | nothing => .ok .null
  | present value => toJson value
  | wrapped value => toJson value
  | bool b => .ok (.bool b)
  | int n => if Json.Number.holds n then .ok (.number (.int n)) else .error .outOfRange
  | float _ x => .ok (ofFloat x)
  | char c => .ok (.string [c])
  | text t => .ok (.string t)
  | bytes bs => .ok (.array (bs.map .ofNat))
  | list items => (itemsToJson items).map .array
  | map entries => (entriesToJson entries).map .ofMembers
  | record fields => (fieldsToJson fields).map .ofMembers
  | variant name => .ok (.string name)
  | variantOf name payload => (toJson payload).map fun v => .object [(name, v)]
  | failing message => .error (.refused message)

/-- The JSON values of a list. -/
def itemsToJson : List Data → Except Error (List Json)
  | [] => .ok []
  | item :: items => do return (← toJson item) :: (← itemsToJson items)

/-- The members of a map: each key is converted before its value. -/
def entriesToJson : List (Data × Data) → Except Error (List (Text × Json))
  | [] => .ok []
  | (key, value) :: entries => do
    let k ← toKey key
    return (k, ← toJson value) :: (← entriesToJson entries)

/-- The members of a record. -/
def fieldsToJson : List (Text × Data) → Except Error (List (Text × Json))
  | [] => .ok []
  | (name, value) :: fields => do return (name, ← toJson value) :: (← fieldsToJson fields)

end

end Data

end PathRouter
