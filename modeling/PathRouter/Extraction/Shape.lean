/-
The shapes of data that handlers ask for, and the data they get. Shapes that hold several values
carry the name of their type, for the error that a single value cannot have them.
-/
import PathRouter.Json.Value
import PathRouter.Number.Numeral

namespace PathRouter

/-- Data read from parameters. A record keeps its fields in the order of their declaration. -/
inductive Reading where
  | unit
  | mark (label : Text)
  | bool (b : Bool)
  | int (n : Int)
  | float (format : BinaryFormat) (value : Binary)
  | char (c : Char)
  | text (t : Text)
  | count (n : Nat)
  | absent
  | present (r : Reading)
  | list (items : List Reading)
  | map (entries : List (Reading × Reading))
  | record (fields : List (Text × Reading))
  | variant (label : Text)
  | json (v : Json)
  | rawText (t : Text)
  | rawBytes (bytes : List Nat)

/-- A type whose values one text spells. -/
inductive Scalar where
  | bool
  | int (signed : Bool) (bits : Nat)
  | float (format : BinaryFormat)
  | char
  deriving DecidableEq, Repr

/-- What a named choice holds beside its name. -/
inductive Payload where
  | none
  | single
  | tuple
  | record
  deriving DecidableEq, Repr

/-- A named choice: the name that selects it, the label it is read as, and what it would hold. -/
structure Variant where
  name : Text
  label : Text
  payload : Payload
  deriving DecidableEq, Repr

/-- A request for a value as it is, in one of several ways. -/
inductive Ask where
  | text
  | identifier
  | bytes
  | byteBuffer
  | any
  deriving DecidableEq, Repr

/-- The shapes of the keys of a map. -/
inductive KeyShape where
  | text
  | scalar (s : Scalar)
  | variants (all : List Variant)
  deriving DecidableEq, Repr

/-- What a record does with parameters that are no fields: skip them, refuse them, or gather their
texts in a last field. -/
inductive Others where
  | skip
  | refuse
  | gather (field : Text)
  deriving DecidableEq, Repr

/-- A field of a record, with the value it has when no parameter fills it. -/
structure FieldOf (α : Type) where
  name : Text
  shape : α
  default : Option Reading

/-- A shape of data. -/
inductive Shape where
  | scalar (s : Scalar)
  | text
  | unsupportedNumber (name : Text)
  | unit
  | mark (label : Text)
  | optional (s : Shape)
  | wrapped (s : Shape)
  | list (typeName : Text) (item : Shape)
  | tuple (typeName : Text) (items : List Shape)
  | numbered (typeName : Text) (items : List Shape)
  | map (typeName : Text) (key : KeyShape) (value : Shape)
  | pairs (typeName : Text)
  | record (typeName : Text) (fields : List (FieldOf Shape)) (others : Others)
  | variants (all : List Variant)
  | either (name : Text) (alternatives : List (List Text))
  | json
  | raw (ask : Ask)
  | sizedList (typeName : Text)
  | sizedMap (typeName : Text)
  | valueFirst (typeName : Text)

/-- A field of a record. -/
abbrev Field := FieldOf Shape

namespace Scalar

/-- The name of a type. -/
def name : Scalar → Text
  | bool => "bool".toList
  | int signed bits => (if signed then 'i' else 'u') :: Nat.toDigits 10 bits
  | float f => 'f' :: Nat.toDigits 10 f.width
  | char => "char".toList

/-- Whether an integer type holds a number. -/
def holds (signed : Bool) (bits : Nat) (n : Int) : Bool :=
  if signed then -(Nat.pow 2 (bits - 1) : Int) ≤ n && n < (Nat.pow 2 (bits - 1) : Int)
  else 0 ≤ n && n < (Nat.pow 2 bits : Int)

/-- The value that a text spells. -/
def read? (s : Scalar) (t : Text) : Option Reading :=
  match s with
  | bool =>
    if t = "true".toList then some (.bool true)
    else if t = "false".toList then some (.bool false)
    else none
  | int signed bits =>
    match if signed then Numeral.int? t else Numeral.nat? t with
    | some n => if holds signed bits n then some (.int n) else none
    | none => none
  | float f => (Numeral.float? f t).map (.float f)
  | char =>
    match t with
    | [c] => some (.char c)
    | _ => none

end Scalar

end PathRouter
