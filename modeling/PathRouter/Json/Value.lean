/-
JSON values and their compact text. The members of an object are kept in the order of their keys,
each key once.
-/
import PathRouter.Json.Number
import PathRouter.Text.Sorted

namespace PathRouter

/-- A JSON value. -/
inductive Json where
  | null
  | bool (b : Bool)
  | number (n : Json.Number)
  | string (s : Text)
  | array (items : List Json)
  | object (members : List (Text × Json))

namespace Json

/-- The object with the given members; the last of several with one key counts. -/
def ofMembers (members : List (Text × Json)) : Json :=
  object (Text.sorted Text.less members)

/-- The member of an object with a key. -/
def member? (members : List (Text × Json)) (key : Text) : Option Json :=
  members.lookup key

/-- A text as a JSON value. -/
def ofString (s : String) : Json :=
  string s.toList

/-- A natural number as a JSON value. -/
def ofNat (n : Nat) : Json :=
  number (.int n)

/-! ## Compact text -/

/-- The lower-case hexadecimal digits of a number, at least `width` of them. -/
def hexDigits (width n : Nat) : Text :=
  let digits := Nat.toDigits 16 n
  List.replicate (width - digits.length) '0' ++ digits

/-- A character as it stands in quoted text. -/
def escaped (c : Char) : Text :=
  match c with
  | '"' => ['\\', '"']
  | '\\' => ['\\', '\\']
  | '\x08' => ['\\', 'b']
  | '\x0c' => ['\\', 'f']
  | '\n' => ['\\', 'n']
  | '\r' => ['\\', 'r']
  | '\t' => ['\\', 't']
  | c => if c < ' ' then '\\' :: 'u' :: hexDigits 4 c.toNat else [c]

/-- A text in quotes. -/
def quoted (s : Text) : Text :=
  '"' :: s.flatMap escaped ++ ['"']

mutual

/-- The text of a value, without blanks. -/
def text : Json → Text
  | null => "null".toList
  | bool true => "true".toList
  | bool false => "false".toList
  | number n => n.text
  | string s => quoted s
  | array [] => "[]".toList
  | array (item :: items) => '[' :: text item ++ itemsText items
  | object [] => ['{', '}']
  | object ((key, value) :: members) => '{' :: quoted key ++ ':' :: text value ++ membersText members

/-- The text of the items after the first one, with the bracket that closes the array. -/
def itemsText : List Json → Text
  | [] => [']']
  | item :: items => ',' :: text item ++ itemsText items

/-- The text of the members after the first one, with the brace that closes the object. -/
def membersText : List (Text × Json) → Text
  | [] => ['}']
  | (key, value) :: members => ',' :: quoted key ++ ':' :: text value ++ membersText members

end

end Json

end PathRouter
