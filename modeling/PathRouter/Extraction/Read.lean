/-
Reading data of a given shape: from one value (`Shape.readValue`), and from all parameters of a
request (`Shape.readAll`). All parameters fill a list, a tuple of as many items, a map or a record
by name; a shape of one value needs exactly one parameter. An optional shape is absent when there
is no parameter at all.
-/
import PathRouter.Extraction.Access
import PathRouter.Text.Sorted
import PathRouter.Utf8

namespace PathRouter

/-- The choice with a name. Choices that hold more than their name cannot be made by a text. -/
def Variant.choose (all : List Variant) (name : Text) : Except ExtractionError Variant :=
  match all.find? (·.name == name) with
  | none => .error (.mismatch (.unknownVariant name (all.map (·.name))))
  | some v =>
    match v.payload with
    | .none => .ok v
    | payload => .error (.mismatch (.plainVariant payload))

namespace KeyShape

/-- Reads a key. Numbers and truth values are not read from keys. -/
def read (key : Text) : KeyShape → Except ExtractionError Reading
  | text => .ok (.text key)
  | scalar .char =>
    match key with
    | [c] => .ok (.char c)
    | _ => .error (.mismatch (.keyValue key "a character".toList))
  | scalar .bool => .error (.mismatch (.keyType key "a boolean".toList))
  | scalar s => .error (.mismatch (.keyType key s.name))
  | variants all => do return .variant (← Variant.choose all key).label

/-- The order of keys: choices in the order of their declaration, texts by code points. -/
def less : KeyShape → Text → Text → Bool
  | variants all, s, t => all.findIdx (·.name == s) < all.findIdx (·.name == t)
  | _, s, t => Text.less s t

end KeyShape

namespace Shape

/-- Reads one value. -/
def readValue : Shape → Value → Except ExtractionError Reading
  | scalar s, v =>
    match s.read? v.text with
    | some r => .ok r
    | none => .error (v.invalid s.name)
  | text, v => .ok (.text v.text)
  | unsupportedNumber name, _ => .error (.mismatch (.unsupportedNumber name))
  | unit, _ => .ok .unit
  | mark label, _ => .ok (.mark label)
  | optional s, v => (s.readValue v).map .present
  | wrapped s, v => (s.readValue v).map fun r => .record [(['0'], r)]
  | variants all, v => do return .variant (← Variant.choose all v.text).label
  | either name _, _ => .error (.mismatch (.noAlternative name))
  | json, v => .ok (.json (.string v.text))
  | raw .bytes, v | raw .byteBuffer, v => .ok (.rawBytes (Utf8.encode v.text))
  | raw _, v => .ok (.rawText v.text)
  | list name _, _ | tuple name _, _ | numbered name _, _ | map name _ _, _ | pairs name, _
  | record name _ _, _ | sizedList name, _ | sizedMap name, _ | valueFirst name, _ =>
    .error (.unsupported name)

/-- Reads the only parameter. -/
def readSingle (s : Shape) : Decoded → Except ExtractionError Reading
  | [(key, value)] => s.readValue ⟨.key key, value⟩
  | params => .error (.count params.length 1)

/-! ## Tuples, lists and maps -/

/-- Reads one element for each shape. -/
def readItems (count : Nat) : List Shape → Elements → Except ExtractionError (List Reading)
  | [], _ => .ok []
  | s :: shapes, e =>
    match e.next with
    | (none, _) => .error (.count e.params.length count)
    | (some v, e) => do
      let r ← s.readValue v
      return r :: (← readItems count shapes e)

/-- Reads a tuple, if there are as many parameters as shapes. -/
def readTuple (shapes : List Shape) (params : Decoded) :
    Except ExtractionError (List Reading) :=
  if params.length = shapes.length then readItems shapes.length shapes (.start params)
  else .error (.count params.length shapes.length)

/-- The fields of a tuple, named by their places. -/
def number (items : List Reading) : List (Text × Reading) :=
  items.zipIdx.map fun (r, i) => (Nat.toDigits 10 i, r)

/-- Reads a map. The entries are in the order of their keys; of several with one key the last
counts. -/
def readMap (key : KeyShape) (value : Shape) (params : Decoded) :
    Except ExtractionError (List (Reading × Reading)) := do
  let entries ← Entries.foldAll
    (fun (entries : List (Text × Reading × Reading)) k v => do
      let keyReading ← key.read k
      let r ← value.readValue (← v)
      return entries ++ [(k, keyReading, r)])
    params.length [] (.start params)
  return (Text.sorted key.less entries).map (·.2)

/-! ## Records -/

/-- The fields filled so far, and the parameters gathered besides. -/
structure Filled where
  fields : List (Text × Reading)
  gathered : List (Text × Reading)

/-- Fills a field, or treats the parameter as the record treats others. A field can be filled
once. -/
def fill (fields : List Field) (others : Others) (f : Filled) (key : Text)
    (value : Except ExtractionError Value) : Except ExtractionError Filled :=
  match fields.find? (·.name == key) with
  | some field => do
    if (f.fields.lookup key).isSome then throw (.mismatch (.duplicateField key))
    let r ← field.shape.readValue (← value)
    return { f with fields := f.fields ++ [(key, r)] }
  | none =>
    match others with
    | .refuse => .error (.mismatch (.unknownField key (fields.map (·.name))))
    | .skip => value.map fun _ => f
    | .gather _ => value.map fun v => { f with gathered := f.gathered ++ [(key, .text v.text)] }

/-- The reading of a field when all parameters were taken: a field that was not filled has its
default, or is absent if its shape is optional. -/
def finishField (filled : List (Text × Reading)) (field : Field) :
    Except ExtractionError (Text × Reading) :=
  match filled.lookup field.name, field.default, field.shape with
  | some r, _, _ | none, some r, _ => .ok (field.name, r)
  | none, none, optional _ => .ok (field.name, .absent)
  | none, none, _ => .error (.mismatch (.missingField field.name))

/-- The field of gathered parameters. -/
def gatheredField (others : Others) (gathered : List (Text × Reading)) : List (Text × Reading) :=
  match others with
  | .gather field =>
    [(field, .map ((Text.sorted Text.less gathered).map fun (k, r) => (.text k, r)))]
  | _ => []

/-- Reads a record. -/
def readRecord (fields : List Field) (others : Others) (params : Decoded) :
    Except ExtractionError (List (Text × Reading)) := do
  let f ← Entries.foldAll (fill fields others) params.length ⟨[], []⟩ (.start params)
  return (← fields.mapM (finishField f.fields)) ++ gatheredField others f.gathered

/-- Reads the first record of texts whose fields are all there. -/
def readEither (name : Text) (params : Decoded) :
    List (List Text) → Except ExtractionError (List (Text × Reading))
  | [] => .error (.mismatch (.noAlternative name))
  | fields :: alternatives =>
    match readRecord (fields.map fun field => ⟨field, .text, none⟩) .skip params with
    | .ok r => .ok r
    | .error _ => readEither name params alternatives

/-! ## Sizes -/

/-- The elements, each with the number of elements left after it. -/
def sizesOfElements : Nat → Elements → List Reading
  | 0, _ => []
  | n + 1, e =>
    match e.next with
    | (none, _) => []
    | (some v, e) => .list [.text v.text, .count e.size] :: sizesOfElements n e

/-- The entries, each with the number of keys left after it. -/
def sizesOfEntries : Nat → Entries → Except ExtractionError (List Reading)
  | 0, _ => .ok []
  | n + 1, e =>
    match e.nextKey with
    | (none, _) => .ok []
    | (some key, e) =>
      let (value, e) := e.nextValue
      do
        let v ← value
        return .list [.text key, .text v.text, .count e.size] :: (← sizesOfEntries n e)

/-! ## All parameters -/

/-- Reads all parameters of a request. -/
def readAll (params : Decoded) : Shape → Except ExtractionError Reading
  | unit => .ok .unit
  | mark label => .ok (.mark label)
  | unsupportedNumber name => .error (.mismatch (.unsupportedNumber name))
  | optional s => if params.isEmpty then .ok .absent else (s.readAll params).map .present
  | wrapped s => (s.readAll params).map fun r => .record [(['0'], r)]
  | list _ item => (Elements.readAll item.readValue params.length (.start params)).map .list
  | tuple _ items => (readTuple items params).map .list
  | numbered _ items => (readTuple items params).map fun rs => .record (number rs)
  | map _ key value => (readMap key value params).map .map
  | pairs _ => .ok (.list (params.map fun (k, v) => .list [.text k, .text v]))
  | record _ fields others => (readRecord fields others params).map .record
  | either name alternatives => (readEither name params alternatives).map .record
  | json => .ok (.json (.ofMembers (params.map fun (k, v) => (k, .string v))))
  | raw .any => .error (.mismatch .mapAsRaw)
  | sizedList _ =>
    let e := Elements.start params
    .ok (.list (.count e.size :: sizesOfElements e.size e))
  | sizedMap _ =>
    let e := Entries.start params
    (sizesOfEntries e.size e).map fun rs => .list (.count e.size :: rs)
  | valueFirst _ => (Entries.start params).nextValue.1.map fun v => .text v.text
  | s => s.readSingle params

/-- Reads what a router recorded for a request. -/
def extract (s : Shape) (recorded : Option Recorded) : Except Rejection Reading :=
  match recorded with
  | none => .error .missing
  | some (.error key) => .error (.parameters (.undecodable key))
  | some (.ok params) =>
    match s.readAll params with
    | .ok r => .ok r
    | .error e => .error (.parameters e)

end Shape

end PathRouter
