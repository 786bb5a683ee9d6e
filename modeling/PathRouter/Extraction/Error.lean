/-
Why captured parameters do not have the shape that a handler asks for, and what the client is told.
-/
import PathRouter.Extraction.Shape
import PathRouter.Text.Quoted

namespace PathRouter

/-- Where a value came from: a parameter by name, or by its place among all. -/
inductive Origin where
  | key (name : Text)
  | index (i : Nat)
  deriving DecidableEq, Repr

/-- Why the data that was found does not fit the shape, where no value is at fault on its own. -/
inductive Mismatch where
  | missingField (name : Text)
  | duplicateField (name : Text)
  | unknownField (name : Text) (known : List Text)
  | unknownVariant (name : Text) (known : List Text)
  | plainVariant (payload : Payload)
  | noAlternative (name : Text)
  | keyType (key expected : Text)
  | keyValue (key expected : Text)
  | mapAsRaw
  | valueBeforeKey
  | unsupportedNumber (name : Text)
  deriving DecidableEq, Repr

/-- Why parameters could not be extracted. -/
inductive ExtractionError where
  | count (got expected : Nat)
  | value (origin : Origin) (text : Text) (expected : Text)
  | undecodable (key : Text)
  | unsupported (typeName : Text)
  | mismatch (cause : Mismatch)
  deriving DecidableEq, Repr

/-- A rejected extraction: parameters that do not fit, or a request for which none were recorded. -/
inductive Rejection where
  | missing
  | parameters (cause : ExtractionError)
  deriving DecidableEq, Repr

/-! ## Wording -/

/-- A text in backticks. -/
def Text.marked (t : Text) : Text :=
  '`' :: t ++ ['`']

/-- Several names of which one is expected. -/
def Mismatch.oneOf : List Text → Text
  | [] => "there are no variants".toList
  | [a] => a.marked
  | [a, b] => a.marked ++ " or ".toList ++ b.marked
  | names => "one of ".toList ++ (", ".toList.intercalate (names.map Text.marked))

/-- What a choice with a payload is called. -/
def Payload.name : Payload → String
  | none => "unit variant"
  | single => "newtype variant"
  | tuple => "tuple variant"
  | record => "struct variant"

/-- The wording of a mismatch. -/
def Mismatch.message : Mismatch → Text
  | missingField name => "missing field ".toList ++ name.marked
  | duplicateField name => "duplicate field ".toList ++ name.marked
  | unknownField name known =>
    "unknown field ".toList ++ name.marked ++
      (if known.isEmpty then ", there are no fields".toList else ", expected ".toList ++ oneOf known)
  | unknownVariant name known =>
    "unknown variant ".toList ++ name.marked ++
      (if known.isEmpty then ", ".toList else ", expected ".toList) ++ oneOf known
  | plainVariant payload => "invalid type: unit variant, expected ".toList ++ payload.name.toList
  | noAlternative name => "data did not match any variant of untagged enum ".toList ++ name
  | keyType key expected =>
    "invalid type: string ".toList ++ key.quoted ++ ", expected ".toList ++ expected
  | keyValue key expected =>
    "invalid value: string ".toList ++ key.quoted ++ ", expected ".toList ++ expected
  | mapAsRaw => "invalid type: map, expected text or bytes".toList
  | valueBeforeKey => "value requested before key".toList
  | unsupportedNumber name => name ++ " is not supported".toList

namespace ExtractionError

/-- The wording of an error. -/
def message : ExtractionError → Text
  | count got expected =>
    "the route captured ".toList ++ Nat.toDigits 10 got ++
      " path parameters but `Path` expects ".toList ++ Nat.toDigits 10 expected
  | value (.key name) text expected =>
    "cannot parse ".toList ++ name.marked ++ " value ".toList ++ text.marked ++ " as ".toList ++
      expected.marked
  | value (.index i) text expected =>
    "cannot parse parameter ".toList ++ Nat.toDigits 10 i ++ " value ".toList ++ text.marked ++
      " as ".toList ++ expected.marked
  | undecodable key => key.marked ++ " is not valid UTF-8 once percent-decoded".toList
  | unsupported typeName => "`Path` cannot deserialize into ".toList ++ typeName.marked
  | mismatch cause => cause.message

/-- Whether the URL is at fault. Counts and unsupported shapes are the handler's fault. -/
def isClientError : ExtractionError → Bool
  | count _ _ | unsupported _ => false
  | value _ _ _ | undecodable _ | mismatch _ => true

end ExtractionError

namespace Rejection

/-- The wording of a rejection. -/
def message : Rejection → Text
  | missing => "no path parameters were recorded for this request".toList
  | parameters cause => cause.message

/-- Whether the URL is at fault. -/
def isClientError : Rejection → Bool
  | missing => false
  | parameters cause => cause.isClientError

/-- The status of the response: the client's or the server's fault. -/
def status (r : Rejection) : Nat :=
  if r.isClientError then 400 else 500

/-- The body of the response. -/
def body (r : Rejection) : Text :=
  if r.isClientError then "Invalid URL: ".toList ++ r.message else r.message

end Rejection

end PathRouter
