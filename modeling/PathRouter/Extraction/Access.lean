/-
Taking parameters one after another: as elements, or as entries of which the key is taken before
the value.
-/
import PathRouter.Extraction.Decoded
import PathRouter.Extraction.Error

namespace PathRouter

/-- A decoded value with its origin. -/
structure Value where
  origin : Origin
  text : Text
  deriving DecidableEq, Repr

/-- The error of a value that does not spell the expected type. -/
def Value.invalid (v : Value) (expected : Text) : ExtractionError :=
  .value v.origin v.text expected

/-- The parameters taken as elements: all of them, and how many were taken. -/
structure Elements where
  params : Decoded
  index : Nat
  deriving DecidableEq, Repr

namespace Elements

/-- Nothing taken yet. -/
def start (params : Decoded) : Elements := ⟨params, 0⟩

/-- The number of elements left. -/
def size (e : Elements) : Nat :=
  e.params.length - e.index

/-- The next element. -/
def next (e : Elements) : Option Value × Elements :=
  match e.params[e.index]? with
  | some (_, value) => (some ⟨.index e.index, value⟩, { e with index := e.index + 1 })
  | none => (none, e)

/-- Takes and reads at most `n` elements; an error ends the taking. -/
def readAll {α : Type} (read : Value → Except ExtractionError α) :
    Nat → Elements → Except ExtractionError (List α)
  | 0, _ => .ok []
  | n + 1, e =>
    match e.next with
    | (none, _) => .ok []
    | (some v, e) => do
      let a ← read v
      return a :: (← readAll read n e)

end Elements

/-- The parameters taken as entries: those left, and the one whose value may be taken. -/
structure Entries where
  left : Decoded
  pending : Option (Text × Text)
  deriving DecidableEq, Repr

namespace Entries

/-- Nothing taken yet. -/
def start (params : Decoded) : Entries := ⟨params, none⟩

/-- The number of keys left. -/
def size (e : Entries) : Nat :=
  e.left.length

/-- The next key. Its value is pending from now on. -/
def nextKey (e : Entries) : Option Text × Entries :=
  match e.left with
  | [] => (none, e)
  | (key, value) :: left => (some key, ⟨left, some (key, value)⟩)

/-- The value of the latest key, which can be taken once. -/
def nextValue (e : Entries) : Except ExtractionError Value × Entries :=
  match e.pending with
  | some (key, value) => (.ok ⟨.key key, value⟩, { e with pending := none })
  | none => (.error (.mismatch .valueBeforeKey), e)

/-- Takes at most `n` entries one after another: `read` gets the state so far, the key, and what
taking the value gives. -/
def foldAll {σ : Type}
    (read : σ → Text → Except ExtractionError Value → Except ExtractionError σ) :
    Nat → σ → Entries → Except ExtractionError σ
  | 0, s, _ => .ok s
  | n + 1, s, e =>
    match e.nextKey with
    | (none, _) => .ok s
    | (some key, e) =>
      let (value, e) := e.nextValue
      do foldAll read n (← read s key value) e

end Entries

end PathRouter
