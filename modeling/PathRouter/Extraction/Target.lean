/-
Types that read themselves from the parameters of a request. Such a type is given parameters only if a
router recorded them and could decode them all; if not, the request is rejected before the type is asked.
-/
import PathRouter.Extraction.Read

namespace PathRouter

/-- What a reading of decoded parameters ends with: data, or an error that is not about decoding. -/
def ExtractionError.Decided {α : Type} (x : Except ExtractionError α) : Prop :=
  ∀ key, x ≠ .error (.undecodable key)

/-- A type that reads itself from decoded parameters. Whatever it makes of the errors that it meets, it has
no way to report that a value cannot be decoded. -/
structure Target (α : Type) where
  read : Decoded → Except ExtractionError α
  decided : ∀ params, ExtractionError.Decided (read params)

namespace Recorded

/-- The parameters that are handed to a type, or why there are none. -/
def handed : Option Recorded → Except Rejection Decoded
  | none => .error .missing
  | some (.error key) => .error (.parameters (.undecodable key))
  | some (.ok params) => .ok params

/-- Extracts by an action that reads parameters. The action is run on those that are handed to it, and not
at all if there are none. -/
def extractBy {m : Type → Type} [Monad m] {α : Type} (read : Decoded → m (Except ExtractionError α))
    (recorded : Option Recorded) : m (Except Rejection α) :=
  match handed recorded with
  | .ok params => do return (← read params).mapError .parameters
  | .error rejection => return .error rejection

end Recorded

/-- Reads what a router recorded for a request. -/
def Target.extract {α : Type} (T : Target α) (recorded : Option Recorded) : Except Rejection α :=
  Recorded.extractBy (m := Id) T.read recorded

end PathRouter
