/-
Sets of code points given by their boundaries: the ascending list of the code points at which
membership changes. A code point is in the set iff an odd number of boundaries is at most it.
-/

namespace PathRouter.Unicode

/-- A set of code points, as the ascending list of those at which membership changes. -/
abbrev Boundaries := List Nat

/-- Whether an odd number of the ascending boundaries is at most `n`. -/
def contains : Boundaries → Nat → Bool
  | [], _ => false
  | b :: bs, n => if n < b then false else !contains bs n

end PathRouter.Unicode
