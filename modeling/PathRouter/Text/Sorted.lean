/-
Lists of keys and values in the order of their keys, each key once.
-/
import PathRouter.Text

namespace PathRouter.Text

/-- The order of texts by code points, which is that of their bytes. -/
def less : Text → Text → Bool
  | _, [] => false
  | [], _ :: _ => true
  | c :: s, d :: t => c < d || (c == d && less s t)

/-- With an entry put at the place of its key; an entry with the same key is replaced. -/
def insertSorted {α : Type} (less : Text → Text → Bool) (key : Text) (value : α) :
    List (Text × α) → List (Text × α)
  | [] => [(key, value)]
  | (k, v) :: rest =>
    if less k key then (k, v) :: insertSorted less key value rest
    else if k = key then (key, value) :: rest
    else (key, value) :: (k, v) :: rest

/-- The entries in the order of their keys; the last of several with one key counts. -/
def sorted {α : Type} (less : Text → Text → Bool) (entries : List (Text × α)) :
    List (Text × α) :=
  entries.foldl (fun done (k, v) => insertSorted less k v done) []

end PathRouter.Text
