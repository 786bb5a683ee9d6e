/-
The calls by which a type takes the parameters of a request, as elements or as entries. A call that takes something
brings a reader for it, which may fail with errors of its own. What a reader is given is taken, also if it cannot be
read. A type is free in what it calls next, whatever the answers were, and may stop at any time.
-/
import PathRouter.Extraction.Access

namespace PathRouter

variable {ε α : Type}

/-- Reads what was taken, if there was something to take. -/
def readTaken {σ β : Type} (read : β → Except ε α) : Option β × σ → Except ε (Option α) × σ
  | (some b, s) => ((read b).map some, s)
  | (none, s) => (.ok none, s)

namespace Elements

/-- A call on elements: for the number of them that are left, or for the next one. -/
inductive Call (ε : Type) : Type 1 where
  | size
  | next {α : Type} (read : Value → Except ε α)

/-- Takes the next element and reads it. -/
def readNext (read : Value → Except ε α) (e : Elements) : Except ε (Option α) × Elements :=
  readTaken read e.next

/-- The elements after a call. -/
def call (e : Elements) : Call ε → Elements
  | .size => e
  | .next read => (e.readNext read).2

/-- The elements after calls one after another. -/
def after (e : Elements) (calls : List (Call ε)) : Elements :=
  calls.foldl call e

end Elements

namespace Entries

/-- A call on entries: for the number of keys that are left, for the next key, or for the value of the latest key.
An entry is taken as a whole by a call for its key and, if the key could be read, one for its value. -/
inductive Call (ε : Type) : Type 1 where
  | size
  | key {α : Type} (read : Text → Except ε α)
  | value {α : Type} (read : Value → Except ε α)

/-- Takes the next key and reads it. -/
def readKey (read : Text → Except ε α) (e : Entries) : Except ε (Option α) × Entries :=
  readTaken read e.nextKey

/-- Takes the value of the latest key and reads it. If it cannot be taken, this is raised among the errors of the
reader. -/
def readValue (raise : ExtractionError → ε) (read : Value → Except ε α) (e : Entries) : Except ε α × Entries :=
  match e.nextValue with
  | (.ok v, e) => (read v, e)
  | (.error cause, e) => (.error (raise cause), e)

/-- The entries after a call. -/
def call (raise : ExtractionError → ε) (e : Entries) : Call ε → Entries
  | .size => e
  | .key read => (e.readKey read).2
  | .value read => (e.readValue raise read).2

/-- The entries after calls one after another. -/
def after (raise : ExtractionError → ε) (e : Entries) (calls : List (Call ε)) : Entries :=
  calls.foldl (call raise) e

end Entries

end PathRouter
