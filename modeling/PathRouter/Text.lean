/-
Texts as lists of characters: their length in bytes of UTF-8 and the pieces between separators.
-/

namespace PathRouter

/-- A text, character by character. -/
abbrev Text := List Char

namespace Text

/-- The number of bytes of a text in UTF-8. -/
def byteLength : Text → Nat
  | [] => 0
  | c :: t => c.utf8Size + byteLength t

@[simp] theorem byteLength_nil : byteLength [] = 0 := rfl

@[simp] theorem byteLength_cons (c : Char) (t : Text) :
    byteLength (c :: t) = c.utf8Size + byteLength t := rfl

@[simp] theorem byteLength_append (t u : Text) :
    byteLength (t ++ u) = byteLength t + byteLength u := by
  induction t with
  | nil => simp
  | cons c t ih => simp [ih, Nat.add_assoc]

/-- The pieces of a text between the separators; there is one more piece than separators. -/
def split (sep : Char) : Text → List Text
  | [] => [[]]
  | c :: t =>
    if c = sep then [] :: split sep t
    else match split sep t with
      | [] => [[c]]
      | piece :: pieces => (c :: piece) :: pieces

theorem split_ne_nil (sep : Char) (t : Text) : split sep t ≠ [] := by
  cases t with
  | nil => simp [split]
  | cons c t =>
    rw [split]
    split
    · simp
    · split <;> simp

theorem split_of_not_mem {sep : Char} {t : Text} (h : sep ∉ t) : split sep t = [t] := by
  induction t with
  | nil => rfl
  | cons c t ih =>
    have hc : c ≠ sep := fun hc => h (hc ▸ List.mem_cons_self)
    rw [split, if_neg hc, ih fun ht => h (List.mem_cons_of_mem c ht)]

/-- The text without the leading occurrences of a character. -/
def trimStart (c : Char) (t : Text) : Text :=
  t.dropWhile (· == c)

/-- The text without the trailing occurrences of a character. -/
def trimEnd (c : Char) (t : Text) : Text :=
  (trimStart c t.reverse).reverse

/-- Whether the text contains the character. -/
def has (t : Text) (c : Char) : Bool :=
  t.any (· == c)

end Text

end PathRouter
