/-
Parts of a text between byte offsets in its UTF-8 form. There is no such part if an offset lies inside a character or
behind the end of the text (`Text.splitAtByte?_eq_some_iff`).
-/
import PathRouter.Text

namespace PathRouter.Text

/-- The text before and behind a byte offset. -/
def splitAtByte? : Nat → Text → Option (Text × Text)
  | 0, t => some ([], t)
  | _ + 1, [] => none
  | n + 1, c :: t =>
    if c.utf8Size ≤ n + 1 then
      (splitAtByte? (n + 1 - c.utf8Size) t).map fun (front, back) => (c :: front, back)
    else none

/-- The text from a byte offset on. -/
def from? (t : Text) (start : Nat) : Option Text :=
  (splitAtByte? start t).map (·.2)

/-- The text between two byte offsets. -/
def slice? (t : Text) (start stop : Nat) : Option Text :=
  if start ≤ stop then
    (from? t start).bind fun back => (splitAtByte? (stop - start) back).map (·.1)
  else none

/-- A text is cut at the offsets where a character ends, and nowhere else. -/
theorem splitAtByte?_eq_some_iff {n : Nat} {t front back : Text} :
    splitAtByte? n t = some (front, back) ↔ t = front ++ back ∧ byteLength front = n := by
  constructor
  · intro h
    induction t generalizing n front with
    | nil =>
      cases n with
      | zero =>
        cases h
        exact ⟨rfl, rfl⟩
      | succ n => cases h
    | cons c t ih =>
      cases n with
      | zero =>
        cases h
        exact ⟨rfl, rfl⟩
      | succ n =>
        rw [splitAtByte?] at h
        split at h
        · obtain ⟨⟨u, v⟩, hsplit, heq⟩ := Option.map_eq_some_iff.1 h
          cases heq
          obtain ⟨rfl, hlength⟩ := ih hsplit
          exact ⟨rfl, by rw [byteLength_cons]; omega⟩
        · cases h
  · rintro ⟨rfl, rfl⟩
    induction front with
    | nil => cases back <;> rfl
    | cons c front ih =>
      have hpos := c.utf8Size_pos
      obtain ⟨n, hn⟩ := Nat.exists_eq_add_of_le' (show 1 ≤ byteLength (c :: front) by rw [byteLength_cons]; omega)
      rw [byteLength_cons] at hn
      have hrest : n + 1 - c.utf8Size = byteLength front := by omega
      rw [byteLength_cons, hn, List.cons_append, splitAtByte?, if_pos (by omega), hrest, ih]
      rfl

theorem from?_append (front back : Text) : from? (front ++ back) (byteLength front) = some back := by
  rw [from?, splitAtByte?_eq_some_iff.2 ⟨rfl, rfl⟩]
  rfl

theorem slice?_append (front part back : Text) :
    slice? (front ++ (part ++ back)) (byteLength front) (byteLength (front ++ part)) = some part := by
  rw [byteLength_append, slice?, if_pos (Nat.le_add_right _ _), from?_append, Option.bind_some, Nat.add_sub_cancel_left,
    splitAtByte?_eq_some_iff.2 ⟨rfl, rfl⟩]
  rfl

end PathRouter.Text
