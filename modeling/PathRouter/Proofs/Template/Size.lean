/-
How large the pattern of a template is, told from its segments: `Template.leastSize` counts the bytes
that the program of the pattern takes at the least. They are in proportion to the length of the
template (`Template.leastSize_le`), so that short templates are far below the limit.
-/
import Mathlib
import PathRouter.Template.Source

namespace PathRouter

/-! ## Sizes -/

/-- The bytes that a segment takes at the least in the program of its template. -/
def Segment.leastSize : Segment → Nat
  | empty => 0
  | literal text => 32 * (text.length + 1)
  | param p => 168 + (if p.optional then 72 else 0) + 32 * (p.suffix.getD []).length
  | wildcard o => 168 + if o then 72 else 0

/-- The bytes that the program of a template takes at the least. -/
def Template.leastSize (t : Text) (mode : Mode) : Nat :=
  ((segments t).map Segment.leastSize).sum + if mode = .loose then 360 else 296

/-! ## Suffixes -/

namespace Param

theorem suffix_withModifiers {name rest s : Text} {m : Option Text} (h : (withModifiers name m rest).suffix = some s) :
    s <:+ rest := by
  have := List.dropWhile_suffix (· != '.') (l := rest)
  unfold withModifiers at h
  dsimp only at h
  split at h
  · cases h
  · cases h
    exact this

theorem splitClosed_suffix : ∀ {t inside rest : Text} {depth : Nat},
    splitClosed depth t = some (inside, rest) → rest <:+ t
  | [], _, _, _, h => by cases h
  | c :: t, inside, rest, depth, h => by
    have within : ∀ {d}, (splitClosed d t).map (fun r => (c :: r.1, r.2)) = some (inside, rest) →
        rest <:+ c :: t := by
      intro d h
      obtain ⟨⟨i, r⟩, hr, he⟩ := Option.map_eq_some_iff.1 h
      cases he
      exact (splitClosed_suffix hr).trans (List.suffix_cons c t)
    unfold splitClosed at h
    dsimp only at h
    split at h
    · exact within h
    · split at h
      · split at h
        · cases h
          exact List.suffix_cons c _
        · exact within h
      · exact within h

/-- The suffix of a parameter is a part of what stands behind its colon. -/
theorem suffix_of_parse {body s : Text} (h : (parse body).suffix = some s) : s <:+ body := by
  have hbody := List.dropWhile_suffix (!endsName ·) (l := body)
  unfold parse at h
  dsimp only at h
  split at h
  · rename_i rest hrest
    rw [hrest] at hbody
    split at h
    · rename_i m rest' hc
      exact (suffix_withModifiers h).trans ((splitClosed_suffix hc).trans ((List.suffix_cons '(' rest).trans hbody))
    · cases h
  · exact (suffix_withModifiers h).trans hbody

theorem length_suffix_parse_le (body : Text) : ((parse body).suffix.getD []).length ≤ body.length := by
  cases h : (parse body).suffix with
  | none => exact Nat.zero_le _
  | some s => exact (suffix_of_parse h).length_le

end Param

/-- The suffix of a parameter is a part of its piece. -/
theorem Segment.suffix_of_parse {piece : Text} {p : Param} {s : Text} (h : parse piece = param p)
    (hs : p.suffix = some s) : s <:+ piece := by
  unfold parse at h
  split at h
  · cases h
  · cases h
  · rename_i body
    cases h
    exact (Param.suffix_of_parse hs).trans (List.suffix_cons ':' body)
  · cases h

/-! ## Sizes and lengths -/

theorem Segment.leastSize_parse_le (piece : Text) : (parse piece).leastSize ≤ 240 * piece.length := by
  unfold parse
  split
  · exact Nat.zero_le _
  · simp only [leastSize, List.length_cons]
    split <;> omega
  · rename_i body
    have hsuffix := Param.length_suffix_parse_le body
    simp only [leastSize, List.length_cons]
    split <;> omega
  · rename_i hne _ _
    have hpos : 0 < piece.length := List.length_pos_of_ne_nil hne
    rw [leastSize]
    omega

theorem Text.sum_length_split_le (sep : Char) : ∀ t : Text, ((split sep t).map List.length).sum ≤ t.length
  | [] => Nat.le_refl 0
  | c :: t => by
    have ih := sum_length_split_le sep t
    obtain ⟨p, ps, hp⟩ := List.exists_cons_of_ne_nil (split_ne_nil sep t)
    rw [hp, List.map_cons, List.sum_cons] at ih
    rw [split, hp]
    split
    · simp only [List.map_cons, List.sum_cons, List.length_cons, List.length_nil]
      omega
    · simp only [List.map_cons, List.sum_cons, List.length_cons]
      omega

namespace Template

/-- The program of a template takes bytes in proportion to its length. -/
theorem leastSize_le (t : Text) (mode : Mode) : leastSize t mode ≤ 240 * t.length + 360 := by
  have hpieces : ∀ ps : List Text,
      ((ps.map Segment.parse).map Segment.leastSize).sum ≤ 240 * (ps.map List.length).sum := by
    intro ps
    induction ps with
    | nil => exact Nat.le_refl 0
    | cons p ps ih =>
      have hp := Segment.leastSize_parse_le p
      simp only [List.map_cons, List.sum_cons, Nat.mul_add]
      omega
  have hlength : ((pieces t).map List.length).sum ≤ t.length := by
    have hsplit := Text.sum_length_split_le '/' t
    -- What stands before a leading slash is an empty piece, and `pieces` drops it.
    unfold pieces
    split
    · rename_i rest hrest
      rw [hrest, List.map_cons, List.sum_cons, List.length_nil, Nat.zero_add] at hsplit
      exact hsplit
    · exact hsplit
  have hending : (if mode = .loose then 360 else 296) ≤ 360 := by split <;> decide
  exact Nat.add_le_add ((hpieces (pieces t)).trans (Nat.mul_le_mul_left 240 hlength)) hending

end Template

end PathRouter
