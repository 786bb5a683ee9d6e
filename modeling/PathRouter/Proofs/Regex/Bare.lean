/-
Expressions without their groups. Groups count for nothing in the texts that an expression stands for
(`matches_bare`), and a reader that opens no counted groups goes along with one that opens them
(`Reader.act_bare`): what the other one reads, it reads without the groups.
-/
import PathRouter.Proofs.Regex.Language
import PathRouter.Proofs.Regex.Reading

namespace PathRouter.Regex

/-- The expression without its groups. -/
def bare : Regex → Regex
  | empty => empty
  | chars s => chars s
  | assert a => assert a
  | concat r s => concat r.bare s.bare
  | alt r s => alt r.bare s.bare
  | times greedy min max r => times greedy min max r.bare
  | group _ r => r.bare

theorem matches_bare (r : Regex) : r.bare.Matches = r.Matches := by
  induction r with
  | empty | chars | assert => rfl
  | concat r s ihr ihs | alt r s ihr ihs =>
    funext v
    simp only [bare, Matches, ihr, ihs]
  | times greedy min max r ih =>
    funext v
    simp only [bare, Matches, ih]
  | group i r ih => exact ih

@[simp] theorem assertionFree_bare (r : Regex) : r.bare.assertionFree = r.assertionFree := by
  induction r with
  | empty | chars | assert => rfl
  | concat r s ihr ihs | alt r s ihr ihs => simp only [bare, assertionFree, ihr, ihs]
  | times greedy min max r ih => exact ih
  | group i r ih => exact ih

@[simp] theorem staysInPlace_bare (r : Regex) : r.bare.staysInPlace = r.staysInPlace := by
  induction r with
  | empty | chars | assert => rfl
  | concat r s ihr ihs | alt r s ihr ihs => simp only [bare, staysInPlace, ihr, ihs]
  | times greedy min max r ih => exact ih
  | group i r ih => exact ih

@[simp] theorem groupCount_bare (r : Regex) : r.bare.groupCount = 0 := by
  induction r with
  | empty | chars | assert => rfl
  | concat r s ihr ihs | alt r s ihr ihs => rw [bare, groupCount, ihr, ihs, Nat.max_self]
  | times greedy min max r ih => exact ih
  | group i r ih => exact ih

/-- Without its groups, an expression has a smaller program. -/
theorem leastSize_bare_le (r : Regex) : r.bare.leastSize ≤ r.leastSize := by
  induction r with
  | empty | chars | assert => exact Nat.le_refl _
  | concat r s ihr ihs => exact Nat.add_le_add ihr ihs
  | alt r s ihr ihs =>
    exact Nat.max_le.2 ⟨Nat.le_trans ihr (Nat.le_max_left _ _), Nat.le_trans ihs (Nat.le_max_right _ _)⟩
  | times greedy min max r ih =>
    cases max with
    | none => exact Nat.add_le_add_right (Nat.mul_le_mul_left _ ih) _
    | some n => exact Nat.add_le_add_right (Nat.mul_le_mul_left _ ih) _
  | group i r ih =>
    rw [bare, leastSize, Nat.add_assoc]
    exact Nat.le_trans ih (Nat.le_add_right _ _)

theorem bare_repetition (greedy : Bool) (min : Nat) (max : Option Nat) (r : Regex) :
    (repetition greedy min max r).bare = repetition greedy min max r.bare := by
  unfold repetition
  rw [staysInPlace_bare]
  split
  · rfl
  · split <;> rfl

theorem bare_concatAll (rs : List Regex) : (concatAll rs).bare = concatAll (rs.map bare) := by
  induction rs with
  | nil => rfl
  | cons r rs ih => rw [concatAll, bare, ih, List.map_cons, concatAll]

theorem bare_altAll (r : Regex) (rs : List Regex) : (altAll r rs).bare = altAll r.bare (rs.map bare) := by
  induction rs generalizing r with
  | nil => rfl
  | cons s rs ih => rw [altAll, bare, ih, List.map_cons, altAll]

/-! ## Pieces -/

namespace Piece

/-- The piece without groups. -/
def bare (p : Piece) : Piece := { p with regex := p.regex.bare }

@[simp] theorem bare_regex (p : Piece) : p.bare.regex = p.regex.bare := rfl

@[simp] theorem bare_height (p : Piece) : p.bare.height = p.height := rfl

theorem Single.bare {p : Piece} (h : p.Single) : p.bare = p := by
  obtain ⟨r, height, modes⟩ := p
  obtain ⟨-, ⟨s, hs⟩ | ⟨a, ha⟩⟩ := h
  · cases hs
    rfl
  · cases ha
    rfl

theorem map_height_bare (ps : List Piece) : (ps.map bare).map (·.height) = ps.map (·.height) := by
  rw [List.map_map]
  rfl

theorem map_regex_bare (ps : List Piece) : (ps.map bare).map (·.regex) = (ps.map (·.regex)).map Regex.bare := by
  rw [List.map_map, List.map_map]
  rfl

theorem concat_bare (ps : List Piece) : concat (ps.map bare) = (concat ps).bare := by
  match ps with
  | [] | [p] => rfl
  | p :: q :: ps =>
    have regex : ((p :: q :: ps).map bare).reverse.map (·.regex) = ((p :: q :: ps).reverse.map (·.regex)).map
        Regex.bare := by
      rw [← List.map_reverse, map_regex_bare]
    show Piece.mk (concatAll (((p :: q :: ps).map bare).reverse.map (·.regex)))
      (1 + (((p :: q :: ps).map bare).map (·.height)).foldl max 0) false = _
    rw [regex, ← bare_concatAll, map_height_bare]
    rfl

theorem alternatives_bare (p : Piece) (bs : List Piece) :
    p.bare.alternatives (bs.map bare) = (p.alternatives bs).bare := by
  cases bs with
  | nil => rfl
  | cons b bs =>
    have all : (p.bare :: (b :: bs).map bare).reverse = (p :: b :: bs).reverse.map bare := by
      rw [← List.map_cons, List.map_reverse]
    obtain ⟨q, qs, hq⟩ := List.exists_cons_of_ne_nil (show (p :: b :: bs).reverse ≠ [] by simp)
    rw [hq] at all
    rw [List.map_cons, Piece.alternatives, Piece.alternatives]
    · rw [List.map_cons] at all
      simp only [all, hq, List.map_cons, List.headD_cons, List.tail_cons, map_regex_bare, map_height_bare]
      exact congrArg (Piece.mk · _ false) (bare_altAll _ _).symm
    · exact fun h => by cases h
    · exact fun h => by cases h

end Piece

/-! ## Readers -/

/-- The open group as one that is not counted, with what was read around it without groups. -/
def OpenGroup.bare (g : OpenGroup) : OpenGroup :=
  ⟨none, g.flags, g.pieces.map Piece.bare, g.branches.map Piece.bare⟩

/-- What the token does that opens no counted group, where one may have been opened under the modes `f`. -/
def Action.bare (f : Flags) : Action → Action
  | openCounted | openNamed _ => openModes f
  | a => a

namespace Reader

/-- The reader that has opened no counted group, behind `n` groups. -/
def bare (n : Nat) (b : Reader) : Reader :=
  ⟨b.flags, n, [], b.pieces.map Piece.bare, b.branches.map Piece.bare, b.outer.map OpenGroup.bare⟩

theorem body_bare (n : Nat) (b : Reader) : (b.bare n).body = b.body.bare := by
  show (Piece.concat (b.pieces.map Piece.bare)).alternatives (b.branches.map Piece.bare) = _
  rw [Piece.concat_bare, Piece.alternatives_bare]
  rfl

/-- A reader without groups goes along. -/
theorem act_bare {b b' : Reader} {a : Action} (n : Nat) (hp : ∀ p, a = .add p → p.Single) (h : b.act a = .ok b') :
    (b.bare n).act (a.bare b.flags) = .ok (b'.bare n) := by
  cases a with
  | openCounted | openModes | setModes =>
    cases h
    rfl
  | openNamed name =>
    rw [act] at h
    split at h
    · cases h
    · cases h
      rfl
  | close =>
    obtain ⟨flags, groups, names, ps, bs, outer⟩ := b
    cases outer with
    | nil => cases h
    | cons g outer =>
      obtain ⟨i, f, gps, gbs⟩ := g
      have body := body_bare n ⟨flags, groups, names, ps, bs, ⟨i, f, gps, gbs⟩ :: outer⟩
      cases h
      show Except.ok (Reader.mk f n [] (⟨(Reader.body _).regex, 1 + (Reader.body _).height, false⟩ :: _) _ _) = _
      rw [body]
      cases i <;> rfl
  | alternate =>
    cases h
    show Except.ok (Reader.mk b.flags n [] [] (Piece.concat (b.pieces.map Piece.bare) :: _) _) = _
    rw [Piece.concat_bare]
    rfl
  | add p =>
    cases h
    show Except.ok (Reader.mk b.flags n [] (p :: _) _ _) = Except.ok (Reader.mk b.flags n [] (p.bare :: _) _ _)
    rw [(hp p rfl).bare]
    rfl
  | again greedy min max =>
    obtain ⟨flags, groups, names, ps, bs, outer⟩ := b
    cases ps with
    | nil => cases h
    | cons p ps =>
      simp only [act, repeatLatest] at h
      split at h
      · cases h
      · rename_i hm
        cases h
        show (if p.modes then _ else Except.ok
          (Reader.mk flags n [] (⟨repetition _ _ _ p.regex.bare, _, _⟩ :: _) _ _)) = _
        rw [if_neg hm, ← bare_repetition]
        rfl

theorem finish_bare {b : Reader} {x : Regex} {names : List (Nat × Text)} (n : Nat) (h : b.finish = .ok (x, names)) :
    (b.bare n).finish = .ok (x.bare, []) := by
  obtain ⟨ho, hheight, hsize, rfl⟩ := finish_eq_ok h
  have houter : (b.bare n).outer = [] := by rw [bare, ho]; rfl
  have hlimit := Nat.le_trans (Nat.add_le_add_left (leastSize_bare_le b.body.regex) frameSize) hsize
  rw [finish_eq houter, body_bare, Piece.bare_height, if_neg (Nat.not_lt.2 hheight), Piece.bare_regex,
    if_neg (Nat.not_lt.2 hlimit)]
  rfl

end Reader

end PathRouter.Regex
