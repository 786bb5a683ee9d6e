/-
Where an expression matches, whatever its groups take. `Regex.spans` lists the places in the order in which a search
prefers them, and its first member is what the search finds (`head?_spans`). Groups count for nothing there: an
expression without them goes to the same places in the same order (`spans_bare`).
-/
import PathRouter.Proofs.Regex.Bare
import Mathlib.Data.List.Forall2

namespace PathRouter

/-- Two movements have come equally far. -/
def Progress.Abreast (p q : Progress) : Prop := p.pos = q.pos

namespace Track

/-! ## Tracks side by side -/

/-- From the same place, both tracks lead to the same places in the same order of preference. -/
structure Parallel (n : Nat) (a b : Track) : Prop where
  outcomes {p q : Progress} : p.Abreast q → List.Forall₂ Progress.Abreast (a.outcomes n p) (b.outcomes n q)

namespace Parallel

variable {n : Nat} {a a' b b' : Track}

theorem stay : Parallel n .stay .stay :=
  ⟨fun h => .cons h .nil⟩

theorem step (places : PositionSet) : Parallel n (.step places) (.step places) := by
  refine ⟨fun {p q} h => ?_⟩
  rw [Track.outcomes, Track.outcomes, show p.pos = q.pos from h]
  split
  · exact .cons (congrArg (· + 1) h) .nil
  · exact .nil

theorem hold (places : PositionSet) : Parallel n (.hold places) (.hold places) := by
  refine ⟨fun {p q} h => ?_⟩
  rw [Track.outcomes, Track.outcomes, show p.pos = q.pos from h]
  split
  · exact .cons h .nil
  · exact .nil

theorem seq (ha : Parallel n a b) (hb : Parallel n a' b') : Parallel n (.seq a a') (.seq b b') :=
  ⟨fun h => List.rel_flatMap (ha.outcomes h) fun _ _ hpq => hb.outcomes hpq⟩

theorem either (ha : Parallel n a b) (hb : Parallel n a' b') : Parallel n (.either a a') (.either b b') :=
  ⟨fun h => List.rel_append (ha.outcomes h) (hb.outcomes h)⟩

/-- What a group takes is recorded in one of the tracks only. -/
theorem span (h : Parallel n a b) (i : Nat) : Parallel n (.span i a) b := by
  refine ⟨fun {p q} hpq => ?_⟩
  rw [Track.outcomes, List.forall₂_map_left_iff]
  exact h.outcomes hpq

theorem optional (h : Parallel n a b) (greedy : Bool) : Parallel n (.optional greedy a) (.optional greedy b) := by
  cases greedy with
  | true => exact h.either stay
  | false => exact stay.either h

theorem power (h : Parallel n a b) : ∀ k, Parallel n (a.power k) (b.power k)
  | 0 => stay
  | k + 1 => h.seq (h.power k)

theorem atMost (h : Parallel n a b) (greedy : Bool) : ∀ k, Parallel n (a.atMost greedy k) (b.atMost greedy k)
  | 0 => stay
  | k + 1 => (h.seq (h.atMost greedy k)).optional greedy

/-- Further rounds: whether one has passed a character is a matter of the places only. -/
theorem rounds (h : Parallel n a b) (greedy : Bool) : ∀ (k : Nat) {p q : Progress}, p.Abreast q →
    List.Forall₂ Progress.Abreast (Track.rounds greedy (a.outcomes n) k p) (Track.rounds greedy (b.outcomes n) k q)
  | 0, _, _, hpq => .cons hpq .nil
  | k + 1, p, q, hpq => by
    have later : List.Forall₂ Progress.Abreast ((a.outcomes n p).filter (p.pos < ·.pos))
        ((b.outcomes n q).filter (q.pos < ·.pos)) := by
      refine List.rel_filter (fun p' q' h' => ?_) (h.outcomes hpq)
      show decide (p.pos < p'.pos) = true ↔ decide (q.pos < q'.pos) = true
      rw [show p.pos = q.pos from hpq, show p'.pos = q'.pos from h']
    have further := List.rel_flatMap later fun _ _ h' => h.rounds greedy k h'
    unfold Track.rounds
    cases greedy with
    | true => exact List.rel_append further (.cons hpq .nil)
    | false => exact .cons hpq further

theorem oneOrMore (h : Parallel n a b) (greedy : Bool) : Parallel n (.oneOrMore greedy a) (.oneOrMore greedy b) := by
  refine ⟨fun {p q} hpq => List.rel_flatMap (h.outcomes hpq) fun p' q' h' => ?_⟩
  rw [show p.pos = q.pos from hpq, show p'.pos = q'.pos from h']
  split
  · exact .cons h' .nil
  · exact h.rounds greedy _ h'

theorem times (h : Parallel n a b) (greedy : Bool) (min : Nat) (max : Option Nat) :
    Parallel n (.times greedy min max a) (.times greedy min max b) := by
  unfold Track.times
  split
  · exact (h.oneOrMore greedy).optional greedy
  · exact (h.power _).seq (h.oneOrMore greedy)
  · exact (h.power _).seq (h.atMost greedy _)

end Parallel

end Track

namespace Regex

/-- An expression goes along with itself without groups. -/
theorem parallel_bare (t : Text) (n : Nat) : ∀ r : Regex, Track.Parallel n (r.locate t) (r.bare.locate t)
  | .empty => .stay
  | .chars _ => .step _
  | .assert _ => .hold _
  | .concat r s => (parallel_bare t n r).seq (parallel_bare t n s)
  | .alt r s => (parallel_bare t n r).either (parallel_bare t n s)
  | .times greedy min max r => (parallel_bare t n r).times greedy min max
  | .group i r => (parallel_bare t n r).span i

/-! ## The places of matches -/

/-- Where the matches in a text that start at or behind a place start and stop, in the order in which a search
prefers them: further to the left first, and from one start in the order of preference. -/
def spans (r : Regex) (t : Text) (start : Nat) : List (Nat × Nat) :=
  (List.range' start (t.length + 1 - start)).flatMap fun i => (r.ways t ⟨i, []⟩).map fun q => (i, q.pos)

/-- A search finds the first of them. -/
theorem head?_spans (r : Regex) (t : Text) : (r.spans t 0).head? = (r.find t).map fun m => (m.start, m.stop) := by
  rw [spans, List.head?_flatMap, Nat.sub_zero, ← List.range_eq_range', find_eq, List.map_findSome?]
  refine congrArg (List.findSome? · _) (funext fun i => ?_)
  rw [Function.comp_apply, List.head?_map, Option.map_map]
  rfl

/-- Without its groups, the expression matches at the same places, in the same order of preference. -/
theorem spans_bare (r : Regex) (t : Text) (start : Nat) : r.bare.spans t start = r.spans t start := by
  refine List.flatMap_congr fun i _ => Eq.symm ?_
  have h : List.Forall₂ Progress.Abreast (r.ways t ⟨i, []⟩) (r.bare.ways t ⟨i, []⟩) :=
    (parallel_bare t t.length r).outcomes rfl
  have hsame : List.Forall₂ Eq ((r.ways t ⟨i, []⟩).map fun q => (i, q.pos)) ((r.bare.ways t ⟨i, []⟩).map fun q =>
      (i, q.pos)) := by
    rw [List.forall₂_map_left_iff, List.forall₂_map_right_iff]
    exact h.imp fun _ _ hpq => congrArg (Prod.mk i) hpq
  rwa [List.forall₂_eq_eq_eq] at hsame

end Regex

end PathRouter
