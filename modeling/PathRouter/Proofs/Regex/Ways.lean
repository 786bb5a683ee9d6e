/-
The ways of a regular expression along a text, constructor by constructor. `Regex.ways` is what the
located track yields; here it is said in terms of the text that is left (`Progress.rest`), and the
search is said in terms of the ways: the first way at the leftmost position that has one.
-/
import PathRouter.Proofs.Regex.Search
import Mathlib.Data.List.Basic

namespace PathRouter

namespace Progress

/-- What is left of a text. -/
def rest (p : Progress) (t : Text) : Text :=
  t.drop p.pos

/-- Some characters further. -/
def skip (p : Progress) (k : Nat) : Progress :=
  { p with pos := p.pos + k }

@[simp] theorem skip_zero (p : Progress) : p.skip 0 = p := rfl

theorem advance_eq_skip (p : Progress) : p.advance = p.skip 1 := rfl

@[simp] theorem skip_skip (p : Progress) (i j : Nat) : (p.skip i).skip j = p.skip (i + j) := by
  simp [skip, Nat.add_assoc]

@[simp] theorem skip_pos (p : Progress) (k : Nat) : (p.skip k).pos = p.pos + k := rfl

@[simp] theorem skip_spans (p : Progress) (k : Nat) : (p.skip k).spans = p.spans := rfl

@[simp] theorem record_pos (p : Progress) (i start : Nat) : (p.record i start).pos = p.pos := rfl

@[simp] theorem rest_record (p : Progress) (i start : Nat) (t : Text) : (p.record i start).rest t = p.rest t := rfl

theorem rest_skip {p : Progress} {t v u : Text} (h : p.rest t = v ++ u) : (p.skip v.length).rest t = u := by
  unfold rest at h ⊢
  rw [skip_pos, ← List.drop_drop, h, List.drop_left]

theorem rest_skip_cons {p : Progress} {t u : Text} {c : Char} (h : p.rest t = c :: u) : (p.skip 1).rest t = u :=
  rest_skip (v := [c]) h

theorem getElem?_eq {p : Progress} {t : Text} : t[p.pos]? = (p.rest t).head? := by
  simp [rest]

theorem pos_le_of_rest {p : Progress} {t u : Text} {c : Char} (h : p.rest t = c :: u) : p.pos < t.length := by
  by_contra hn
  unfold rest at h
  rw [List.drop_eq_nil_of_le (by omega)] at h
  cases h

end Progress

namespace PositionSet

theorem testBit_ofChars (s : CharSet) (t : Text) (i : Nat) : (ofChars s t).testBit i = t[i]?.any s := by
  rw [ofChars, testBit_ofBits, List.getElem?_map]
  cases t[i]? <;> rfl

/-- The character before a position of a text that follows `before`. -/
def charBefore (before : Option Char) (t : Text) : Nat → Option Char
  | 0 => before
  | i + 1 => t[i]?

theorem getElem?_holdings (a : Assertion) : ∀ (before : Option Char) (t : Text) (i : Nat), i ≤ t.length →
    (holdings a before t)[i]? = some (a (charBefore before t i) t[i]?)
  | before, [], 0, _ => rfl
  | before, c :: t, 0, _ => rfl
  | before, c :: t, i + 1, h => by
    rw [holdings, List.getElem?_cons_succ, getElem?_holdings a (some c) t i (by simpa using h)]
    cases i <;> rfl

theorem testBit_ofAssertion (a : Assertion) {t : Text} {i : Nat} (h : i ≤ t.length) :
    (ofAssertion a t).testBit i = a (charBefore none t i) t[i]? := by
  rw [ofAssertion, testBit_ofBits, getElem?_holdings a none t i h, Option.getD_some]

end PositionSet

namespace Track

theorem within_power {n : Nat} {t : Track} (h : t.Within n) : ∀ k, (t.power k).Within n
  | 0 => trivial
  | k + 1 => ⟨h, within_power h k⟩

theorem within_optional {n : Nat} {t : Track} (h : t.Within n) (greedy : Bool) : (optional greedy t).Within n := by
  cases greedy
  · exact ⟨trivial, h⟩
  · exact ⟨h, trivial⟩

theorem within_atMost {n : Nat} {t : Track} (h : t.Within n) (greedy : Bool) : ∀ k, (atMost greedy t k).Within n
  | 0 => trivial
  | k + 1 => within_optional (t := seq t (atMost greedy t k)) ⟨h, within_atMost h greedy k⟩ greedy

theorem within_times {n : Nat} {t : Track} (h : t.Within n) (greedy : Bool) (min : Nat) (max : Option Nat) :
    (times greedy min max t).Within n := by
  unfold times
  split
  · exact within_optional (t := oneOrMore greedy t) h greedy
  · exact ⟨within_power h _, h⟩
  · exact ⟨within_power h _, within_atMost h greedy _⟩

end Track

namespace Regex

theorem within_locate (t : Text) : ∀ r : Regex, (r.locate t).Within t.length
  | .empty => trivial
  | .chars s => fun i h => by
    rw [PositionSet.testBit_ofChars] at h
    by_contra hn
    rw [List.getElem?_eq_none (by omega)] at h
    cases h
  | .assert _ => trivial
  | .concat r s => ⟨within_locate t r, within_locate t s⟩
  | .alt r s => ⟨within_locate t r, within_locate t s⟩
  | .times greedy min max r => Track.within_times (within_locate t r) greedy min max
  | .group _ r => within_locate t r

/-- Every way of the expression along a text, in the order of preference. -/
def ways (r : Regex) (t : Text) (p : Progress) : List Progress :=
  (r.locate t).outcomes t.length p

variable {t : Text} {p : Progress}

@[simp] theorem ways_empty : ways .empty t p = [p] := rfl

theorem ways_concat (r s : Regex) : ways (.concat r s) t p = (r.ways t p).flatMap (s.ways t) := rfl

theorem ways_alt (r s : Regex) : ways (.alt r s) t p = r.ways t p ++ s.ways t p := rfl

theorem ways_group (i : Nat) (r : Regex) : ways (.group i r) t p = (r.ways t p).map (·.record i p.pos) := rfl

theorem ways_concatAll_append (rs rs' : List Regex) :
    ways (concatAll (rs ++ rs')) t p = (ways (concatAll rs) t p).flatMap (ways (concatAll rs') t) := by
  induction rs generalizing p with
  | nil => simp [concatAll]
  | cons r rs ih =>
    rw [List.cons_append, concatAll, ways_concat, concatAll, ways_concat, List.flatMap_assoc]
    exact List.flatMap_congr fun q _ => ih

theorem ways_concatAll_singleton (r : Regex) : ways (concatAll [r]) t p = r.ways t p := by
  rw [concatAll, ways_concat]
  exact List.flatMap_singleton' _

theorem ways_chars_cons {s : CharSet} {c : Char} {u : Text} (h : p.rest t = c :: u) :
    ways (.chars s) t p = if s c then [p.skip 1] else [] := by
  simp [ways, locate, Track.outcomes, PositionSet.testBit_ofChars, Progress.getElem?_eq, h, Progress.advance_eq_skip]

theorem ways_chars_nil {s : CharSet} (h : p.rest t = []) : ways (.chars s) t p = [] := by
  simp [ways, locate, Track.outcomes, PositionSet.testBit_ofChars, Progress.getElem?_eq, h]

theorem ways_assert {a : Assertion} (h : p.pos ≤ t.length) :
    ways (.assert a) t p = if a (PositionSet.charBefore none t p.pos) (p.rest t).head? then [p] else [] := by
  rw [ways, locate, Track.outcomes, PositionSet.testBit_ofAssertion a h, Progress.getElem?_eq]

theorem ways_textEnd (h : p.pos ≤ t.length) : ways (.assert .textEnd) t p = if p.rest t = [] then [p] else [] := by
  rw [ways_assert h]
  cases p.rest t <;> rfl

/-! ## Repetitions -/

theorem ways_optional (r : Regex) : ways (.times true 0 (some 1) r) t p = r.ways t p ++ [p] := by
  simp [ways, locate, Track.times, Track.power, Track.atMost, Track.optional, Track.outcomes]

/-- Further rounds of a set of characters: every place up to the first character outside. -/
theorem rounds_chars {s : CharSet} (greedy : Bool) : ∀ {k : Nat} {p : Progress}, (p.rest t).length ≤ k →
    Track.rounds greedy ((Track.step (.ofChars s t)).outcomes t.length) k p =
      (if greedy then (List.range (((p.rest t).takeWhile s).length + 1)).reverse
        else List.range (((p.rest t).takeWhile s).length + 1)).map p.skip
  | 0, p, h => by
    rw [List.length_eq_zero_iff.1 (Nat.le_zero.1 h)]
    cases greedy <;> rfl
  | k + 1, p, h => by
    cases hr : p.rest t with
    | nil =>
      have : (Track.step (.ofChars s t)).outcomes t.length p = [] := ways_chars_nil hr
      rw [Track.rounds, this]
      cases greedy <;> rfl
    | cons c u =>
      have hw : (Track.step (.ofChars s t)).outcomes t.length p = if s c then [p.skip 1] else [] := ways_chars_cons hr
      rw [Track.rounds, hw, List.takeWhile_cons]
      cases s c with
      | false => cases greedy <;> rfl
      | true =>
        have hu : (p.skip 1).rest t = u := Progress.rest_skip_cons hr
        have hk : ((p.skip 1).rest t).length ≤ k := by
          rw [hu]
          rw [hr] at h
          exact Nat.le_of_succ_le_succ h
        have ih := rounds_chars greedy (s := s) (k := k) (p := p.skip 1) hk
        rw [hu] at ih
        have hskip : (p.skip 1).skip = p.skip ∘ Nat.succ := by
          funext i
          rw [Progress.skip_skip, Nat.add_comm]
          rfl
        have hlater : [p.skip 1].filter (fun q => decide (p.pos < q.pos)) = [p.skip 1] := by simp
        simp only [if_true, hlater, List.flatMap_singleton, ih, List.length_cons, hskip, ← List.map_map]
        rw [List.range_succ_eq_map (n := _ + 1)]
        cases greedy
        · simp
        · simp

/-- The places that one or more characters of a set lead to, the nearest first. -/
theorem ways_lazy_chars (s : CharSet) : ways (.times false 1 none (.chars s)) t p =
    (List.range ((p.rest t).takeWhile s).length).map fun i => p.skip (i + 1) := by
  have h : ways (.times false 1 none (.chars s)) t p = ((Regex.chars s).ways t p).flatMap fun q =>
      if q.pos = p.pos then [q]
      else Track.rounds false ((Track.step (.ofChars s t)).outcomes t.length) (t.length - q.pos) q := by
    simp only [ways, locate, Track.times, Track.power, Track.outcomes, List.flatMap_singleton]
  rw [h]
  cases hr : p.rest t with
  | nil => rw [ways_chars_nil hr]; rfl
  | cons c u =>
    rw [ways_chars_cons hr, List.takeWhile_cons]
    cases s c with
    | false => rfl
    | true =>
      have hu : (p.skip 1).rest t = u := Progress.rest_skip_cons hr
      simp only [if_true, List.flatMap_singleton]
      rw [if_neg (show (p.skip 1).pos ≠ p.pos by simp), rounds_chars _ (by simp [Progress.rest]), hu]
      simp [Nat.add_comm]

/-- The places that any number of characters of a set lead to, the farthest first. -/
theorem ways_greedy_chars (s : CharSet) : ways (.times true 0 none (.chars s)) t p =
    (List.range (((p.rest t).takeWhile s).length + 1)).reverse.map p.skip := by
  have h : ways (.times true 0 none (.chars s)) t p = (((Regex.chars s).ways t p).flatMap fun q =>
      if q.pos = p.pos then [q]
      else Track.rounds true ((Track.step (.ofChars s t)).outcomes t.length) (t.length - q.pos) q) ++ [p] := by
    simp only [ways, locate, Track.times, Track.optional, Track.outcomes, if_true]
  rw [h]
  cases hr : p.rest t with
  | nil => rw [ways_chars_nil hr]; rfl
  | cons c u =>
    rw [ways_chars_cons hr, List.takeWhile_cons]
    cases s c with
    | false => rfl
    | true =>
      have hu : (p.skip 1).rest t = u := Progress.rest_skip_cons hr
      have hskip : (p.skip 1).skip = p.skip ∘ Nat.succ := by
        funext i
        rw [Progress.skip_skip, Nat.add_comm]
        rfl
      simp only [if_true, List.flatMap_singleton]
      rw [if_neg (show (p.skip 1).pos ≠ p.pos by simp), rounds_chars _ (by simp [Progress.rest]), hu, if_pos rfl,
        hskip, ← List.map_map,
        List.length_cons, List.range_succ_eq_map (n := _ + 1)]
      simp

/-! ## Finding -/

/-- The search finds the first way at the leftmost position that has one. -/
theorem find_eq (r : Regex) (t : Text) :
    r.find t = (List.range (t.length + 1)).findSome? fun i =>
      (r.ways t ⟨i, []⟩).head?.map fun p => ⟨i, p.pos, p.spans⟩ := by
  rw [find, (within_locate t r).find_eq, List.map_findSome?]
  congr 1
  funext i
  simp only [Function.comp_apply, Option.map_map]
  rfl

theorem isMatch_eq (r : Regex) (t : Text) : r.isMatch t = (r.find t).isSome := by
  rw [isMatch, (within_locate t r).matchesSomewhere_eq, find, Option.isSome_map]

theorem ways_textStart (r : Regex) (t : Text) : ways (.concat (.assert .textStart) r) t ⟨0, []⟩ = r.ways t ⟨0, []⟩ := by
  rw [ways_concat, ways_assert (Nat.zero_le _), if_pos (by rfl), List.flatMap_singleton]

theorem ways_textStart_later (r : Regex) {t : Text} {i : Nat} (hi : i + 1 ≤ t.length) :
    ways (.concat (.assert .textStart) r) t ⟨i + 1, []⟩ = [] := by
  have hc : PositionSet.charBefore none t (i + 1) = t[i]? := rfl
  rw [ways_concat, ways_assert hi, hc, List.getElem?_eq_getElem hi]
  rfl

/-- An expression that asks for the start of the text matches nowhere else. -/
theorem find_textStart (r : Regex) (t : Text) :
    (concat (.assert .textStart) r).find t = (r.ways t ⟨0, []⟩).head?.map fun p => ⟨0, p.pos, p.spans⟩ := by
  rw [find_eq, List.range_succ_eq_map, List.findSome?_cons, ways_textStart]
  cases hw : (r.ways t ⟨0, []⟩).head? with
  | some p => rfl
  | none =>
    simp only [Option.map_none]
    rw [List.findSome?_eq_none_iff]
    intro i hi
    obtain ⟨j, hj, rfl⟩ := List.mem_map.1 hi
    rw [ways_textStart_later r (List.mem_range.1 hj)]
    rfl

theorem isMatch_textStart_iff {r : Regex} {t : Text} :
    (concat (.assert .textStart) r).isMatch t = true ↔ ∃ q, q ∈ r.ways t ⟨0, []⟩ := by
  rw [isMatch_eq, find_textStart, Option.isSome_map, List.isSome_head?]
  exact ⟨List.exists_mem_of_ne_nil _, fun ⟨_, hq⟩ => List.ne_nil_of_mem hq⟩

end Regex

end PathRouter
