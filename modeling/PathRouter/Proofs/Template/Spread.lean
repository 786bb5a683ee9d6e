/-
How plain segments spread over a path. `Template.spread` lists the values that segments can take from
a text, in the order of preference, with the number of characters that they take together. These are
the ways of the expression of a plain template (`Template.exec_eq`), so what a route captures is the
first of them that ends well.
-/
import PathRouter.Proofs.Regex.Ways
import PathRouter.Proofs.Template.Plain
import PathRouter.Proofs.Unicode.Folding
import PathRouter.Route
import Mathlib.Data.List.Forall2

namespace PathRouter

open Regex

/-- Whether a text begins with another one up to case. -/
def startsLike : Text → Text → Bool
  | [], _ => true
  | _ :: _, [] => false
  | c :: s, d :: t => Unicode.sameFold c d && startsLike s t

/-! ## What segments take -/

namespace Segment

/-- The values of a parameter in front of a text, the shortest first, with their lengths. -/
def values (t : Text) : List (Option Text × Nat) :=
  (List.range (t.takeWhile (· != '/')).length).map fun i => (some (t.take (i + 1)), i + 1)

/-- The values of a wildcard in front of a text, the longest first, with their lengths. -/
def wilds (t : Text) : List (Option Text × Nat) :=
  (List.range ((t.takeWhile (· != '\n')).length + 1)).reverse.map fun i => (some (t.take i), i)

/-- Values behind a slash. -/
def afterSlash (f : Text → List (Option Text × Nat)) : Text → List (Option Text × Nat)
  | '/' :: t => (f t).map fun r => (r.1, r.2 + 1)
  | _ => []

/-- No value, if there need not be one. -/
def absent (optional : Bool) : List (Option Text × Nat) :=
  if optional then [(none, 0)] else []

/-- The value that a segment with a key can take from a text, in the order of preference, with the
number of characters that the segment takes. -/
def takesValue (s : Segment) (t : Text) : List (Option Text × Nat) :=
  match s with
  | empty | literal _ => []
  | wildcard o => afterSlash wilds t ++ absent o
  | param p =>
    match p.suffix with
    | none => afterSlash values t ++ absent p.optional
    | some s =>
      ((afterSlash (fun u => values u ++ absent p.optional) t).filter fun r => startsLike s (t.drop r.2)).map
        fun r => (r.1, r.2 + s.length)

/-- The values that a segment can take from a text, one for each key, in the order of preference, with
the number of characters that it takes. -/
def takes (s : Segment) (t : Text) : List (List (Option Text) × Nat) :=
  match s with
  | empty => [([], 0)]
  | literal text => if startsLike ('/' :: text) t then [([], text.length + 1)] else []
  | s => (s.takesValue t).map fun r => ([r.1], r.2)

end Segment

namespace Template

/-- The values that segments can take from a text, one for each key, in the order of preference, with
the number of characters that they take. -/
def spread : List Segment → Text → List (List (Option Text) × Nat)
  | [], _ => [([], 0)]
  | s :: ss, t => (s.takes t).flatMap fun r => (spread ss (t.drop r.2)).map fun r' => (r.1 ++ r'.1, r.2 + r'.2)

/-- Whether a route may end in front of a text. -/
def Mode.ends (mode : Mode) (t : Text) : Bool :=
  match mode with
  | .strict => t == [] || t == ['/']
  | .loose => t == [] || t.head? == some '/'

end Template

theorem Template.Mode.ends_nil (mode : Mode) : mode.ends [] = true := by
  cases mode <;> rfl

theorem Template.Mode.strict_ends_iff {t : Text} : Mode.strict.ends t = true ↔ t = [] ∨ t = ['/'] := by
  rw [ends, Bool.or_eq_true, beq_iff_eq, beq_iff_eq]

/-! ## The ways of parts of segments -/

theorem sameFold_slash {c : Char} : Unicode.sameFold '/' c = true ↔ c = '/' :=
  Unicode.sameFold_low (by decide) (by decide)

theorem notSlash_eq : notSlash = (· != '/') := by
  funext c
  have h : (CharSet.anyCase fun c => [ClassPart.flat (CharSet.single '/')].any (·.set c)) c = true ↔ c = '/' :=
    CharSet.anyCase_low (by decide) (by decide) (by simp [ClassPart.flat, CharSet.single])
  rw [notSlash, CharSet.compl, Bool.eq_iff_iff, Bool.not_eq_true', ← Bool.not_eq_true, h, bne_iff_ne]

namespace Regex

variable {t : Text} {p : Progress}

theorem ways_letters (s : Text) :
    ways (concatAll (letters s)) t p = if startsLike s (p.rest t) then [p.skip s.length] else [] := by
  induction s generalizing p with
  | nil => simp [letters, concatAll, startsLike]
  | cons c s ih =>
    rw [letters, List.map_cons, concatAll, ways_concat]
    cases hr : p.rest t with
    | nil => rw [ways_chars_nil hr]; rfl
    | cons d u =>
      rw [ways_chars_cons hr, startsLike]
      cases Unicode.sameFold c d with
      | false => rfl
      | true =>
        rw [if_pos rfl, List.flatMap_singleton]
        refine ih.trans ?_
        rw [Progress.rest_skip_cons hr, Progress.skip_skip, Nat.add_comm 1]
        rfl

/-- Where a value leads to that stands here, with the number of characters up to there. -/
def valued (i : Nat) (p : Progress) (r : Option Text × Nat) : Progress :=
  match r.1 with
  | none => p.skip r.2
  | some v => ⟨p.pos + r.2, ⟨i, p.pos, p.pos + v.length⟩ :: p.spans⟩

/-- Where a value leads to that stands behind the next character. -/
def landed (i : Nat) (p : Progress) (r : Option Text × Nat) : Progress :=
  match r.1 with
  | none => p.skip r.2
  | some v => ⟨p.pos + r.2, ⟨i, p.pos + 1, p.pos + 1 + v.length⟩ :: p.spans⟩

theorem landed_succ (i : Nat) (p : Progress) (v : Option Text) (k : Nat) :
    landed i p (v, k + 1) = valued i (p.skip 1) (v, k) := by
  cases v <;> simp [landed, valued, Nat.add_assoc, Nat.add_comm 1 k]

@[simp] theorem landed_pos (i : Nat) (p : Progress) (r : Option Text × Nat) : (landed i p r).pos = p.pos + r.2 := by
  unfold landed
  split <;> rfl

theorem landed_skip (i : Nat) (p : Progress) (r : Option Text × Nat) (k : Nat) :
    (landed i p r).skip k = landed i p (r.1, r.2 + k) := by
  unfold landed
  split <;> simp [Progress.skip, Nat.add_assoc, *]

theorem rest_landed (i : Nat) (r : Option Text × Nat) : (landed i p r).rest t = (p.rest t).drop r.2 := by
  rw [Progress.rest, landed_pos, Progress.rest, List.drop_drop]

theorem ways_captured (i : Nat) (r : Regex) : (captured i r).ways t p = (r.ways t p).map (·.record i p.pos) := by
  rw [captured, ways_group, ways_concat]
  congr 1
  exact List.flatMap_singleton' _

theorem valued_take {i k : Nat} {u : Text} (h : k ≤ u.length) :
    (p.skip k).record i p.pos = valued i p (some (u.take k), k) := by
  simp [valued, Progress.record, Progress.skip, Nat.min_eq_left h]

theorem ways_value (i : Nat) : (value i).ways t p = (Segment.values (p.rest t)).map (valued i p) := by
  rw [value, ways_captured, ways_lazy_chars, notSlash_eq, Segment.values, List.map_map, List.map_map]
  refine List.map_congr_left fun k hk => valued_take ?_
  have := List.takeWhile_prefix (· != '/') (l := p.rest t) |>.length_le
  have := List.mem_range.1 hk
  omega

theorem ways_wild (i : Nat) : (wild i).ways t p = (Segment.wilds (p.rest t)).map (valued i p) := by
  rw [wild, ways_captured, ways_greedy_chars, Segment.wilds, List.map_map, List.map_map]
  refine List.map_congr_left fun k hk => valued_take ?_
  have := List.takeWhile_prefix (· != '\n') (l := p.rest t) |>.length_le
  have := List.mem_range.1 (List.mem_reverse.1 hk)
  omega

theorem ways_behindSlash {r : Regex} {i : Nat} {f : Text → List (Option Text × Nat)}
    (h : ∀ q : Progress, r.ways t q = (f (q.rest t)).map (valued i q)) :
    ways (concatAll (behindSlash r)) t p = (Segment.afterSlash f (p.rest t)).map (landed i p) := by
  rw [behindSlash, ways_concatAll_append, ways_letters]
  cases hr : p.rest t with
  | nil => rfl
  | cons c u =>
    by_cases hc : c = '/'
    · subst hc
      rw [if_pos (by simp [startsLike]), List.flatMap_singleton, ways_concatAll_singleton, h, List.length_singleton,
        Progress.rest_skip_cons hr, Segment.afterSlash, List.map_map]
      exact List.map_congr_left fun r _ => (landed_succ i p r.1 r.2).symm
    · have hs : Segment.afterSlash f (c :: u) = [] := by simp [Segment.afterSlash, hc]
      have hf : startsLike ['/'] (c :: u) = false := by
        rw [startsLike, Bool.and_eq_false_iff, ← Bool.not_eq_true, sameFold_slash]
        exact .inl hc
      rw [hs, if_neg (by rw [hf]; decide)]
      rfl

theorem ways_optional_landed {r : Regex} {i : Nat} {l : List (Option Text × Nat)}
    (h : r.ways t p = l.map (landed i p)) :
    ways (concatAll [Regex.optional r]) t p = (l ++ Segment.absent true).map (landed i p) := by
  rw [ways_concatAll_singleton, Regex.optional, ways_optional, h, List.map_append]
  rfl

/-- The values that a segment with a key takes are the ways of its expressions. -/
theorem ways_takesValue {s : Segment} (hs : s.Plain) (hk : s.keys ≠ []) (n : Nat) :
    ways (concatAll (s.regexes n)) t p = (s.takesValue (p.rest t)).map (landed (n + 1) p) := by
  cases s with
  | empty | literal => exact absurd rfl hk
  | wildcard o =>
    have wild : ways (concatAll (behindSlash (wild (n + 1)))) t p = _ := ways_behindSlash fun q => ways_wild (n + 1)
    cases o with
    | false =>
      rw [Segment.regexes, wild, Segment.takesValue, Segment.absent, if_neg Bool.false_ne_true, List.append_nil]
    | true => exact ways_optional_landed wild
  | param m =>
    obtain ⟨name, optional, matcher, suffix⟩ := m
    have value : ways (concatAll (behindSlash (value (n + 1)))) t p = _ := ways_behindSlash fun q => ways_value (n + 1)
    cases suffix with
    | none =>
      cases optional with
      | false =>
        simp only [Segment.regexes, Segment.takesValue, Segment.absent, Bool.false_eq_true, if_false, List.append_nil]
        exact value
      | true => exact ways_optional_landed value
    | some s =>
      have first : ways (concatAll (behindSlash
          (if optional then Regex.optional (Regex.value (n + 1)) else Regex.value (n + 1)))) t p =
          (Segment.afterSlash (fun u => Segment.values u ++ Segment.absent optional) (p.rest t)).map
            (landed (n + 1) p) := by
        refine ways_behindSlash fun q => ?_
        cases optional with
        | false => simpa [Segment.absent] using ways_value (n + 1)
        | true =>
          rw [if_pos rfl, Regex.optional, ways_optional, ways_value, List.map_append]
          rfl
      simp only [Segment.regexes, Segment.takesValue]
      rw [ways_concatAll_append, first, List.flatMap_map, List.map_map]
      generalize Segment.afterSlash (fun u => Segment.values u ++ Segment.absent optional) (p.rest t) = l
      induction l with
      | nil => rfl
      | cons r l ih =>
        rw [List.flatMap_cons, ih, ways_letters, rest_landed, List.filter_cons]
        cases startsLike s ((p.rest t).drop r.2) with
        | false => rfl
        | true =>
          rw [if_pos rfl, if_pos rfl, List.map_cons, landed_skip]
          rfl

end Regex

/-! ## The ways of segments -/

namespace Segment

theorem prefix_of_mem_takes {t v : Text} {k : Nat} {ks : List Nat} {f : Nat → Nat}
    (h : (some v, k) ∈ ks.map fun i => (some (t.take (f i)), f i)) : v <+: t := by
  obtain ⟨i, -, hi⟩ := List.mem_map.1 h
  cases hi
  exact List.take_prefix _ _

theorem prefix_of_mem_afterSlash {f : Text → List (Option Text × Nat)} (hf : ∀ {t v k}, (some v, k) ∈ f t → v <+: t)
    {t v : Text} {k : Nat} (h : (some v, k) ∈ afterSlash f t) : v <+: t.tail := by
  unfold afterSlash at h
  split at h
  · obtain ⟨⟨v', k'⟩, hr, he⟩ := List.mem_map.1 h
    cases he
    exact hf hr
  · cases h

theorem not_mem_absent {o : Bool} {v : Text} {k : Nat} : (some v, k) ∉ absent o := by
  cases o <;> simp [absent]

/-- The value of a segment stands behind the first character. -/
theorem prefix_of_mem_takesValue {s : Segment} {t v : Text} {k : Nat} (h : (some v, k) ∈ s.takesValue t) :
    v <+: t.tail := by
  have outside : ∀ {f : Text → List (Option Text × Nat)} {o}, (∀ {t v k}, (some v, k) ∈ f t → v <+: t) →
      (some v, k) ∈ afterSlash f t ++ absent o → v <+: t.tail := by
    intro f o hf h
    rcases List.mem_append.1 h with h | h
    · exact prefix_of_mem_afterSlash hf h
    · exact absurd h not_mem_absent
  cases s with
  | empty | literal => cases h
  | wildcard o => exact outside prefix_of_mem_takes h
  | param m =>
    rw [takesValue] at h
    split at h
    · exact outside prefix_of_mem_takes h
    · obtain ⟨⟨v', k'⟩, hr, he⟩ := List.mem_map.1 h
      cases he
      refine prefix_of_mem_afterSlash (fun {t v k} h => ?_) (List.mem_filter.1 hr).1
      rcases List.mem_append.1 h with h | h
      · exact prefix_of_mem_takes h
      · exact absurd h not_mem_absent

end Segment

/-- The part of a text that the latest passage of a group matched. -/
def textOf (t : Text) (spans : List Span) (i : Nat) : Option Text :=
  (spans.find? (·.group == i)).map fun s => (t.take s.stop).drop s.start

/-- A way goes as far as the values taken tell, and the groups behind the first `n` match the values. -/
structure Reaches (t : Text) (n : Nat) (p : Progress) (r : List (Option Text) × Nat) (q : Progress) : Prop where
  pos : q.pos = p.pos + r.2
  spans : ∃ spans, q.spans = spans ++ p.spans ∧ (∀ s ∈ spans, n < s.group ∧ s.group ≤ n + r.1.length) ∧
    ∀ i (h : i < r.1.length), textOf t spans (n + i + 1) = r.1[i]

namespace Reaches

variable {t : Text} {n : Nat} {p q : Progress}

theorem of_skip (k : Nat) : Reaches t n p ([], k) (p.skip k) :=
  ⟨rfl, [], rfl, List.forall_mem_nil _, fun i h => absurd h (Nat.not_lt_zero i)⟩

theorem of_landed {r : Option Text × Nat} (hr : ∀ v, r.1 = some v → v <+: (p.rest t).tail) :
    Reaches t n p ([r.1], r.2) (landed (n + 1) p r) := by
  refine ⟨landed_pos _ _ _, ?_⟩
  obtain ⟨v, k⟩ := r
  cases v with
  | none =>
    refine ⟨[], rfl, List.forall_mem_nil _, fun i h => ?_⟩
    obtain rfl : i = 0 := by simpa using h
    rfl
  | some v =>
    refine ⟨[⟨n + 1, p.pos + 1, p.pos + 1 + v.length⟩], rfl, ?_, fun i h => ?_⟩
    · simp
    · obtain rfl : i = 0 := by simpa using h
      obtain ⟨u, hu⟩ := hr v rfl
      have hu : t.drop (p.pos + 1) = v ++ u := by
        rw [hu, Progress.rest, List.tail_drop]
      have : (t.take (p.pos + 1 + v.length)).drop (p.pos + 1) = v := by
        rw [List.drop_take, Nat.add_sub_cancel_left, hu, List.take_left]
      simpa [textOf] using this

theorem trans {q' : Progress} {r r' : List (Option Text) × Nat} (h : Reaches t n p r q)
    (k : Reaches t (n + r.1.length) q r' q') : Reaches t n p (r.1 ++ r'.1, r.2 + r'.2) q' := by
  obtain ⟨hpos, spans, hs, hg, ht⟩ := h
  obtain ⟨kpos, spans', ks, kg, kt⟩ := k
  refine ⟨by rw [kpos, hpos, Nat.add_assoc], spans' ++ spans, by rw [ks, hs, List.append_assoc], ?_, fun i hi => ?_⟩
  · intro s hs
    rw [List.length_append]
    rcases List.mem_append.1 hs with hs | hs
    · have := kg s hs
      omega
    · have := hg s hs
      omega
  · -- A group among the first ones has no span among the later ones, and the other way round.
    have split : ∀ j, textOf t (spans' ++ spans) j = (textOf t spans' j).or (textOf t spans j) := by
      intro j
      rw [textOf, List.find?_append, Option.map_or]
      rfl
    have none_of : ∀ {l : List Span} {j}, (∀ s ∈ l, s.group ≠ j) → textOf t l j = none := by
      intro l j hl
      rw [textOf, Option.map_eq_none_iff, List.find?_eq_none]
      intro s hs
      simpa using hl s hs
    rw [split]
    by_cases hlt : i < r.1.length
    · rw [none_of fun s hs => by have := kg s hs; omega, Option.none_or, List.getElem_append_left hlt]
      exact ht i hlt
    · have hi' : i - r.1.length < r'.1.length := by
        rw [List.length_append] at hi
        omega
      have := kt (i - r.1.length) hi'
      rw [show n + r.1.length + (i - r.1.length) + 1 = n + i + 1 by omega] at this
      rw [this, none_of (l := spans) fun s hs => by have := hg s hs; omega, Option.or_none,
        List.getElem_append_right (by omega)]

end Reaches

namespace Template

variable {t : Text}

theorem length_of_mem_takes {s : Segment} {t : Text} {r : List (Option Text) × Nat} (h : r ∈ s.takes t) :
    r.1.length = s.keys.length := by
  cases s with
  | empty => rw [List.mem_singleton.1 h]; rfl
  | literal text =>
    rw [Segment.takes] at h
    split at h
    · rw [List.mem_singleton.1 h]; rfl
    · cases h
  | param | wildcard =>
    obtain ⟨r, -, rfl⟩ := List.mem_map.1 h
    rfl

theorem ways_segment {s : Segment} (hs : s.Plain) (n : Nat) (p : Progress) :
    List.Forall₂ (Reaches t n p) (s.takes (p.rest t)) (ways (concatAll (s.regexes n)) t p) := by
  have keyed : s.keys ≠ [] → List.Forall₂ (Reaches t n p) ((s.takesValue (p.rest t)).map fun r => ([r.1], r.2))
      (ways (concatAll (s.regexes n)) t p) := by
    intro hk
    rw [ways_takesValue hs hk, List.forall₂_map_left_iff, List.forall₂_map_right_iff, List.forall₂_same]
    rintro ⟨v, k⟩ hr
    refine .of_landed fun w hw => ?_
    dsimp only at hw
    subst hw
    exact Segment.prefix_of_mem_takesValue hr
  cases s with
  | empty => exact .cons (.of_skip 0) .nil
  | literal text =>
    rw [Segment.regexes, ways_letters, Segment.takes]
    split
    · exact .cons (.of_skip _) .nil
    · exact .nil
  | param | wildcard => exact keyed (List.cons_ne_nil _ _)

/-- The values that plain segments can take are the ways of their expressions. -/
theorem ways_segments : ∀ {ss : List Segment} (n : Nat) (p : Progress), (∀ s ∈ ss, s.Plain) →
    List.Forall₂ (Reaches t n p) (spread ss (p.rest t)) (ways (concatAll (regexes n ss)) t p)
  | [], n, p, _ => .cons (.of_skip 0) .nil
  | s :: ss, n, p, h => by
    rw [regexes, ways_concatAll_append, spread]
    have hs := ways_segment (t := t) (h s List.mem_cons_self) n p
    have hlen : ∀ r ∈ s.takes (p.rest t), r.1.length = s.keys.length := fun r hr => length_of_mem_takes hr
    generalize s.takes (p.rest t) = l at hs hlen
    generalize ways (concatAll (s.regexes n)) t p = l' at hs
    induction hs with
    | nil => exact .nil
    | @cons r q l l' hr hs ih =>
      rw [List.flatMap_cons, List.flatMap_cons]
      refine List.rel_append ?_ (ih fun r' hr' => hlen r' (List.mem_cons_of_mem _ hr'))
      have hrest : q.rest t = (p.rest t).drop r.2 := by
        rw [Progress.rest, hr.pos, Progress.rest, List.drop_drop]
      have later : ∀ s' ∈ ss, s'.Plain := fun s' hs' => h s' (List.mem_cons_of_mem s hs')
      have hss := ways_segments (n + s.keys.length) q later
      rw [hrest] at hss
      rw [List.forall₂_map_left_iff]
      refine hss.imp fun r' q' hr' => hr.trans ?_
      rw [hlen r List.mem_cons_self]
      exact hr'

/-! ## The ways of an ending -/

/-- Where a route ends that may end at a place, behind `n` groups. -/
def Mode.finish (mode : Mode) (n : Nat) (t : Text) (q : Progress) : Progress :=
  match mode with
  | .strict => ⟨t.length, q.spans⟩
  | .loose => (q.skip (if q.rest t = [] then 0 else 1)).record (n + 1) q.pos

theorem ways_ending (mode : Mode) (n : Nat) {q : Progress} (hq : q.pos ≤ t.length) :
    ways (concatAll (mode.regexes n)) t q = if mode.ends (q.rest t) then [mode.finish n t q] else [] := by
  have slash : ∀ {c u}, q.rest t = c :: u →
      ways (.chars (Unicode.sameFold '/')) t q = if c = '/' then [q.skip 1] else [] := by
    intro c u hr
    rw [ways_chars_cons hr]
    by_cases hc : c = '/'
    · rw [if_pos hc, if_pos (sameFold_slash.2 hc)]
    · rw [if_neg hc, if_neg (mt sameFold_slash.1 hc)]
  have atEnd : ∀ {p : Progress} {u}, p.pos ≤ t.length → p.rest t = u →
      ways (.assert .textEnd) t p = if u = [] then [p] else [] := by
    rintro p u hp rfl
    exact ways_textEnd hp
  cases hr : q.rest t with
  | nil =>
    have hlen : q.pos = t.length := Nat.le_antisymm hq (List.drop_eq_nil_iff.1 hr)
    cases mode with
    | strict =>
      have hways : ways (concatAll (Mode.strict.regexes n)) t q = [q] := by
        rw [Mode.regexes, concatAll, ways_concat, Regex.optional, ways_optional, ways_chars_nil hr, List.nil_append,
          List.flatMap_singleton, ways_concatAll_singleton, atEnd hq hr, if_pos rfl]
      rw [hways, Mode.ends, Mode.finish, if_pos (by simp), ← hlen]
    | loose =>
      have hways : ways (concatAll (Mode.loose.regexes n)) t q = [q.record (n + 1) q.pos] := by
        rw [Mode.regexes, ways_concatAll_singleton, ways_group, ways_alt, letters, List.map_singleton,
          ways_concatAll_singleton, ways_concatAll_singleton, ways_chars_nil hr, atEnd hq hr, if_pos rfl]
        rfl
      rw [hways, Mode.ends, Mode.finish, if_pos (by simp), if_pos hr, Progress.skip_zero]
  | cons c u =>
    have hlt := Progress.pos_le_of_rest hr
    have hu : (q.skip 1).rest t = u := Progress.rest_skip_cons hr
    cases mode with
    | strict =>
      have hways : ways (concatAll (Mode.strict.regexes n)) t q = if c = '/' ∧ u = [] then [q.skip 1] else [] := by
        rw [Mode.regexes, concatAll, ways_concat, Regex.optional, ways_optional, slash hr, List.flatMap_append,
          List.flatMap_singleton, ways_concatAll_singleton, atEnd hq hr, if_neg (List.cons_ne_nil c u), List.append_nil]
        by_cases hc : c = '/'
        · rw [if_pos hc, List.flatMap_singleton, ways_concatAll_singleton, atEnd (by exact hlt) hu]
          by_cases hn : u = [] <;> simp [hc, hn]
        · rw [if_neg hc, if_neg fun h => hc h.1]
          rfl
      rw [hways, Mode.ends, Mode.finish]
      by_cases hc : c = '/' ∧ u = []
      · obtain ⟨rfl, rfl⟩ := hc
        have hlen : t.length = q.pos + 1 := by
          have := congrArg List.length hr
          rw [Progress.rest, List.length_drop] at this
          simp at this
          omega
        simp [hlen, Progress.skip]
      · rw [if_neg hc, if_neg]
        simpa using hc
    | loose =>
      have hways : ways (concatAll (Mode.loose.regexes n)) t q = if c =
          '/' then [(q.skip 1).record (n + 1) q.pos] else [] := by
        rw [Mode.regexes, ways_concatAll_singleton, ways_group, ways_alt, letters, List.map_singleton,
          ways_concatAll_singleton, ways_concatAll_singleton, slash hr, atEnd hq hr, if_neg (List.cons_ne_nil c u)]
        by_cases hc : c = '/' <;> simp [hc]
      rw [hways, Mode.ends, Mode.finish, hr]
      by_cases hc : c = '/' <;> simp [hc]

/-! ## What a route captures -/

theorem groupCount_concatAll_append (rs rs' : List Regex) :
    (concatAll (rs ++ rs')).groupCount = max (concatAll rs).groupCount (concatAll rs').groupCount := by
  induction rs with
  | nil => simp [concatAll, Regex.groupCount]
  | cons r rs ih => rw [List.cons_append, concatAll, Regex.groupCount, ih, concatAll, Regex.groupCount, Nat.max_assoc]

theorem groupCount_chars (sets : List CharSet) : (concatAll (sets.map .chars)).groupCount = 0 := by
  induction sets with
  | nil => rfl
  | cons c sets ih => rw [List.map_cons, concatAll, Regex.groupCount, ih]; rfl

theorem groupCount_letters (s : Text) : (concatAll (letters s)).groupCount = 0 := by
  rw [letters_eq, groupCount_chars]

theorem groupCount_segment (s : Segment) (n : Nat) :
    max n (concatAll (s.regexes n)).groupCount = n + s.keys.length := by
  cases s with
  | empty => exact Nat.max_zero n
  | literal text =>
    rw [Segment.regexes, groupCount_letters]
    exact Nat.max_zero n
  | wildcard o =>
    cases o <;> simp [Segment.regexes, behindSlash, letters, concatAll, Regex.optional, wild, captured,
      Regex.groupCount, Segment.keys]
  | param m =>
    obtain ⟨name, optional, matcher, suffix⟩ := m
    cases suffix with
    | none =>
      cases optional <;>
        simp [Segment.regexes, behindSlash, letters, concatAll, Regex.optional, value, captured,
          Regex.groupCount, Segment.keys]
    | some s =>
      simp only [Segment.regexes]
      rw [groupCount_concatAll_append, groupCount_letters]
      cases optional <;>
        simp [behindSlash, letters, concatAll, Regex.optional, value, captured, Regex.groupCount, Segment.keys]

theorem groupCount_regexes : ∀ (n : Nat) (ss : List Segment),
    max n (concatAll (regexes n ss)).groupCount = n + (ss.flatMap Segment.keys).length
  | n, [] => Nat.max_zero n
  | n, s :: ss => by
    rw [regexes, groupCount_concatAll_append, ← Nat.max_assoc, groupCount_segment, groupCount_regexes,
      List.flatMap_cons,
      List.length_append, Nat.add_assoc]

theorem groupCount_regex (t : Text) (mode : Mode) :
    (regex t mode).groupCount = (keys t).length + if mode = .loose then 1 else 0 := by
  have h := groupCount_regexes 0 (segments t)
  rw [Nat.zero_max, Nat.zero_add] at h
  rw [regex, concatAll, Regex.groupCount, groupCount_concatAll_append, h, ← keys]
  cases mode <;> simp [Mode.regexes, concatAll, letters, Regex.optional, Regex.groupCount]

/-- The first member with a property that decides how the list goes on. -/
theorem head?_flatMap_ite {α β : Type} {f : α → Bool} {g : α → β} : ∀ {l : List α},
    (l.flatMap fun a => if f a then [g a] else []).head? = (l.find? f).map g
  | [] => rfl
  | a :: l => by
    rw [List.flatMap_cons, List.find?_cons]
    cases f a with
    | false => exact head?_flatMap_ite
    | true => rfl

/-- Related lists have related first members with a property. -/
theorem find?_of_forall₂ {α β : Type} {R : α → β → Prop} {f : α → Bool} {g : β → Bool} {l : List α} {l' : List β}
    (h : List.Forall₂ R l l') (hfg : ∀ {a b}, R a b → f a = g b) :
    (l.find? f = none ∧ l'.find? g = none) ∨ ∃ a b, l.find? f = some a ∧ l'.find? g = some b ∧ R a b := by
  induction h with
  | nil => exact .inl ⟨rfl, rfl⟩
  | @cons a b l l' hab _ ih =>
    rw [List.find?_cons, List.find?_cons, hfg hab]
    cases hb : g b with
    | false => exact ih
    | true => exact .inr ⟨a, b, rfl, rfl, hab⟩

/-- The ways of expressions with an ending behind them: those of the expressions that may end there. -/
theorem ways_append_ending (rs : List Regex) (mode : Mode) (n : Nat) :
    ways (concatAll (rs ++ mode.regexes n)) t ⟨0, []⟩ =
    (ways (concatAll rs) t ⟨0, []⟩).flatMap fun q => if mode.ends (q.rest t) then [mode.finish n t q] else [] := by
  rw [ways_concatAll_append]
  refine List.flatMap_congr fun q hq => ways_ending mode _ ?_
  exact ((within_locate t _).forward (Nat.zero_le _) hq).2

/-- The search for expressions with an ending behind them finds the first way of the expressions that may end
there. -/
theorem find_append_ending (rs : List Regex) (mode : Mode) (n : Nat) (t : Text) :
    (concatAll (.assert .textStart :: (rs ++ mode.regexes n))).find t =
      ((ways (concatAll rs) t ⟨0, []⟩).find? fun q => mode.ends (q.rest t)).map fun q =>
        ⟨0, (mode.finish n t q).pos, (mode.finish n t q).spans⟩ := by
  rw [concatAll, find_textStart, ways_append_ending, head?_flatMap_ite, Option.map_map]
  rfl

/-- What a route with `n` visible groups captures on the way that it was found on. -/
def Mode.captures (mode : Mode) (n : Nat) (names : List (Nat × Text)) (path : Text) (q : Progress) : Captures :=
  ⟨path, ⟨0, (mode.finish n path q).pos, (mode.finish n path q).spans⟩,
    if mode = .loose then q.pos else path.length, n, names⟩

/-- The visible groups are those of the way: the last one of a loose route is none of them. -/
theorem Mode.groups_captures (mode : Mode) (n : Nat) (names : List (Nat × Text)) (path : Text) (q : Progress) :
    (mode.captures n names path q).groups = (List.range n).map fun i => textOf path q.spans (i + 1) := by
  refine List.map_congr_left fun i hi => ?_
  have hin : i < n := List.mem_range.1 hi
  have hvisible : ¬ (decide (i + 1 = 0) || decide (n < i + 1)) = true := by simp; omega
  show (if (decide (i + 1 = 0) || decide (n < i + 1)) = true then none else textOf path
    (mode.finish n path q).spans (i + 1)) = _
  rw [if_neg hvisible]
  cases mode with
  | strict => rfl
  | loose =>
    have hlast : (n + 1 == i + 1) = false := by simp; omega
    rw [textOf, finish, Progress.record, List.find?_cons, hlast]
    rfl

theorem le_groupCount_loose (rs : List Regex) (n : Nat) :
    n + 1 ≤ (concatAll (.assert .textStart :: (rs ++ Mode.loose.regexes n))).groupCount := by
  rw [concatAll, Regex.groupCount, groupCount_concatAll_append]
  simp only [Mode.regexes, concatAll, Regex.groupCount]
  omega

/-- The last group of a loose route is the only one that is not visible. -/
theorem groupCount_of_loose {p : Pattern} {rs : List Regex} {n : Nat} (htail : p.tail = .loose)
    (hx : p.expression.regex = concatAll (.assert .textStart :: (rs ++ Mode.loose.regexes n))) (hn : p.groupCount = n) :
    p.expression.regex.groupCount = n + 1 := by
  have hge := le_groupCount_loose rs n
  rw [← hx] at hge
  rw [Pattern.groupCount, Pattern.isLoose, htail] at hn
  have hall : p.expression.regex.groupCount - 1 = n := hn
  omega

/-- A route of expressions with an ending captures what the first way does that may end. -/
theorem exec_captures {p : Pattern} {rs : List Regex} {mode : Mode} {n : Nat} (htail : p.tail = mode.tail)
    (hx : p.expression.regex = concatAll (.assert .textStart :: (rs ++ mode.regexes n))) (hn : p.groupCount = n)
    (path : Text) :
    p.exec path = ((ways (concatAll rs) path ⟨0, []⟩).find? fun q => mode.ends (q.rest path)).map
      (mode.captures n p.expression.names path) := by
  have hlast : mode = .loose → p.expression.regex.groupCount = n + 1 := by
    rintro rfl
    exact groupCount_of_loose htail hx hn
  have hfind := find_append_ending rs mode n path
  rw [← hx] at hfind
  rw [Pattern.exec, hfind, Option.map_map]
  refine congrArg (Option.map · _) (funext fun q => ?_)
  rw [Function.comp_apply, htail, hn]
  cases mode with
  | strict => rfl
  | loose =>
    have hspan : Match.span? ⟨0, (Mode.loose.finish n path q).pos, (Mode.loose.finish n path q).spans⟩ (n + 1) =
        some ⟨n + 1, q.pos, (Mode.loose.finish n path q).pos⟩ := by
      simp [Match.span?, Mode.finish, Progress.record]
    simp only [Mode.tail, hlast rfl, hspan]
    rfl

theorem isMatch_eq_isSome (p : Pattern) (path : Text) : p.isMatch path = (p.exec path).isSome := by
  rw [Pattern.isMatch, isMatch_eq, Pattern.exec, Option.isSome_map]

theorem isMatch_eq_isSome_exec (r : Route) (path : Text) : r.pattern.isMatch path = (r.exec path).isSome := by
  rw [isMatch_eq_isSome, Route.exec, Option.isSome_map]

theorem length_of_mem_spread : ∀ {ss : List Segment} {t : Text} {r : List (Option Text) × Nat}, r ∈ spread ss t →
    r.1.length = (ss.flatMap Segment.keys).length
  | [], _, _, h => by rw [List.mem_singleton.1 h]; rfl
  | s :: ss, t, r, h => by
    obtain ⟨x, hx, h⟩ := List.mem_flatMap.1 h
    obtain ⟨y, hy, rfl⟩ := List.mem_map.1 h
    rw [List.length_append, length_of_mem_takes hx, length_of_mem_spread hy, List.flatMap_cons, List.length_append]

/-- The route of a template whose segments denote expressions, unless its pattern is too large. -/
theorem Denotes.compile {T : Text} {rs : List Regex} (h : Denotes (segments T) 0 rs) (mode : Mode) :
    Route.compile T mode =
    if maxSize < Template.leastSize T mode then .error ⟨T, .tooLarge⟩
    else .ok ⟨.named (keys T), ⟨⟨source T mode,
      concatAll (.assert .textStart :: (rs ++ mode.regexes (keys T).length)), []⟩, mode.tail⟩⟩ := by
  rw [Route.compile, h.parse]
  by_cases hlarge : maxSize < Template.leastSize T mode
  · rw [if_pos hlarge, if_pos hlarge]
  · rw [if_neg hlarge, if_neg hlarge]

/-- The route of a plain template, unless its pattern is too large. -/
theorem compile_eq {T : Text} (hT : Plain T) (mode : Mode) : Route.compile T mode =
    if maxSize < leastSize T mode then .error ⟨T, .tooLarge⟩
    else .ok ⟨.named (keys T), ⟨⟨source T mode, regex T mode, []⟩, mode.tail⟩⟩ :=
  (denotes_regexes hT).compile mode

/-- A plain template that is small enough has a route. -/
theorem exists_compile {T : Text} (hT : Plain T) {mode : Mode} (h : leastSize T mode ≤ maxSize) :
    ∃ r, Route.compile T mode = .ok r := by
  have hr := compile_eq hT mode
  rw [if_neg (Nat.not_lt.2 h)] at hr
  exact ⟨_, hr⟩

theorem leastSize_of_compile {T : Text} (hT : Plain T) {mode : Mode} {r : Route} (hr : Route.compile T mode = .ok r) :
    leastSize T mode ≤ maxSize := by
  rw [compile_eq hT] at hr
  split at hr
  · cases hr
  · rename_i h
    exact Nat.not_lt.1 h

/-- A plain template is refused for its size only. -/
theorem compile_eq_error {T : Text} (hT : Plain T) {mode : Mode} {e : InvalidPattern}
    (h : Route.compile T mode = .error e) : e = ⟨T, .tooLarge⟩ := by
  rw [compile_eq hT] at h
  split at h
  · exact (Except.error.inj h).symm
  · cases h

/-- A plain template of at most ten thousand characters has a route. -/
theorem exists_compile_of_length_le {T : Text} (hT : Plain T) (h : T.length ≤ 10000) (mode : Mode) :
    ∃ r, Route.compile T mode = .ok r := by
  have hsize := leastSize_le T mode
  refine exists_compile hT ?_
  rw [maxSize]
  omega

/-- The values that a route of a plain template captures, and where its match ends: the first way to
spread over the path that may end there. -/
theorem exec_eq {T : Text} (hT : Plain T) {mode : Mode} {r : Route} (hr : Route.compile T mode = .ok r) (path : Text) :
    (r.pattern.exec path).map (fun c => (c.groups, c.stop)) =
      ((spread (segments T) path).find? fun x => mode.ends (path.drop x.2)).map fun x =>
        (x.1, if mode = .loose then x.2 else path.length) := by
  rw [compile_eq hT] at hr
  split at hr
  · cases hr
  cases hr
  have hcount : Pattern.groupCount ⟨⟨source T mode, regex T mode, []⟩, mode.tail⟩ = (keys T).length := by
    rw [Pattern.groupCount, groupCount_regex]
    cases mode <;> rfl
  have hways : List.Forall₂ (Reaches path 0 ⟨0, []⟩) (spread (segments T) path) _ := ways_segments 0 ⟨0, []⟩ hT
  have hends : ∀ {x : List (Option Text) × Nat} {q}, Reaches path 0 ⟨0, []⟩ x q →
      mode.ends (path.drop x.2) = mode.ends (q.rest path) := fun h => by rw [Progress.rest, h.pos, Nat.zero_add]
  rw [exec_captures rfl rfl hcount]
  rcases find?_of_forall₂ hways hends with ⟨h, h'⟩ | ⟨x, q, h, h', hq⟩
  · rw [h, h']
    rfl
  · rw [h, h']
    have hlen : x.1.length = (keys T).length := length_of_mem_spread (List.mem_of_find?_eq_some h)
    obtain ⟨hpos, spans, hspans, -, htext⟩ := hq
    simp only [List.append_nil, Nat.zero_add] at hpos hspans htext
    simp only [Option.map_some, Option.some.injEq, Prod.mk.injEq]
    constructor
    · rw [Mode.groups_captures, hspans, ← hlen]
      refine List.ext_getElem (by simp) fun i hi hi' => ?_
      rw [List.getElem_map, List.getElem_range]
      exact htext i hi'
    · rw [Mode.captures, hpos]

end Template

end PathRouter
