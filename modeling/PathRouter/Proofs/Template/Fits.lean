/-
What a plain template means for a path, without patterns: `Template.Fits` tells which values fit the
segments on a path, and `Template.Prefers` which of two lists of values comes first, going from left
to right. A route captures the preferred values that fit (`Template.compile_exec`).
-/
import PathRouter.Proofs.Template.Spread

namespace PathRouter

open Regex

/-- Texts that differ at most in case. -/
def Alike (s t : Text) : Prop := List.Forall₂ (fun c d => Unicode.sameFold c d = true) s t

/-! ## Values that fit -/

/-- The segment takes a part of a path with these values, one for each key; there is no value where
nothing is kept. -/
inductive Segment.Takes : Segment → List (Option Text) → Text → Prop
  | empty : Takes .empty [] []
  | literal {text w : Text} : Alike text w → Takes (.literal text) [] ('/' :: w)
  | value {p : Param} {v : Text} : p.suffix = none → v ≠ [] → '/' ∉ v → Takes (.param p) [some v] ('/' :: v)
  | noValue {p : Param} : p.suffix = none → p.optional = true → Takes (.param p) [none] []
  | suffixed {p : Param} {ext v w : Text} : p.suffix = some ('.' :: ext) → v ≠ [] → '/' ∉ v → Alike ext w →
      Takes (.param p) [some v] ('/' :: v ++ '.' :: w)
  | bare {p : Param} {ext w : Text} : p.suffix = some ('.' :: ext) → p.optional = true → Alike ext w →
      Takes (.param p) [none] ('/' :: '.' :: w)
  | wild {o : Bool} {v : Text} : '\n' ∉ v → Takes (.wildcard o) [some v] ('/' :: v)
  | noWild : Takes (.wildcard true) [none] []

/-- The segments take a part of a path with these values, each the part behind the one before. -/
inductive Template.Takes : List Segment → List (Option Text) → Text → Prop
  | nil : Takes [] [] []
  | cons {s : Segment} {ss : List Segment} {vs ws : List (Option Text)} {t u : Text} :
      s.Takes vs t → Takes ss ws u → Takes (s :: ss) (vs ++ ws) (t ++ u)

/-- The segments fit on a path with these values: they take it up to where a route may end. -/
def Template.Fits (mode : Mode) (ss : List Segment) (vs : List (Option Text)) (path : Text) : Prop :=
  ∃ t u, path = t ++ u ∧ Takes ss vs t ∧ mode.ends u = true

/-! ## Preference -/

/-- A segment prefers a value to none, a wildcard a longer value, and a parameter a shorter one. -/
def Segment.Prefers : Segment → Option Text → Option Text → Prop
  | .wildcard _, some v, some w => w.length < v.length
  | _, some v, some w => v.length < w.length
  | _, some _, none => True
  | _, none, _ => False

/-- Segments prefer values to others as the first segment does that has different ones. -/
def Template.Prefers : List Segment → List (Option Text) → List (Option Text) → Prop
  | .empty :: ss, vs, ws | .literal _ :: ss, vs, ws => Prefers ss vs ws
  | s :: ss, v :: vs, w :: ws => s.Prefers v w ∨ (v = w ∧ Prefers ss vs ws)
  | _, _, _ => False

/-- The values that fit and come before all others that do. -/
def Template.Preferred (mode : Mode) (ss : List Segment) (vs : List (Option Text)) (path : Text) : Prop :=
  Fits mode ss vs path ∧ ∀ ws, Fits mode ss ws path → ws = vs ∨ Prefers ss vs ws

/-- The keys with their values, but for those without a value or with an empty one. -/
def Template.named (keys : List Text) (vs : List (Option Text)) : List (Text × Text) :=
  (keys.zip vs).filterMap fun r => Params.entry? r.1 r.2

/-! ## The ways to spread are the values that fit -/

theorem startsLike_iff : ∀ {s t : Text}, startsLike s t = true ↔ ∃ w, Alike s w ∧ w <+: t
  | [], t => ⟨fun _ => ⟨[], .nil, List.nil_prefix⟩, fun _ => rfl⟩
  | c :: s, [] => by
    refine ⟨fun h => (by cases h), ?_⟩
    rintro ⟨w, hw, hp⟩
    rw [List.prefix_nil.1 hp] at hw
    cases hw
  | c :: s, d :: t => by
    rw [startsLike, Bool.and_eq_true, startsLike_iff]
    constructor
    · rintro ⟨hc, w, hw, hp⟩
      exact ⟨d :: w, .cons hc hw, List.cons_prefix_cons.2 ⟨rfl, hp⟩⟩
    · rintro ⟨w, hw, hp⟩
      cases hw with
      | cons hc hw =>
        obtain ⟨rfl, hp'⟩ := List.cons_prefix_cons.1 hp
        exact ⟨hc, _, hw, hp'⟩

theorem Alike.length {s t : Text} (h : Alike s t) : s.length = t.length := h.length_eq

/-- A text that differs at most in case has a slash only where the other one has. -/
theorem Alike.slash_mem {s t : Text} (h : Alike s t) (ht : '/' ∈ t) : '/' ∈ s := by
  induction h with
  | nil => cases ht
  | cons hc _ ih =>
    rcases List.mem_cons.1 ht with rfl | ht
    · rw [sameFold_slash.1 (Unicode.sameFold_symm hc)]
      exact List.mem_cons_self
    · exact List.mem_cons_of_mem _ (ih ht)

/-- A value without a slash has none with what stands for a suffix behind it. -/
theorem Alike.slash_not_mem_suffixed {v ext u : Text} (h : Alike ext u) (hv : '/' ∉ v) (hext : '/' ∉ '.' :: ext) :
    '/' ∉ v ++ '.' :: u := by
  intro hmem
  rcases List.mem_append.1 hmem with hmem | hmem
  · exact hv hmem
  · exact hext (List.mem_cons_of_mem _ (h.slash_mem (List.mem_of_ne_of_mem (by decide) hmem)))

theorem sameFold_dot {c : Char} : Unicode.sameFold '.' c = true ↔ c = '.' :=
  Unicode.sameFold_low (by decide) (by decide)

theorem alike_cons_low {c : Char} {s w : Text} (h0 : 0 < c.toNat) (hc : c.toNat < 65) :
    Alike (c :: s) w ↔ ∃ u, w = c :: u ∧ Alike s u := by
  constructor
  · intro h
    cases h with
    | cons hd h => exact ⟨_, by rw [(Unicode.sameFold_low h0 hc).1 hd], h⟩
  · rintro ⟨u, rfl, h⟩
    exact .cons (Unicode.sameFold_refl c) h

/-- The prefixes whose characters have a property are those of the characters in front that have it. -/
theorem prefix_takeWhile_iff {p : Char → Bool} {w t : Text} :
    w <+: t.takeWhile p ↔ w <+: t ∧ ∀ c ∈ w, p c = true := by
  constructor
  · intro h
    exact ⟨h.trans (List.takeWhile_prefix p), fun c hc => mem_takeWhile c (h.subset hc)⟩
  · rintro ⟨⟨u, rfl⟩, h⟩
    rw [List.takeWhile_append_of_pos h]
    exact List.prefix_append _ _

/-- The beginnings of a text without a character are those that end before it. -/
theorem eq_take_iff {stop : Char} {t w : Text} {k : Nat} :
    k ≤ (t.takeWhile (· != stop)).length ∧ w = t.take k ↔ k = w.length ∧ stop ∉ w ∧ w <+: t := by
  have hfront := List.takeWhile_prefix (· != stop) (l := t)
  have hstop : ∀ w : Text, (∀ c ∈ w, (c != stop) = true) ↔ stop ∉ w := by
    intro w
    simp only [bne_iff_ne]
    exact ⟨fun h hs => h stop hs rfl, fun h c hc hs => h (hs ▸ hc)⟩
  constructor
  · rintro ⟨hk, rfl⟩
    have htake : t.take k <+: t.takeWhile (· != stop) :=
      List.prefix_of_prefix_length_le (List.take_prefix k t) hfront ((List.length_take_le k t).trans hk)
    obtain ⟨hp, hc⟩ := prefix_takeWhile_iff.1 htake
    exact ⟨(List.length_take_of_le (hk.trans hfront.length_le)).symm, (hstop _).1 hc, hp⟩
  · rintro ⟨rfl, hs, hp⟩
    exact ⟨(prefix_takeWhile_iff.2 ⟨hp, (hstop w).2 hs⟩).length_le, List.prefix_iff_eq_take.1 hp⟩

namespace Segment

theorem mem_values {t : Text} {v : Option Text} {k : Nat} :
    (v, k) ∈ values t ↔ ∃ w, v = some w ∧ k = w.length ∧ w ≠ [] ∧ '/' ∉ w ∧ w <+: t := by
  rw [values, List.mem_map]
  constructor
  · rintro ⟨i, hi, he⟩
    cases he
    obtain ⟨hk, hs, hp⟩ := eq_take_iff.1 ⟨List.mem_range.1 hi, rfl⟩
    exact ⟨_, rfl, hk, List.ne_nil_of_length_pos (hk ▸ Nat.succ_pos i), hs, hp⟩
  · rintro ⟨w, rfl, rfl, hne, hs, hp⟩
    obtain ⟨hle, hw⟩ := eq_take_iff.2 ⟨rfl, hs, hp⟩
    have hpos := List.length_pos_of_ne_nil hne
    exact ⟨w.length - 1, List.mem_range.2 (by omega), by rw [Nat.sub_add_cancel hpos, ← hw]⟩

theorem mem_wilds {t : Text} {v : Option Text} {k : Nat} :
    (v, k) ∈ wilds t ↔ ∃ w, v = some w ∧ k = w.length ∧ '\n' ∉ w ∧ w <+: t := by
  simp only [wilds, List.mem_map, List.mem_reverse, List.mem_range, Nat.lt_succ_iff]
  constructor
  · rintro ⟨i, hi, he⟩
    cases he
    exact ⟨_, rfl, eq_take_iff.1 ⟨hi, rfl⟩⟩
  · rintro ⟨w, rfl, rfl, hs, hp⟩
    obtain ⟨hle, hw⟩ := eq_take_iff.2 ⟨rfl, hs, hp⟩
    exact ⟨w.length, hle, by rw [← hw]⟩

theorem mem_afterSlash {f : Text → List (Option Text × Nat)} {t : Text} {v : Option Text} {k : Nat} :
    (v, k) ∈ afterSlash f t ↔ ∃ u j, t = '/' :: u ∧ k = j + 1 ∧ (v, j) ∈ f u := by
  unfold afterSlash
  split
  · rename_i u
    rw [List.mem_map]
    constructor
    · rintro ⟨⟨v', j⟩, h, he⟩
      cases he
      exact ⟨u, j, rfl, rfl, h⟩
    · rintro ⟨u', j, hu, rfl, h⟩
      cases hu
      exact ⟨(v, j), h, rfl⟩
  · rename_i ht
    refine ⟨fun h => (by cases h), ?_⟩
    rintro ⟨u, -, rfl, -⟩
    exact absurd rfl (ht u)

theorem mem_absent {o : Bool} {v : Option Text} {k : Nat} : (v, k) ∈ absent o ↔ o = true ∧ v = none ∧ k = 0 := by
  cases o <;> simp [absent]

/-- A value with its length that a suffix follows. -/
theorem mem_suffixed {l : List (Option Text × Nat)} {ext t : Text} {v : Option Text} {k : Nat} :
    (v, k) ∈ (l.filter fun r => startsLike ('.' :: ext) (t.drop r.2)).map (fun r => (r.1, r.2 + ('.' :: ext).length)) ↔
      ∃ j w, (v, j) ∈ l ∧ Alike ext w ∧ '.' :: w <+: t.drop j ∧ k = j + (w.length + 1) := by
  rw [List.mem_map]
  constructor
  · rintro ⟨⟨v', j⟩, h, he⟩
    cases he
    obtain ⟨h, hs⟩ := List.mem_filter.1 h
    obtain ⟨w, hw, hp⟩ := startsLike_iff.1 hs
    obtain ⟨w, rfl, hext⟩ := (alike_cons_low (by decide) (by decide)).1 hw
    exact ⟨j, w, h, hext, hp, congrArg (j + ·) hw.length⟩
  · rintro ⟨j, w, h, hw, hp, rfl⟩
    refine ⟨(v, j), List.mem_filter.2 ⟨h, startsLike_iff.2 ⟨'.' :: w, ?_, hp⟩⟩, by rw [List.length_cons, hw.length]⟩
    exact (alike_cons_low (by decide) (by decide)).2 ⟨w, rfl, hw⟩

theorem mem_singletons {l : List (Option Text × Nat)} {vs : List (Option Text)} {k : Nat} :
    (vs, k) ∈ l.map (fun r => ([r.1], r.2)) ↔ ∃ v, vs = [v] ∧ (v, k) ∈ l := by
  rw [List.mem_map]
  constructor
  · rintro ⟨⟨v, k⟩, h, he⟩
    cases he
    exact ⟨v, rfl, h⟩
  · rintro ⟨v, rfl, h⟩
    exact ⟨(v, k), h, rfl⟩

/-- The values that a segment can take from a text are those of the parts in front that it takes. -/
theorem mem_takes {s : Segment} (hs : s.Plain) {t : Text} {vs : List (Option Text)} {k : Nat} :
    (vs, k) ∈ s.takes t ↔ ∃ w, s.Takes vs w ∧ w <+: t ∧ k = w.length := by
  cases s with
  | empty =>
    rw [takes, List.mem_singleton]
    constructor
    · intro h
      cases h
      exact ⟨[], .empty, List.nil_prefix, rfl⟩
    · rintro ⟨w, h, -, rfl⟩
      cases h
      rfl
  | literal text =>
    have hmem : (vs, k) ∈ (literal text).takes t ↔ startsLike ('/' :: text) t = true ∧ vs = [] ∧
        k = text.length + 1 := by
      rw [takes]
      split
      · rename_i h
        simp [h]
      · rename_i h
        simp [h]
    rw [hmem, startsLike_iff]
    constructor
    · rintro ⟨⟨w, hw, hp⟩, rfl, rfl⟩
      obtain ⟨w, rfl, htext⟩ := (alike_cons_low (by decide) (by decide)).1 hw
      exact ⟨_, .literal htext, hp, hw.length⟩
    · rintro ⟨w, h, hp, rfl⟩
      cases h with
      | literal hw =>
        exact ⟨⟨_, (alike_cons_low (by decide) (by decide)).2 ⟨_, rfl, hw⟩, hp⟩,
          rfl, by rw [List.length_cons, hw.length]⟩
  | wildcard o =>
    show (vs, k) ∈ ((wildcard o).takesValue t).map (fun r => ([r.1], r.2)) ↔ _
    rw [mem_singletons]
    simp only [takesValue, List.mem_append, mem_absent, mem_afterSlash]
    constructor
    · rintro ⟨v, rfl, ⟨u, j, rfl, rfl, h⟩ | ⟨rfl, rfl, rfl⟩⟩
      · obtain ⟨w, rfl, rfl, hn, hp⟩ := mem_wilds.1 h
        exact ⟨_, .wild hn, List.cons_prefix_cons.2 ⟨rfl, hp⟩, rfl⟩
      · exact ⟨[], .noWild, List.nil_prefix, rfl⟩
    · rintro ⟨w, h, hp, rfl⟩
      cases h with
      | @wild _ v hn =>
        obtain ⟨u, rfl⟩ := hp
        exact ⟨_, rfl, .inl ⟨v ++ u, v.length, rfl, rfl, mem_wilds.2 ⟨v, rfl, rfl, hn, List.prefix_append _ _⟩⟩⟩
      | noWild => exact ⟨_, rfl, .inr ⟨rfl, rfl, rfl⟩⟩
  | param p =>
    show (vs, k) ∈ ((param p).takesValue t).map (fun r => ([r.1], r.2)) ↔ _
    rw [mem_singletons]
    cases hsuffix : p.suffix with
    | none =>
      simp only [takesValue, hsuffix, List.mem_append, mem_absent, mem_afterSlash]
      constructor
      · rintro ⟨v, rfl, ⟨u, j, rfl, rfl, h⟩ | ⟨ho, rfl, rfl⟩⟩
        · obtain ⟨w, rfl, rfl, hne, hslash, hp⟩ := mem_values.1 h
          exact ⟨_, .value hsuffix hne hslash, List.cons_prefix_cons.2 ⟨rfl, hp⟩, rfl⟩
        · exact ⟨[], .noValue hsuffix ho, List.nil_prefix, rfl⟩
      · rintro ⟨w, h, hp, rfl⟩
        cases h with
        | @value _ v _ hne hslash =>
          obtain ⟨u, rfl⟩ := hp
          exact ⟨_, rfl, .inl ⟨v ++ u, v.length, rfl, rfl,
            mem_values.2 ⟨v, rfl, rfl, hne, hslash, List.prefix_append _ _⟩⟩⟩
        | noValue _ ho => exact ⟨_, rfl, .inr ⟨ho, rfl, rfl⟩⟩
        | suffixed h' => rw [hsuffix] at h'; cases h'
        | bare h' => rw [hsuffix] at h'; cases h'
    | some s =>
      obtain ⟨ext, rfl, -⟩ := hs.2 s hsuffix
      simp only [takesValue, hsuffix, mem_suffixed, mem_afterSlash, List.mem_append, mem_absent]
      constructor
      · rintro ⟨v, rfl, j, w, ⟨u, i, rfl, rfl, h⟩, hw, hp, rfl⟩
        rw [List.drop_succ_cons] at hp
        rcases h with h | ⟨ho, rfl, rfl⟩
        · obtain ⟨x, rfl, rfl, hne, hslash, u', rfl⟩ := mem_values.1 h
          rw [List.drop_left] at hp
          refine ⟨_, .suffixed hsuffix hne hslash hw, ?_, by simp; omega⟩
          exact List.cons_prefix_cons.2 ⟨rfl, (List.prefix_append_right_inj x).2 hp⟩
        · exact ⟨_, .bare hsuffix ho hw, List.cons_prefix_cons.2 ⟨rfl, hp⟩, by simp; omega⟩
      · rintro ⟨w, h, hp, rfl⟩
        cases h with
        | value h' => rw [hsuffix] at h'; cases h'
        | noValue h' => rw [hsuffix] at h'; cases h'
        | @suffixed _ ext' v w h' hne hslash hw =>
          rw [hsuffix] at h'
          cases h'
          obtain ⟨u, rfl⟩ := hp
          refine ⟨_, rfl, v.length + 1, w, ⟨v ++ '.' :: w ++ u, v.length, rfl, rfl, .inl ?_⟩, hw, ?_, by simp; omega⟩
          · exact mem_values.2 ⟨v, rfl, rfl, hne, hslash, by rw [List.append_assoc]; exact List.prefix_append _ _⟩
          · simp
        | @bare _ ext' w h' ho hw =>
          rw [hsuffix] at h'
          cases h'
          obtain ⟨u, rfl⟩ := hp
          exact ⟨_, rfl, 1, w, ⟨'.' :: w ++ u, 0, rfl, rfl, .inr ⟨ho, rfl, rfl⟩⟩, hw,
            List.prefix_append _ _, by simp; omega⟩

end Segment

namespace Template

/-- The values that segments can take from a text are those of the parts in front that they take. -/
theorem mem_spread : ∀ {ss : List Segment} {t : Text}, (∀ s ∈ ss, s.Plain) → ∀ {vs : List (Option Text)} {k : Nat},
    (vs, k) ∈ spread ss t ↔ ∃ w, Takes ss vs w ∧ w <+: t ∧ k = w.length
  | [], t, _, vs, k => by
    rw [spread, List.mem_singleton]
    constructor
    · intro h
      cases h
      exact ⟨[], .nil, List.nil_prefix, rfl⟩
    · rintro ⟨w, h, -, rfl⟩
      cases h
      rfl
  | s :: ss, t, h, vs, k => by
    have hs := h s List.mem_cons_self
    have hss : ∀ s' ∈ ss, s'.Plain := fun s' hs' => h s' (List.mem_cons_of_mem s hs')
    constructor
    · intro hk
      obtain ⟨⟨vs, i⟩, hi, hk⟩ := List.mem_flatMap.1 hk
      obtain ⟨⟨ws, j⟩, hj, hk⟩ := List.mem_map.1 hk
      cases hk
      obtain ⟨w, hw, ⟨u, rfl⟩, rfl⟩ := (Segment.mem_takes hs).1 hi
      rw [List.drop_left] at hj
      obtain ⟨w', hw', hp, rfl⟩ := (mem_spread hss).1 hj
      exact ⟨w ++ w', .cons hw hw', (List.prefix_append_right_inj w).2 hp, by rw [List.length_append]⟩
    · rintro ⟨_, h, ⟨u, rfl⟩, rfl⟩
      cases h with
      | @cons _ _ vs ws w w' hw hw' =>
        refine List.mem_flatMap.2 ⟨(vs, w.length), (Segment.mem_takes hs).2 ⟨w, hw, ?_, rfl⟩,
          List.mem_map.2 ⟨(ws, w'.length), (mem_spread hss).2 ⟨w', hw', ?_, rfl⟩, by rw [List.length_append]⟩⟩
        · rw [List.append_assoc]
          exact List.prefix_append _ _
        · rw [List.append_assoc, List.drop_left]
          exact List.prefix_append _ _

/-- The ways to spread over a path that may end there take the values that fit on it. -/
theorem exists_mem_spread {mode : Mode} {ss : List Segment} (hs : ∀ s ∈ ss, s.Plain) {t : Text}
    {vs : List (Option Text)} :
    (∃ k, (vs, k) ∈ spread ss t ∧ mode.ends (t.drop k) = true) ↔ Fits mode ss vs t := by
  constructor
  · rintro ⟨k, hk, he⟩
    obtain ⟨w, hw, ⟨u, rfl⟩, rfl⟩ := (mem_spread hs).1 hk
    rw [List.drop_left] at he
    exact ⟨w, u, rfl, hw, he⟩
  · rintro ⟨w, u, rfl, hw, he⟩
    refine ⟨w.length, (mem_spread hs).2 ⟨w, hw, List.prefix_append _ _, rfl⟩, ?_⟩
    rw [List.drop_left]
    exact he

end Template

/-! ## The ways to spread are in the order of preference -/

namespace Segment

theorem length_take_lt {t : Text} {p : Char → Bool} {i j : Nat} (h : i < j) (hj : j ≤ (t.takeWhile p).length) :
    (t.take i).length < (t.take j).length := by
  have hle := (List.takeWhile_prefix p (l := t)).length_le
  rw [List.length_take, List.length_take]
  omega

theorem pairwise_values (p : Param) (t : Text) : (values t).Pairwise fun a b => (param p).Prefers a.1 b.1 := by
  rw [values, List.pairwise_map]
  exact List.pairwise_lt_range.imp_of_mem fun _ hj h => length_take_lt (Nat.succ_lt_succ h) (List.mem_range.1 hj)

theorem pairwise_wilds (o : Bool) (t : Text) : (wilds t).Pairwise fun a b => (wildcard o).Prefers a.1 b.1 := by
  rw [wilds, List.pairwise_map, List.pairwise_reverse]
  exact List.pairwise_lt_range.imp_of_mem fun _ hj h => length_take_lt h (Nat.lt_succ_iff.1 (List.mem_range.1 hj))

theorem prefers_none {s : Segment} (v : Text) : s.Prefers (some v) none := by
  cases s <;> exact trivial

theorem pairwise_append_absent {s : Segment} {l : List (Option Text × Nat)} (o : Bool)
    (h : l.Pairwise fun a b => s.Prefers a.1 b.1) (hl : ∀ a ∈ l, ∃ v, a.1 = some v) :
    (l ++ absent o).Pairwise fun a b => s.Prefers a.1 b.1 := by
  rw [List.pairwise_append]
  refine ⟨h, by cases o <;> simp [absent], fun a ha b hb => ?_⟩
  obtain ⟨v, hv⟩ := hl a ha
  rw [hv, (mem_absent.1 (show (b.1, b.2) ∈ absent o from hb)).2.1]
  exact prefers_none v

theorem pairwise_afterSlash {s : Segment} {f : Text → List (Option Text × Nat)}
    (h : ∀ t, (f t).Pairwise fun a b => s.Prefers a.1 b.1) (t : Text) :
    (afterSlash f t).Pairwise fun a b => s.Prefers a.1 b.1 := by
  unfold afterSlash
  split
  · rw [List.pairwise_map]
    exact h _
  · exact .nil

theorem exists_value_afterSlash {f : Text → List (Option Text × Nat)} (h : ∀ t, ∀ a ∈ f t, ∃ v, a.1 = some v)
    {t : Text} :
    ∀ a ∈ afterSlash f t, ∃ v, a.1 = some v := by
  intro a ha
  obtain ⟨u, j, -, -, hj⟩ := mem_afterSlash.1 (show (a.1, a.2) ∈ afterSlash f t from ha)
  exact h u (a.1, j) hj

theorem exists_value_takes {t : Text} {ks : List Nat} {f : Nat → Nat} :
    ∀ a ∈ ks.map fun i => (some (t.take (f i)), f i), ∃ v, a.1 = some v := by
  intro a ha
  obtain ⟨i, -, rfl⟩ := List.mem_map.1 ha
  exact ⟨_, rfl⟩

/-- A segment lists its values in the order of preference. -/
theorem pairwise_takesValue (s : Segment) (t : Text) : (s.takesValue t).Pairwise fun a b => s.Prefers a.1 b.1 := by
  cases s with
  | empty | literal => exact .nil
  | wildcard o =>
    exact pairwise_append_absent o (pairwise_afterSlash (pairwise_wilds o) t)
      (exists_value_afterSlash fun t => exists_value_takes)
  | param p =>
    rw [takesValue]
    split
    · exact pairwise_append_absent _ (pairwise_afterSlash (pairwise_values p) t)
        (exists_value_afterSlash fun t => exists_value_takes)
    · rw [List.pairwise_map]
      have hsome : ∀ t, (values t ++ absent p.optional).Pairwise fun a b => (param p).Prefers a.1 b.1 :=
        fun t => pairwise_append_absent _ (pairwise_values p t) exists_value_takes
      exact (pairwise_afterSlash hsome t).filter _

theorem Prefers.asymm {s : Segment} {v w : Option Text} (h : s.Prefers v w) : ¬ s.Prefers w v := by
  intro k
  cases v <;> cases w <;> cases s <;> simp only [Prefers] at h k <;> omega

end Segment

namespace Template

/-- Segments list their values in the order of preference. -/
theorem pairwise_spread : ∀ (ss : List Segment) (t : Text), (spread ss t).Pairwise fun a b => Prefers ss a.1 b.1
  | [], t => List.pairwise_singleton _ _
  | s :: ss, t => by
    have ih := fun u => pairwise_spread ss u
    have keyed : ∀ {R : List (Option Text) → List (Option Text) → Prop},
        (∀ {v w : Option Text} {vs ws : List (Option Text)}, s.Prefers v w → R (v :: vs) (w :: ws)) →
        (∀ {v : Option Text} {vs ws : List (Option Text)}, Prefers ss vs ws → R (v :: vs) (v :: ws)) →
        (((s.takesValue t).map fun r => ([r.1], r.2)).flatMap fun r =>
          (spread ss (t.drop r.2)).map fun r' => (r.1 ++ r'.1, r.2 + r'.2)).Pairwise fun a b => R a.1 b.1 := by
      intro R hfirst hlater
      rw [List.flatMap_map, List.pairwise_flatMap]
      constructor
      · intro r _
        rw [List.pairwise_map]
        exact (ih _).imp hlater
      · refine (s.pairwise_takesValue t).imp fun h x hx y hy => ?_
        obtain ⟨x, -, rfl⟩ := List.mem_map.1 hx
        obtain ⟨y, -, rfl⟩ := List.mem_map.1 hy
        exact hfirst h
    cases s with
    | empty =>
      rw [spread, Segment.takes, List.flatMap_singleton, List.pairwise_map]
      exact ih t
    | literal text =>
      rw [spread, Segment.takes]
      split
      · rw [List.flatMap_singleton, List.pairwise_map]
        exact ih _
      · exact .nil
    | param | wildcard => exact keyed .inl fun h => .inr ⟨rfl, h⟩

theorem Prefers.asymm : ∀ {ss : List Segment} {vs ws : List (Option Text)}, Prefers ss vs ws → ¬ Prefers ss ws vs
  | [], _, _, h => fun _ => h
  | .empty :: ss, vs, ws, h | .literal _ :: ss, vs, ws, h => @Prefers.asymm ss vs ws h
  | .param _ :: _, v :: vs, w :: ws, h | .wildcard _ :: _, v :: vs, w :: ws, h => by
    rcases h with h | ⟨rfl, h⟩
    · rintro (k | ⟨rfl, -⟩)
      · exact h.asymm k
      · exact h.asymm h
    · rintro (k | ⟨-, k⟩)
      · exact k.asymm k
      · exact h.asymm k

/-- The first member with a property of a list in an order is the one that comes before the others. -/
theorem find?_eq_some_iff_of_pairwise {α : Type} {R : α → α → Prop} (hR : ∀ {a b}, R a b → ¬ R b a) {f : α → Bool} :
    ∀ {l : List α}, l.Pairwise R → ∀ {a}, l.find? f = some a ↔
      (a ∈ l ∧ f a = true) ∧ ∀ b ∈ l, f b = true → b = a ∨ R a b
  | [], _, a => by simp
  | c :: l, h, a => by
    rw [List.pairwise_cons] at h
    rw [List.find?_cons]
    cases hc : f c with
    | true =>
      simp only [Option.some.injEq]
      constructor
      · rintro rfl
        refine ⟨⟨List.mem_cons_self, hc⟩, fun b hb _ => ?_⟩
        rcases List.mem_cons.1 hb with rfl | hb
        · exact .inl rfl
        · exact .inr (h.1 b hb)
      · rintro ⟨⟨ha, -⟩, hall⟩
        rcases List.mem_cons.1 ha with rfl | ha
        · rfl
        · rcases hall c List.mem_cons_self hc with rfl | hca
          · rfl
          · exact absurd hca (hR (h.1 a ha))
    | false =>
      simp only
      rw [find?_eq_some_iff_of_pairwise hR h.2]
      have skip : ∀ {b}, f b = true → (b ∈ c :: l ↔ b ∈ l) := fun {b} hb => by
        rw [List.mem_cons, or_iff_right]
        rintro rfl
        rw [hb] at hc
        cases hc
      constructor
      · rintro ⟨⟨ha, hf⟩, hall⟩
        exact ⟨⟨(skip hf).2 ha, hf⟩, fun b hb hfb => hall b ((skip hfb).1 hb) hfb⟩
      · rintro ⟨⟨ha, hf⟩, hall⟩
        exact ⟨⟨(skip hf).1 ha, hf⟩, fun b hb hfb => hall b ((skip hfb).2 hb) hfb⟩

/-! ## Routes of plain templates -/

/-- The first way to spread over a path that may end there takes the preferred values that fit. -/
theorem find?_spread {mode : Mode} {ss : List Segment} (hs : ∀ s ∈ ss, s.Plain) {t : Text} {vs : List (Option Text)} :
    ((spread ss t).find? fun x => mode.ends (t.drop x.2)).map (·.1) = some vs ↔ Preferred mode ss vs t := by
  rw [Option.map_eq_some_iff]
  constructor
  · rintro ⟨⟨vs, k⟩, hx, rfl⟩
    obtain ⟨⟨hmem, he⟩, hall⟩ := (find?_eq_some_iff_of_pairwise Prefers.asymm (pairwise_spread ss t)).1 hx
    refine ⟨(exists_mem_spread hs).1 ⟨k, hmem, he⟩, fun ws hws => ?_⟩
    obtain ⟨j, hj, hej⟩ := (exists_mem_spread hs).2 hws
    rcases hall _ hj hej with h | h
    · cases h
      exact .inl rfl
    · exact .inr h
  · rintro ⟨hfit, hall⟩
    obtain ⟨k, hk, he⟩ := (exists_mem_spread hs).2 hfit
    obtain ⟨⟨ws, j⟩, hx⟩ := Option.isSome_iff_exists.1
      ((List.find?_isSome (p := fun x => mode.ends (t.drop x.2))).2 ⟨_, hk, he⟩)
    obtain ⟨⟨hmem, hej⟩, hfirst⟩ := (find?_eq_some_iff_of_pairwise Prefers.asymm (pairwise_spread ss t)).1 hx
    refine ⟨_, hx, ?_⟩
    rcases hall ws ((exists_mem_spread hs).1 ⟨j, hmem, hej⟩) with h | h
    · exact h
    · rcases hfirst _ hk he with h' | h'
      · cases h'
        rfl
      · exact absurd h h'.asymm

theorem keys_of_compile {T : Text} {mode : Mode} {r : Route} (hr : Route.compile T mode = .ok r) :
    r.keys = .named (keys T) := by
  unfold Route.compile at hr
  split at hr
  · cases hr
    rfl
  · cases hr

/-- The parameters that a route of a plain template captures. -/
theorem exec_params {T : Text} (hT : Plain T) {mode : Mode} {r : Route} (hr : Route.compile T mode = .ok r)
    (path : Text) :
    r.exec path = ((spread (segments T) path).find? fun x => mode.ends (path.drop x.2)).map fun x =>
      ⟨named (keys T) x.1⟩ := by
  have h := exec_eq hT hr path
  rw [compile_eq hT] at hr
  split at hr
  · cases hr
  cases hr
  rw [Route.exec]
  cases he : (Pattern.exec ⟨⟨source T mode, regex T mode, []⟩, mode.tail⟩ path) with
  | none =>
    rw [he] at h
    rw [Option.map_eq_none_iff.1 h.symm]
    rfl
  | some c =>
    rw [he] at h
    obtain ⟨x, hx, hc⟩ := Option.map_eq_some_iff.1 h.symm
    rw [hx]
    obtain ⟨hgroups, -⟩ := Prod.mk.inj hc
    simp only [Option.map_some, Params.ofKeys, ← hgroups]
    rfl

/-- A route of a plain template matches the paths on which values fit. -/
theorem isSome_exec_iff {T : Text} (hT : Plain T) {mode : Mode} {r : Route} (hr : Route.compile T mode = .ok r)
    {path : Text} : (r.exec path).isSome ↔ ∃ vs, Fits mode (segments T) vs path := by
  rw [exec_params hT hr, Option.isSome_map, List.find?_isSome]
  constructor
  · rintro ⟨⟨vs, k⟩, hk, he⟩
    exact ⟨vs, (exists_mem_spread hT).1 ⟨k, hk, he⟩⟩
  · rintro ⟨vs, hvs⟩
    obtain ⟨k, hk, he⟩ := (exists_mem_spread hT).2 hvs
    exact ⟨(vs, k), hk, he⟩

/-- A route of a plain template captures the preferred values that fit. -/
theorem exec_eq_some_iff {T : Text} (hT : Plain T) {mode : Mode} {r : Route} (hr : Route.compile T mode = .ok r)
    {path : Text} {ps : Params} : r.exec path = some ps ↔
      ∃ vs, Preferred mode (segments T) vs path ∧ ps.entries = named (keys T) vs := by
  rw [exec_params hT hr, Option.map_eq_some_iff]
  constructor
  · rintro ⟨x, hx, rfl⟩
    exact ⟨x.1, (find?_spread hT).1 (by rw [hx]; rfl), rfl⟩
  · rintro ⟨vs, hvs, he⟩
    obtain ⟨x, hx, rfl⟩ := Option.map_eq_some_iff.1 ((find?_spread hT).2 hvs)
    exact ⟨x, hx, by rw [← he]⟩

/-- A plain template has a route unless its pattern is too large, which it is over the limit and is not at a length of
ten thousand. The route matches the paths on which values fit, and captures the preferred ones. -/
theorem compile_exec {T : Text} (hT : Plain T) (mode : Mode) :
    (∀ e, Route.compile T mode = .error e → e = ⟨T, .tooLarge⟩) ∧
    (maxSize < leastSize T mode → Route.compile T mode = .error ⟨T, .tooLarge⟩) ∧
    (T.length ≤ 10000 → ∃ r, Route.compile T mode = .ok r) ∧
    ∀ r, Route.compile T mode = .ok r → ∀ path,
      ((r.exec path).isSome ↔ ∃ vs, Fits mode (segments T) vs path) ∧
      ∀ ps, r.exec path = some ps ↔ ∃ vs, Preferred mode (segments T) vs path ∧ ps.entries = named (keys T) vs :=
  ⟨fun _ => compile_eq_error hT, fun h => (compile_eq hT mode).trans (if_pos h), fun h =>
    exists_compile_of_length_le hT h mode,
    fun _ hr _ => ⟨isSome_exec_iff hT hr, fun _ => exec_eq_some_iff hT hr⟩⟩

/-- A path on which values fit is matched. -/
theorem compile_exec_files : ∃ r, Route.compile "/files/:name?.txt/*?".toList .strict = .ok r ∧
    (r.exec "/Files/a.txt/b/c".toList).isSome = true := by
  have hT : Plain "/files/:name?.txt/*?".toList := by
    intro s hs
    rw [show segments "/files/:name?.txt/*?".toList = [.literal "files".toList,
      .param ⟨"name".toList, true, none, some ".txt".toList⟩, .wildcard true] by decide] at hs
    simp only [List.mem_cons, List.not_mem_nil, or_false] at hs
    rcases hs with rfl | rfl | rfl
    · exact (by decide : PlainText "files".toList)
    · exact ⟨rfl, fun s hs => ⟨"txt".toList, (Option.some.inj hs).symm, by decide⟩⟩
    · trivial
  obtain ⟨-, -, hshort, hexec⟩ := compile_exec hT .strict
  obtain ⟨r, hr⟩ := hshort (by decide)
  have htakes : Takes (segments "/files/:name?.txt/*?".toList) [some ['a'], some ['b', '/', 'c']]
      (('/' :: "Files".toList) ++ (('/' :: ['a'] ++ '.' :: "txt".toList) ++ (('/' :: ['b', '/', 'c']) ++ []))) :=
    .cons (.literal (by unfold Alike; decide)) (.cons (.suffixed rfl (by decide) (by decide) (by unfold Alike; decide))
      (.cons (.wild (by decide)) .nil))
  exact ⟨r, hr, (hexec r hr "/Files/a.txt/b/c".toList).1.2 ⟨_, _, [], rfl, htakes, rfl⟩⟩

/-- The template of one long literal segment. -/
theorem segments_replicate {c : Char} (hc : c ≠ '/' ∧ c ≠ '*' ∧ c ≠ ':') (n : Nat) :
    segments ('/' :: List.replicate (n + 1) c) = [.literal (List.replicate (n + 1) c)] := by
  have split : Text.split '/' (List.replicate (n + 1) c) = [List.replicate (n + 1) c] :=
    Text.split_of_not_mem fun h => hc.1 (List.mem_replicate.1 h).2.symm
  have parse : Segment.parse (List.replicate (n + 1) c) = .literal (List.replicate (n + 1) c) := by
    rw [List.replicate_succ]
    simp [Segment.parse, hc]
  rw [segments, pieces, Text.split, if_pos rfl, split, List.map_singleton, parse]

theorem plain_replicate {c : Char} (hc : c ≠ '/' ∧ c ≠ '*' ∧ c ≠ ':') (hm : c ∉ metaChars) (n : Nat) :
    Plain ('/' :: List.replicate (n + 1) c) := by
  intro s hs
  rw [segments_replicate hc, List.mem_singleton] at hs
  subst hs
  intro d hd
  rw [(List.mem_replicate.1 hd).2]
  exact hm

theorem leastSize_replicate {c : Char} (hc : c ≠ '/' ∧ c ≠ '*' ∧ c ≠ ':') (n : Nat) :
    leastSize ('/' :: List.replicate (n + 1) c) .strict = 32 * n + 360 := by
  rw [leastSize, segments_replicate hc, List.map_singleton, List.sum_singleton, Segment.leastSize,
    List.length_replicate]
  rfl

/-- One long literal segment is enough for a pattern that is too large. -/
theorem compile_replicate {c : Char} (hc : c ≠ '/' ∧ c ≠ '*' ∧ c ≠ ':') (hm : c ∉ metaChars) {n : Nat}
    (hn : maxSize ≤ 32 * n) (mode : Mode) : Route.compile ('/' :: List.replicate (n + 1) c) mode =
      .error ⟨'/' :: List.replicate (n + 1) c, .tooLarge⟩ := by
  rw [compile_eq (plain_replicate hc hm n), if_pos]
  rw [leastSize, segments_replicate hc, List.map_singleton, List.sum_singleton, Segment.leastSize,
    List.length_replicate]
  omega

/-- A plain template that has no route. -/
theorem compile_strict_tooLarge : Plain ('/' :: List.replicate 400000 'a') ∧
    Route.compile ('/' :: List.replicate 400000 'a') .strict = .error ⟨'/' :: List.replicate 400000 'a', .tooLarge⟩ :=
  ⟨plain_replicate (by decide) (by decide) 399999, compile_replicate (by decide) (by decide) (by decide) .strict⟩

end Template

end PathRouter
