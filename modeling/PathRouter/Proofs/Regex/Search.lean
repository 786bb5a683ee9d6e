/-
The fast search agrees with the meaning of a track. On a track whose characters lie within the
text, `before` yields the positions with an outcome in the goal, `first` the first such outcome in
the order of preference, and `find` the first outcome at the leftmost position that has one.

A repetition is the only case with an argument: further rounds of `outcomes` pass a character
each, the closure of `before` does not care. Both reach the same positions, because a round that
stays in place can be left out, and at most as many rounds as characters remain.
-/
import PathRouter.Regex.Search
import Mathlib.Data.List.Basic

namespace PathRouter

/-! ## Sets of positions -/

namespace PositionSet

theorem testBit_ofBits (bs : List Bool) (i : Nat) :
    (ofBits bs).testBit i = bs[i]?.getD false := by
  induction bs generalizing i with
  | nil => simp [ofBits]
  | cons b bs ih =>
    have hb : b.toNat < 2 ^ 1 := by cases b <;> decide
    rw [ofBits, show 2 * ofBits bs = 2 ^ 1 * ofBits bs from rfl, Nat.testBit_two_pow_mul_add _ hb]
    cases i with
    | zero => cases b <;> rfl
    | succ i => simp [ih]

theorem testBit_upTo (n i : Nat) : (upTo n).testBit i = decide (i ≤ n) := by
  rw [upTo, show Nat.pow 2 (n + 1) = 2 ^ (n + 1) from rfl, Nat.testBit_two_pow_sub_one]
  exact decide_eq_decide.2 Nat.lt_succ_iff

theorem testBit_above (p i : Nat) (s : PositionSet) :
    (s.above p).testBit i = (decide (p < i) && s.testBit i) := by
  rw [above, Nat.testBit_shiftLeft, Nat.testBit_shiftRight]
  by_cases h : p < i
  · rw [Nat.add_sub_cancel' (by omega)]
    simp [h, Nat.succ_le_of_lt h]
  · simp [h, show ¬ p + 1 ≤ i by omega]

theorem testBit_only (p i : Nat) (s : PositionSet) :
    (s.only p).testBit i = (decide (p = i) && s.testBit i) := by
  unfold only
  split
  · rename_i h
    rw [Nat.one_shiftLeft, Nat.testBit_two_pow]
    by_cases hi : p = i
    · subst hi; simp [h]
    · simp [hi]
  · rename_i h
    by_cases hi : p = i
    · subst hi; simpa using h
    · simp [hi]

end PositionSet

/-- The first member with a property, taken further by a partial map: the first member that the map
takes further, if the property foresees where it is defined. -/
theorem find?_bind_eq_findSome? {α β : Type} {g : α → Bool} {f f' : α → Option β} :
    ∀ {xs : List α}, (∀ x ∈ xs, g x = (f' x).isSome ∧ (g x = true → f x = f' x)) →
      (xs.find? g).bind f = xs.findSome? f'
  | [], _ => rfl
  | x :: xs, h => by
    obtain ⟨hg, hf⟩ := h x List.mem_cons_self
    have ih : (xs.find? g).bind f = xs.findSome? f' :=
      find?_bind_eq_findSome? fun y hy => h y (List.mem_cons_of_mem _ hy)
    rw [List.find?_cons, List.findSome?_cons]
    cases hx : f' x with
    | none => rw [hx] at hg; rw [hg]; exact ih
    | some y =>
      rw [hx] at hg
      rw [hg]
      exact (hf hg).trans hx

/-! ## The spans passed before -/

namespace Progress

/-- The progress after an earlier one, whose spans it keeps. -/
def onto (p : Progress) (spans : List Span) : Progress :=
  { p with spans := p.spans ++ spans }

@[simp] theorem onto_pos (p : Progress) (spans : List Span) : (p.onto spans).pos = p.pos := rfl

@[simp] theorem onto_spans (p : Progress) (spans : List Span) :
    (p.onto spans).spans = p.spans ++ spans := rfl

end Progress

namespace Track

theorem rounds_onto {round : Progress → List Progress} {spans : List Span}
    (h : ∀ p, round (p.onto spans) = (round p).map (·.onto spans)) (greedy : Bool) :
    ∀ k p, rounds greedy round k (p.onto spans) = (rounds greedy round k p).map (·.onto spans)
  | 0, _ => rfl
  | k + 1, p => by
    have further : ((round (p.onto spans)).filter ((p.onto spans).pos < ·.pos)).flatMap (rounds greedy round k) =
        (((round p).filter (p.pos < ·.pos)).flatMap (rounds greedy round k)).map (·.onto spans) := by
      rw [h, List.filter_map, List.flatMap_map, List.map_flatMap, Progress.onto_pos]
      exact List.flatMap_congr fun q _ => rounds_onto h greedy k q
    cases greedy <;> simpa [rounds] using further

/-- What was passed before does not change the ways onwards. -/
theorem outcomes_onto (n : Nat) (t : Track) (spans : List Span) :
    ∀ p, t.outcomes n (p.onto spans) = (t.outcomes n p).map (·.onto spans) := by
  induction t with
  | stay => intro p; rfl
  | step s => intro p; by_cases h : s.testBit p.pos <;> simp [outcomes, h, Progress.advance, Progress.onto]
  | hold s => intro p; by_cases h : s.testBit p.pos <;> simp [outcomes, h]
  | seq a b iha ihb =>
    intro p
    simp only [outcomes, iha, List.flatMap_map, List.map_flatMap]
    exact List.flatMap_congr fun q _ => ihb q
  | either a b iha ihb => intro p; simp [outcomes, iha, ihb]
  | oneOrMore greedy t ih =>
    intro p
    simp only [outcomes, ih, List.flatMap_map, List.map_flatMap]
    refine List.flatMap_congr fun q _ => ?_
    by_cases h : q.pos = p.pos
    · simp [h]
    · simp [h, rounds_onto ih]
  | span i t ih =>
    intro p
    simp only [outcomes, ih, List.map_map]
    rfl

/-! ## The positions a track leads to -/

/-- The characters that a track passes lie within a text of `n` characters. -/
def Within (n : Nat) : Track → Prop
  | stay | hold _ => True
  | step s => ∀ i, s.testBit i = true → i < n
  | seq a b | either a b => a.Within n ∧ b.Within n
  | oneOrMore _ t | span _ t => t.Within n

/-- Some way through the track leads from `i` to `j`. -/
def Leads (n : Nat) (t : Track) (i j : Nat) : Prop :=
  ∃ q ∈ t.outcomes n ⟨i, []⟩, q.pos = j

theorem leads_iff {n : Nat} {t : Track} {p : Progress} {j : Nat} :
    t.Leads n p.pos j ↔ ∃ q ∈ t.outcomes n p, q.pos = j := by
  have h : t.outcomes n p = (t.outcomes n ⟨p.pos, []⟩).map (·.onto p.spans) := outcomes_onto n t p.spans ⟨p.pos, []⟩
  rw [h]
  simp [Leads]

theorem Leads.of_mem {n : Nat} {t : Track} {p q : Progress} (h : q ∈ t.outcomes n p) :
    t.Leads n p.pos q.pos :=
  leads_iff.2 ⟨q, h, rfl⟩

/-- `m` rounds that pass a character each lead from `i` to `j`. -/
def LeadsIn (n : Nat) (t : Track) : Nat → Nat → Nat → Prop
  | 0, i, j => i = j
  | m + 1, i, j => ∃ k, LeadsIn n t m i k ∧ k < j ∧ t.Leads n k j

theorem leadsIn_cons {n : Nat} {t : Track} {i k : Nat} (hk : i < k) (h : t.Leads n i k) :
    ∀ {m j : Nat}, t.LeadsIn n m k j → t.LeadsIn n (m + 1) i j
  | 0, _, hj => ⟨i, rfl, hj ▸ hk, hj ▸ h⟩
  | _ + 1, _, ⟨l, hl, hlj, hr⟩ => ⟨l, leadsIn_cons hk h hl, hlj, hr⟩

theorem leadsIn_succ_iff {n : Nat} {t : Track} : ∀ {m i j : Nat},
    t.LeadsIn n (m + 1) i j ↔ ∃ k, i < k ∧ t.Leads n i k ∧ t.LeadsIn n m k j
  | 0, i, j => by
    constructor
    · rintro ⟨k, rfl, hj, h⟩; exact ⟨j, hj, h, rfl⟩
    · rintro ⟨k, hk, h, rfl⟩; exact ⟨i, rfl, hk, h⟩
  | m + 1, i, j => by
    constructor
    · rintro ⟨l, hl, hlj, hr⟩
      obtain ⟨k, hk, h, hkl⟩ := leadsIn_succ_iff.1 hl
      exact ⟨k, hk, h, l, hkl, hlj, hr⟩
    · rintro ⟨k, hk, h, hkj⟩
      exact leadsIn_cons hk h hkj

/-! ## Outcomes move forwards, within the text -/

/-- Every way through the track moves forwards and stays within the text. -/
def Forward (n : Nat) (t : Track) : Prop :=
  ∀ {p q : Progress}, p.pos ≤ n → q ∈ t.outcomes n p → p.pos ≤ q.pos ∧ q.pos ≤ n

theorem Forward.leadsIn {n : Nat} {t : Track} (ht : t.Forward n) :
    ∀ {m i j : Nat}, i ≤ n → t.LeadsIn n m i j → i + m ≤ j ∧ j ≤ n
  | 0, _, _, hi, rfl => ⟨Nat.le_refl _, hi⟩
  | m + 1, i, j, hi, ⟨k, hk, hkj, q, hq, hj⟩ => by
    have h1 := ht.leadsIn hi hk
    have h2 := ht (p := ⟨k, []⟩) h1.2 hq
    omega

/-- The ends of rounds are the positions that rounds passing a character each lead to. -/
theorem Forward.mem_rounds {n : Nat} {t : Track} (ht : t.Forward n) (greedy : Bool) :
    ∀ {k : Nat} {p : Progress} {j : Nat}, p.pos ≤ n → n - p.pos ≤ k →
      ((∃ q ∈ rounds greedy (t.outcomes n) k p, q.pos = j) ↔ ∃ m, t.LeadsIn n m p.pos j)
  | 0, p, j, hp, hk => by
    simp only [rounds, List.mem_singleton, exists_eq_left]
    constructor
    · rintro rfl; exact ⟨0, rfl⟩
    · rintro ⟨m, hm⟩
      cases m with
      | zero => exact hm
      | succ m =>
        have := ht.leadsIn hp hm
        omega
  | k + 1, p, j, hp, hk => by
    have hmem : ∀ q, q ∈ rounds greedy (t.outcomes n) (k + 1) p ↔
        q = p ∨ ∃ r ∈ t.outcomes n p, p.pos < r.pos ∧ q ∈ rounds greedy (t.outcomes n) k r := by
      intro q
      cases greedy <;> simp [rounds, and_assoc, or_comm]
    have hrest : ∀ r ∈ t.outcomes n p, p.pos < r.pos →
        ((∃ q ∈ rounds greedy (t.outcomes n) k r, q.pos = j) ↔ ∃ m, t.LeadsIn n m r.pos j) := fun r hr hlt =>
      ht.mem_rounds greedy (ht hp hr).2 (by omega)
    simp only [hmem]
    constructor
    · rintro ⟨q, rfl | ⟨r, hr, hlt, hq⟩, rfl⟩
      · exact ⟨0, rfl⟩
      · obtain ⟨m, hm⟩ := (hrest r hr hlt).1 ⟨q, hq, rfl⟩
        exact ⟨m + 1, leadsIn_cons hlt (.of_mem hr) hm⟩
    · rintro ⟨m, hm⟩
      cases m with
      | zero => exact ⟨p, .inl rfl, hm⟩
      | succ m =>
        obtain ⟨l, hl, h, hm⟩ := leadsIn_succ_iff.1 hm
        obtain ⟨r, hr, rfl⟩ := leads_iff.1 h
        obtain ⟨q, hq, hj⟩ := (hrest r hr hl).2 ⟨m, hm⟩
        exact ⟨q, .inr ⟨r, hr, hl, hq⟩, hj⟩

theorem Within.forward {n : Nat} {t : Track} (hw : t.Within n) : t.Forward n := by
  induction t with
  | stay => intro p q hp hq; simp only [outcomes, List.mem_singleton] at hq; subst hq; exact ⟨Nat.le_refl _, hp⟩
  | step s =>
    intro p q hp hq
    by_cases h : s.testBit p.pos = true
    · simp only [outcomes, h, if_true, List.mem_singleton] at hq
      have := hw _ h
      subst hq; simp only [Progress.advance]; omega
    · simp [outcomes, h] at hq
  | hold s =>
    intro p q hp hq
    by_cases h : s.testBit p.pos = true
    · simp only [outcomes, h, if_true, List.mem_singleton] at hq
      subst hq; exact ⟨Nat.le_refl _, hp⟩
    · simp [outcomes, h] at hq
  | seq a b iha ihb =>
    intro p q hp hq
    obtain ⟨r, hr, hq⟩ := List.mem_flatMap.1 hq
    have h1 := iha hw.1 hp hr
    have h2 := ihb hw.2 h1.2 hq
    omega
  | either a b iha ihb =>
    intro p q hp hq
    rcases List.mem_append.1 hq with hq | hq
    · exact iha hw.1 hp hq
    · exact ihb hw.2 hp hq
  | oneOrMore greedy t ih =>
    intro p q hp hq
    have ht : t.Forward n := ih hw
    obtain ⟨r, hr, hq⟩ := List.mem_flatMap.1 hq
    have h1 := ht hp hr
    by_cases h : r.pos = p.pos
    · simp only [h, if_true, List.mem_singleton] at hq
      subst hq; exact h1
    · simp only [h, if_false] at hq
      obtain ⟨m, hm⟩ := (ht.mem_rounds greedy h1.2 (Nat.le_refl _)).1 ⟨q, hq, rfl⟩
      have := ht.leadsIn h1.2 hm
      omega
  | span i t ih =>
    intro p q hp hq
    obtain ⟨r, hr, rfl⟩ := List.mem_map.1 hq
    have := ih hw hp hr
    exact this

/-! ## Looking back from the goal -/

/-- What `before` yields: the positions from which the track leads into a set. -/
def Foresees (n : Nat) (t : Track) : Prop :=
  ∀ s i, i ≤ n → ((t.before n s).testBit i = true ↔ ∃ j, t.Leads n i j ∧ s.testBit j = true)

theorem Foresees.of_leadsIn {n : Nat} {t : Track} (ht : t.Forward n) (hb : t.Foresees n) :
    ∀ {k m i j : Nat} {s : PositionSet}, m ≤ k → i ≤ n → t.LeadsIn n m i j → s.testBit j = true →
      (closure (t.before n) k s).testBit i = true
  | 0, m, i, j, s, hm, _, h, hs => by
    obtain rfl : m = 0 := by omega
    obtain rfl : i = j := h
    exact hs
  | k + 1, m, i, j, s, hm, hi, h, hs => by
    have step : ∀ {l j}, l ≤ n → t.Leads n l j → s.testBit j = true → (s ||| t.before n s).testBit l = true := by
      intro l j hl h hs
      rw [Nat.testBit_or, (hb s l hl).2 ⟨j, h, hs⟩, Bool.or_true]
    rw [closure]
    split
    · rename_i he
      -- A set that looking back does not enlarge holds the start of every chain into it.
      have back : ∀ {m j}, t.LeadsIn n m i j → s.testBit j = true → s.testBit i = true := by
        intro m
        induction m with
        | zero => rintro j rfl hs; exact hs
        | succ m ih =>
          rintro j ⟨l, hl, _, h⟩ hs
          exact ih hl (he ▸ step (ht.leadsIn hi hl).2 h hs)
      exact back h hs
    · cases m with
      | zero => exact hb.of_leadsIn ht (m := 0) (Nat.zero_le _) hi h (by rw [Nat.testBit_or, hs, Bool.true_or])
      | succ m =>
        obtain ⟨l, hl, _, h⟩ := h
        exact hb.of_leadsIn ht (by omega) hi hl (step (ht.leadsIn hi hl).2 h hs)

theorem Foresees.leadsIn {n : Nat} {t : Track} (ht : t.Forward n) (hb : t.Foresees n) :
    ∀ {k i : Nat} {s : PositionSet}, i ≤ n → (closure (t.before n) k s).testBit i = true →
      ∃ m j, t.LeadsIn n m i j ∧ s.testBit j = true
  | 0, i, s, _, h => ⟨0, i, rfl, h⟩
  | k + 1, i, s, hi, h => by
    rw [closure] at h
    split at h
    · exact ⟨0, i, rfl, h⟩
    · obtain ⟨m, j, hm, hj⟩ := hb.leadsIn ht hi h
      rw [Nat.testBit_or, Bool.or_eq_true] at hj
      rcases hj with hj | hj
      · exact ⟨m, j, hm, hj⟩
      · have hjn := (ht.leadsIn hi hm).2
        obtain ⟨l, hl, hs⟩ := (hb s j hjn).1 hj
        obtain ⟨q, hq, rfl⟩ := hl
        rcases Nat.lt_or_eq_of_le (ht (p := ⟨j, []⟩) hjn hq).1 with hlt | he
        · exact ⟨m + 1, q.pos, ⟨j, hm, hlt, q, hq, rfl⟩, hs⟩
        · have he : j = q.pos := he
          exact ⟨m, j, hm, he ▸ hs⟩

/-- The positions from which rounds lead into a set. -/
theorem Foresees.testBit_closure {n : Nat} {t : Track} (ht : t.Forward n) (hb : t.Foresees n)
    {s : PositionSet} {i : Nat} (hi : i ≤ n) :
    (closure (t.before n) (n + 1) s).testBit i = true ↔ ∃ m j, t.LeadsIn n m i j ∧ s.testBit j = true := by
  refine ⟨hb.leadsIn ht hi, fun ⟨m, j, h, hs⟩ => hb.of_leadsIn ht ?_ hi h hs⟩
  have := ht.leadsIn hi h
  omega

/-- Where one or more rounds lead: to where one round leads, or on from there. -/
theorem Forward.leads_oneOrMore {n : Nat} {t : Track} (ht : t.Forward n) {greedy : Bool} {i j : Nat} (hi : i ≤ n) :
    (oneOrMore greedy t).Leads n i j ↔ ∃ k m, t.Leads n i k ∧ t.LeadsIn n m k j := by
  have onwards : ∀ {k m}, i < k → t.Leads n i k → t.LeadsIn n m k j → (oneOrMore greedy t).Leads n i j := by
    rintro k m hik ⟨q, hq, rfl⟩ hm
    have hqn := (ht (p := ⟨i, []⟩) hi hq).2
    obtain ⟨r, hr, hj⟩ := (ht.mem_rounds greedy hqn (Nat.le_refl _)).2 ⟨m, hm⟩
    refine ⟨r, List.mem_flatMap.2 ⟨q, hq, ?_⟩, hj⟩
    rw [if_neg (show q.pos ≠ i by omega)]
    exact hr
  constructor
  · rintro ⟨r, hr, rfl⟩
    obtain ⟨q, hq, hr⟩ := List.mem_flatMap.1 hr
    have hqn := (ht (p := ⟨i, []⟩) hi hq).2
    by_cases h : q.pos = i
    · rw [if_pos h, List.mem_singleton] at hr
      subst hr
      exact ⟨r.pos, 0, ⟨r, hq, rfl⟩, rfl⟩
    · rw [if_neg h] at hr
      obtain ⟨m, hm⟩ := (ht.mem_rounds greedy hqn (Nat.le_refl _)).1 ⟨r, hr, rfl⟩
      exact ⟨q.pos, m, ⟨q, hq, rfl⟩, hm⟩
  · rintro ⟨k, m, ⟨q, hq, rfl⟩, hm⟩
    rcases Nat.lt_or_eq_of_le (ht (p := ⟨i, []⟩) hi hq).1 with h | h
    · exact onwards h ⟨q, hq, rfl⟩ hm
    · have h : i = q.pos := h
      -- A first round that stays in place: the next one takes its part.
      cases m with
      | zero =>
        refine ⟨q, List.mem_flatMap.2 ⟨q, hq, ?_⟩, hm⟩
        rw [if_pos h.symm]
        exact List.mem_singleton_self q
      | succ m =>
        obtain ⟨k, hk, hl, hm⟩ := leadsIn_succ_iff.1 hm
        exact onwards (h ▸ hk) (h ▸ hl) hm

theorem leads_seq {n : Nat} {a b : Track} {i j : Nat} :
    (seq a b).Leads n i j ↔ ∃ k, a.Leads n i k ∧ b.Leads n k j := by
  constructor
  · rintro ⟨r, hr, rfl⟩
    obtain ⟨q, hq, hr⟩ := List.mem_flatMap.1 hr
    exact ⟨q.pos, ⟨q, hq, rfl⟩, .of_mem hr⟩
  · rintro ⟨k, ⟨q, hq, rfl⟩, h⟩
    obtain ⟨r, hr, hj⟩ := leads_iff.1 h
    exact ⟨r, List.mem_flatMap.2 ⟨q, hq, hr⟩, hj⟩

theorem leads_either {n : Nat} {a b : Track} {i j : Nat} :
    (either a b).Leads n i j ↔ a.Leads n i j ∨ b.Leads n i j := by
  simp only [Leads, outcomes, List.mem_append, or_and_right, exists_or]

theorem leads_span {n g : Nat} {t : Track} {i j : Nat} : (span g t).Leads n i j ↔ t.Leads n i j := by
  simp [Leads, outcomes, Progress.record]

theorem Leads.le {n : Nat} {t : Track} (ht : t.Forward n) {i j : Nat} (hi : i ≤ n) (h : t.Leads n i j) : j ≤ n := by
  obtain ⟨q, hq, rfl⟩ := h
  exact (ht (p := ⟨i, []⟩) hi hq).2

/-- Looking back finds exactly the positions that lead into the goal. -/
theorem Within.foresees {n : Nat} {t : Track} (hw : t.Within n) : t.Foresees n := by
  induction t with
  | stay => intro s i _; simp [before, Leads, outcomes]
  | step m =>
    intro s i _
    by_cases h : m.testBit i = true <;> simp [before, Leads, outcomes, h, Progress.advance, Nat.add_comm]
  | hold m =>
    intro s i _
    by_cases h : m.testBit i = true <;> simp [before, Leads, outcomes, h]
  | seq a b iha ihb =>
    intro s i hi
    simp only [before, iha hw.1 _ i hi, leads_seq]
    constructor
    · rintro ⟨k, hk, hs⟩
      obtain ⟨j, hj, hs⟩ := (ihb hw.2 s k (hk.le hw.1.forward hi)).1 hs
      exact ⟨j, ⟨k, hk, hj⟩, hs⟩
    · rintro ⟨j, ⟨k, hk, hj⟩, hs⟩
      exact ⟨k, hk, (ihb hw.2 s k (hk.le hw.1.forward hi)).2 ⟨j, hj, hs⟩⟩
  | either a b iha ihb =>
    intro s i hi
    simp only [before, Nat.testBit_or, Bool.or_eq_true, iha hw.1 s i hi, ihb hw.2 s i hi, leads_either,
      or_and_right, exists_or]
  | oneOrMore greedy t ih =>
    intro s i hi
    have ht : t.Forward n := Within.forward (t := t) hw
    simp only [before, ih hw _ i hi, ht.leads_oneOrMore hi]
    constructor
    · rintro ⟨k, hk, hs⟩
      obtain ⟨m, j, hm, hs⟩ := ((ih hw).testBit_closure ht (hk.le ht hi)).1 hs
      exact ⟨j, ⟨k, m, hk, hm⟩, hs⟩
    · rintro ⟨j, ⟨k, m, hk, hm⟩, hs⟩
      exact ⟨k, hk, ((ih hw).testBit_closure ht (hk.le ht hi)).2 ⟨m, j, hm, hs⟩⟩
  | span g t ih =>
    intro s i hi
    simp only [before, leads_span]
    exact ih hw s i hi

/-! ## The first outcome -/

theorem isSome_find?_outcomes {n : Nat} {t : Track} {s : PositionSet} {p : Progress} :
    ((t.outcomes n p).find? (s.testBit ·.pos)).isSome = true ↔ ∃ j, t.Leads n p.pos j ∧ s.testBit j = true := by
  rw [List.find?_isSome]
  constructor
  · rintro ⟨q, hq, hs⟩; exact ⟨q.pos, .of_mem hq, hs⟩
  · rintro ⟨j, h, hs⟩
    obtain ⟨q, hq, rfl⟩ := leads_iff.1 h
    exact ⟨q, hq, hs⟩

theorem Foresees.closure_eq_isSome {n : Nat} {t : Track} (ht : t.Forward n) (hb : t.Foresees n) (greedy : Bool)
    {k : Nat} {s : PositionSet} {p : Progress} (hp : p.pos ≤ n) (hk : n - p.pos ≤ k) :
    (closure (t.before n) (n + 1) s).testBit p.pos =
      ((rounds greedy (t.outcomes n) k p).find? (s.testBit ·.pos)).isSome := by
  rw [Bool.eq_iff_iff, hb.testBit_closure ht hp, List.find?_isSome]
  constructor
  · rintro ⟨m, j, hm, hs⟩
    obtain ⟨r, hr, rfl⟩ := (ht.mem_rounds greedy hp hk).2 ⟨m, hm⟩
    exact ⟨r, hr, hs⟩
  · rintro ⟨r, hr, hs⟩
    obtain ⟨m, hm⟩ := (ht.mem_rounds greedy hp hk).1 ⟨r, hr, rfl⟩
    exact ⟨m, r.pos, hm, hs⟩

theorem Foresees.before_eq_isSome {n : Nat} {t : Track} (hb : t.Foresees n) {s : PositionSet} {p : Progress}
    (hp : p.pos ≤ n) :
    (t.before n s).testBit p.pos = ((t.outcomes n p).find? (s.testBit ·.pos)).isSome := by
  rw [Bool.eq_iff_iff, hb s p.pos hp, isSome_find?_outcomes]

/-- The first of the further rounds. -/
theorem firstRounds_eq {n : Nat} {t : Track} (ht : t.Forward n) (hb : t.Foresees n) (greedy : Bool)
    {s : PositionSet} (hf : ∀ {s : PositionSet} {p : Progress}, p.pos ≤ n →
      t.first n s p = (t.outcomes n p).find? (s.testBit ·.pos)) :
    ∀ {k : Nat} {p : Progress}, p.pos ≤ n → n - p.pos ≤ k →
      firstRounds greedy (t.first n) s (closure (t.before n) (n + 1) s) k p =
        (rounds greedy (t.outcomes n) k p).find? (s.testBit ·.pos)
  | 0, p, _, _ => by simp [firstRounds, rounds]
  | k + 1, p, hp, hk => by
    have further :
        (t.first n ((closure (t.before n) (n + 1) s).above p.pos) p).bind
            (firstRounds greedy (t.first n) s (closure (t.before n) (n + 1) s) k) =
          (((t.outcomes n p).filter (p.pos < ·.pos)).flatMap (rounds greedy (t.outcomes n) k)).find?
            (s.testBit ·.pos) := by
      simp only [hf hp, PositionSet.testBit_above]
      have later : (t.outcomes n p).find?
            (fun q => decide (p.pos < q.pos) && (closure (t.before n) (n + 1) s).testBit q.pos) =
          ((t.outcomes n p).filter (p.pos < ·.pos)).find? ((closure (t.before n) (n + 1) s).testBit ·.pos) := by
        simp [List.find?_filter]
      rw [later, List.find?_flatMap]
      refine find?_bind_eq_findSome? fun q hq => ?_
      obtain ⟨hq, hlt⟩ := List.mem_filter.1 hq
      have hlt : p.pos < q.pos := by simpa using hlt
      have hqn := (ht hp hq).2
      exact ⟨hb.closure_eq_isSome ht greedy hqn (by omega), fun _ => firstRounds_eq ht hb greedy hf hqn (by omega)⟩
    rw [firstRounds, rounds]
    cases greedy with
    | true =>
      simp only [if_true, List.find?_append, further]
      cases List.find? _ _ <;> simp
    | false =>
      simp only [Bool.false_eq_true, if_false, List.find?_cons, further]
      cases s.testBit p.pos <;> simp

/-- The search takes the first outcome in the order of preference that ends in the goal. -/
theorem Within.first_eq {n : Nat} {t : Track} (hw : t.Within n) :
    ∀ {s : PositionSet} {p : Progress}, p.pos ≤ n →
      t.first n s p = (t.outcomes n p).find? (s.testBit ·.pos) := by
  induction t with
  | stay => intro s p _; by_cases h : s.testBit p.pos = true <;> simp [first, outcomes, h]
  | step m =>
    intro s p _
    by_cases hm : m.testBit p.pos = true <;> by_cases h : s.testBit (p.pos + 1) = true <;>
      simp [first, outcomes, hm, h, Progress.advance]
  | hold m =>
    intro s p _
    by_cases hm : m.testBit p.pos = true <;> by_cases h : s.testBit p.pos = true <;>
      simp [first, outcomes, hm, h]
  | seq a b iha ihb =>
    intro s p hp
    rw [first, iha hw.1 hp, outcomes, List.find?_flatMap]
    refine find?_bind_eq_findSome? fun q hq => ?_
    have hqn := (hw.1.forward hp hq).2
    exact ⟨hw.2.foresees.before_eq_isSome hqn, fun _ => ihb hw.2 hqn⟩
  | either a b iha ihb =>
    intro s p hp
    rw [first, iha hw.1 hp, ihb hw.2 hp, outcomes, List.find?_append]
    cases List.find? _ _ <;> rfl
  | oneOrMore greedy t ih =>
    intro s p hp
    have ht : t.Forward n := Within.forward (t := t) hw
    have hb : t.Foresees n := Within.foresees (t := t) hw
    rw [first, ih hw hp, outcomes, List.find?_flatMap]
    refine find?_bind_eq_findSome? fun q hq => ?_
    obtain ⟨hle, hqn⟩ := ht hp hq
    rw [Nat.testBit_or, PositionSet.testBit_above, PositionSet.testBit_only]
    by_cases h : q.pos = p.pos
    · simp only [h, Nat.lt_irrefl, decide_false, Bool.false_and, decide_true, Bool.true_and, Bool.false_or, if_true,
        List.find?_singleton]
      by_cases hs : s.testBit p.pos = true <;> simp [hs]
    · have hlt : p.pos < q.pos := by omega
      simp only [hlt, h, Ne.symm h, decide_true, decide_false, Bool.true_and, Bool.false_and, Bool.or_false, if_false]
      exact ⟨hb.closure_eq_isSome ht greedy hqn (Nat.le_refl _),
        fun _ => firstRounds_eq ht hb greedy (fun hp => ih hw hp) hqn (Nat.le_refl _)⟩
  | span g t ih =>
    intro s p hp
    rw [first, ih hw hp, outcomes, List.find?_map]
    rfl

/-! ## The leftmost outcome -/

theorem Within.first_upTo {n : Nat} {t : Track} (hw : t.Within n) {p : Progress} (hp : p.pos ≤ n) :
    t.first n (.upTo n) p = (t.outcomes n p).head? := by
  rw [hw.first_eq hp]
  cases h : t.outcomes n p with
  | nil => rfl
  | cons q qs =>
    have hq := (hw.forward hp (h ▸ List.mem_cons_self)).2
    simp [PositionSet.testBit_upTo, hq]

theorem Within.before_upTo {n : Nat} {t : Track} (hw : t.Within n) {p : Progress} (hp : p.pos ≤ n) :
    (t.before n (.upTo n)).testBit p.pos = (t.outcomes n p).head?.isSome := by
  rw [hw.foresees.before_eq_isSome hp, ← hw.first_eq hp, hw.first_upTo hp]

/-- The first outcome at the leftmost position that has one. -/
theorem Within.find_eq {n : Nat} {t : Track} (hw : t.Within n) :
    t.find n = (List.range (n + 1)).findSome? fun i => (t.outcomes n ⟨i, []⟩).head?.map (i, ·) := by
  have hbind : t.find n = ((List.range (n + 1)).find? (t.before n (.upTo n)).testBit).bind
      fun i => (t.first n (.upTo n) ⟨i, []⟩).map (i, ·) := by
    rw [Track.find]
    cases List.find? _ _ <;> rfl
  rw [hbind]
  refine find?_bind_eq_findSome? fun i hi => ?_
  have hi : i ≤ n := by simpa [Nat.lt_succ_iff] using hi
  rw [hw.first_upTo (p := ⟨i, []⟩) hi, Option.isSome_map]
  exact ⟨hw.before_upTo (p := ⟨i, []⟩) hi, fun _ => rfl⟩

/-- Whether the track leads anywhere is whether the search finds something. -/
theorem Within.matchesSomewhere_eq {n : Nat} {t : Track} (hw : t.Within n) :
    t.matchesSomewhere n = (t.find n).isSome := by
  rw [Bool.eq_iff_iff, hw.find_eq, List.findSome?_isSome_iff, matchesSomewhere, bne_iff_ne]
  constructor
  · intro h
    obtain ⟨i, hi⟩ := Nat.exists_testBit_of_ne_zero h
    rw [Nat.testBit_and, PositionSet.testBit_upTo, Bool.and_eq_true, decide_eq_true_eq] at hi
    rw [hw.before_upTo (p := ⟨i, []⟩) hi.2] at hi
    exact ⟨i, List.mem_range.2 (Nat.lt_succ_of_le hi.2), by rw [Option.isSome_map]; exact hi.1⟩
  · rintro ⟨i, hi, h⟩ h0
    have hi := Nat.lt_succ_iff.1 (List.mem_range.1 hi)
    rw [Option.isSome_map, ← hw.before_upTo (p := ⟨i, []⟩) hi] at h
    have := congrArg (Nat.testBit · i) h0
    simp [PositionSet.testBit_upTo, hi, h] at this

end Track

end PathRouter
