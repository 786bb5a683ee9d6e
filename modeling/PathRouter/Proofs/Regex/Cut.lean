/-
An expression without assertions on the start of a text. It sees nothing of what follows, so its ways
there are its ways along the whole text that stay on the start, in the same order of preference
(`ways_take`). The groups that a way has passed lie behind it (`forall_span_ways`), so what they matched
is not cut either.
-/
import PathRouter.Proofs.Regex.Ways

namespace PathRouter

namespace Track

/-! ## Tracks on the start of a text -/

/-- The ways through `b` on the first `k` of `n` characters are the ways through `a` that stay on them. -/
structure Cut (n k : Nat) (a b : Track) : Prop where
  within : a.Within n
  outcomes_eq {p : Progress} : p.pos ≤ k → b.outcomes k p = (a.outcomes n p).filter (·.pos ≤ k)

/-- Going on from the ways that stay is staying after going on, as no way leads back. -/
theorem flatMap_filter_pos {k : Nat} {f g : Progress → List Progress} : ∀ {l : List Progress},
    (∀ q ∈ l, q.pos ≤ k → g q = (f q).filter (·.pos ≤ k)) → (∀ q ∈ l, ∀ r ∈ f q, q.pos ≤ r.pos) →
      (l.filter (·.pos ≤ k)).flatMap g = (l.flatMap f).filter (·.pos ≤ k)
  | [], _, _ => rfl
  | q :: l, hg, hf => by
    have ih : (l.filter (·.pos ≤ k)).flatMap g = (l.flatMap f).filter (·.pos ≤ k) :=
      flatMap_filter_pos (fun r hr => hg r (List.mem_cons_of_mem q hr)) fun r hr => hf r (List.mem_cons_of_mem q hr)
    rw [List.flatMap_cons, List.filter_append, ← ih, List.filter_cons]
    by_cases hq : q.pos ≤ k
    · rw [if_pos (by simpa using hq), List.flatMap_cons, hg q List.mem_cons_self hq]
    · have hnil : (f q).filter (·.pos ≤ k) = [] := by
        rw [List.filter_eq_nil_iff]
        intro r hr hrk
        have := hf q List.mem_cons_self r hr
        have := of_decide_eq_true hrk
        omega
      rw [if_neg (by simpa using hq), hnil, List.nil_append]

namespace Cut

variable {n k : Nat} {a a' b b' : Track}

theorem forward (h : Cut n k a b) : a.Forward n :=
  h.within.forward

theorem stay : Cut n k .stay .stay := by
  refine ⟨trivial, fun {p} hp => ?_⟩
  rw [outcomes, outcomes, List.filter_singleton, decide_eq_true hp]
  rfl

theorem seq (hk : k ≤ n) (ha : Cut n k a b) (hb : Cut n k a' b') : Cut n k (.seq a a') (.seq b b') := by
  refine ⟨⟨ha.within, hb.within⟩, fun {p} hp => ?_⟩
  rw [outcomes, outcomes, ha.outcomes_eq hp]
  refine flatMap_filter_pos (fun q _ hq => hb.outcomes_eq hq) fun q hq r hr => ?_
  have hqn := (ha.forward (Nat.le_trans hp hk) hq).2
  exact (hb.forward hqn hr).1

theorem either (ha : Cut n k a b) (hb : Cut n k a' b') : Cut n k (.either a a') (.either b b') := by
  refine ⟨⟨ha.within, hb.within⟩, fun {p} hp => ?_⟩
  rw [outcomes, outcomes, List.filter_append, ha.outcomes_eq hp, hb.outcomes_eq hp]

theorem optional (h : Cut n k a b) (greedy : Bool) : Cut n k (.optional greedy a) (.optional greedy b) := by
  cases greedy with
  | true => exact h.either stay
  | false => exact stay.either h

theorem power (hk : k ≤ n) (h : Cut n k a b) : ∀ m, Cut n k (a.power m) (b.power m)
  | 0 => stay
  | m + 1 => h.seq hk (h.power hk m)

theorem atMost (hk : k ≤ n) (h : Cut n k a b) (greedy : Bool) : ∀ m, Cut n k (a.atMost greedy m) (b.atMost greedy m)
  | 0 => stay
  | m + 1 => (h.seq hk (h.atMost hk greedy m)).optional greedy

/-- Further rounds do not lead back. -/
theorem le_of_mem_rounds (h : Cut n k a b) {greedy : Bool} {j : Nat} {p q : Progress} (hp : p.pos ≤ n)
    (hj : n - p.pos ≤ j)
    (hq : q ∈ rounds greedy (a.outcomes n) j p) : p.pos ≤ q.pos := by
  obtain ⟨m, hm⟩ := (Forward.mem_rounds h.forward greedy hp hj).1 ⟨q, hq, rfl⟩
  have := Forward.leadsIn h.forward hp hm
  omega

/-- Where a round more would leave the start of the text, further rounds stop at once. -/
theorem rounds_last (h : Cut n k a b) (greedy : Bool) (j : Nat) {p : Progress} (hp : p.pos = k) :
    rounds greedy (b.outcomes k) j p = [p] := by
  cases j with
  | zero => rfl
  | succ j =>
    have hnil : (b.outcomes k p).filter (p.pos < ·.pos) = [] := by
      rw [h.outcomes_eq (Nat.le_of_eq hp), List.filter_filter, List.filter_eq_nil_iff]
      intro q _ hq
      simp at hq
      omega
    rw [rounds, hnil]
    cases greedy <;> rfl

/-- Further rounds on the start of a text, each with as many rounds as characters are left. -/
theorem rounds_eq (hk : k ≤ n) (h : Cut n k a b) (greedy : Bool) :
    ∀ {j i : Nat} {p : Progress}, p.pos ≤ k → k - p.pos ≤ i →
    n - p.pos ≤ j → rounds greedy (b.outcomes k) i p = (rounds greedy (a.outcomes n) j p).filter (·.pos ≤ k)
  | 0, i, p, hp, _, hj => by
    rw [h.rounds_last greedy i (by omega), rounds, List.filter_singleton, decide_eq_true hp]
    rfl
  | j + 1, i, p, hp, hi, hj => by
    have further : ∀ {g : Progress → List Progress}, (∀ q, p.pos < q.pos → q.pos ≤ k →
          g q = (rounds greedy (a.outcomes n) j q).filter (·.pos ≤ k)) →
        ((b.outcomes k p).filter (p.pos < ·.pos)).flatMap g =
          (((a.outcomes n p).filter (p.pos < ·.pos)).flatMap (rounds greedy (a.outcomes n) j)).filter (·.pos ≤ k) := by
      intro g hg
      have hswap : ((a.outcomes n p).filter (·.pos ≤ k)).filter (p.pos < ·.pos) =
          ((a.outcomes n p).filter (p.pos < ·.pos)).filter (·.pos ≤ k) := by
        rw [List.filter_filter, List.filter_filter]
        exact List.filter_congr fun q _ => Bool.and_comm _ _
      rw [h.outcomes_eq hp, hswap]
      refine flatMap_filter_pos (fun q hq hqk => ?_) fun q hq r hr => ?_
      · have hlt : p.pos < q.pos := by simpa using (List.mem_filter.1 hq).2
        exact hg q hlt hqk
      · obtain ⟨hq, hlt⟩ := List.mem_filter.1 hq
        have hlt : p.pos < q.pos := by simpa using hlt
        have hqn := (h.forward (Nat.le_trans hp hk) hq).2
        exact h.le_of_mem_rounds hqn (by omega) hr
    cases i with
    | zero =>
      -- The start of the text ends here, so every further round along the whole text leaves it.
      have hnone := further (g := fun _ => []) fun q hlt hqk => by omega
      rw [List.flatMap_eq_nil_iff.2 fun _ _ => rfl] at hnone
      rw [rounds, rounds]
      cases greedy
      · simp [← hnone, hp]
      · simp [← hnone, hp]
    | succ i =>
      have hmore := further (g := rounds greedy (b.outcomes k) i) fun q hlt hqk =>
        rounds_eq hk h greedy hqk (by omega) (by omega)
      rw [rounds, rounds, hmore]
      cases greedy
      · simp [hp]
      · simp [hp]

theorem oneOrMore (hk : k ≤ n) (h : Cut n k a b) (greedy : Bool) :
    Cut n k (.oneOrMore greedy a) (.oneOrMore greedy b) := by
  refine ⟨h.within, fun {p} hp => ?_⟩
  rw [outcomes, outcomes, h.outcomes_eq hp]
  refine flatMap_filter_pos (fun q _ hq => ?_) fun q hq r hr => ?_
  · by_cases hpos : q.pos = p.pos
    · rw [if_pos hpos, if_pos hpos, List.filter_singleton, decide_eq_true hq]
      rfl
    · rw [if_neg hpos, if_neg hpos]
      exact h.rounds_eq hk greedy hq (Nat.le_refl _) (Nat.le_refl _)
  · split at hr
    · exact Nat.le_of_eq (congrArg Progress.pos (List.mem_singleton.1 hr).symm)
    · have hqn := (h.forward (Nat.le_trans hp hk) hq).2
      exact h.le_of_mem_rounds hqn (Nat.le_refl _) hr

theorem times (hk : k ≤ n) (h : Cut n k a b) (greedy : Bool) (min : Nat) (max : Option Nat) :
    Cut n k (a.times greedy min max) (b.times greedy min max) := by
  cases max with
  | none =>
    cases min with
    | zero => exact (h.oneOrMore hk greedy).optional greedy
    | succ m => exact (h.power hk m).seq hk (h.oneOrMore hk greedy)
  | some m =>
    cases min with
    | zero => exact (h.power hk 0).seq hk (h.atMost hk greedy m)
    | succ i => exact (h.power hk (i + 1)).seq hk (h.atMost hk greedy (m - (i + 1)))

theorem span (h : Cut n k a b) (i : Nat) : Cut n k (.span i a) (.span i b) := by
  refine ⟨h.within, fun {p} hp => ?_⟩
  rw [outcomes, outcomes, h.outcomes_eq hp, List.filter_map]
  rfl

end Cut

/-! ## Passed groups -/

/-- What every round keeps holds behind further rounds. -/
theorem forall_rounds {P : Progress → Prop} {round : Progress → List Progress} (h : ∀ p, P p → ∀ q ∈ round p, P q)
    (greedy : Bool) : ∀ (k : Nat) {p : Progress}, P p → ∀ q ∈ rounds greedy round k p, P q
  | 0, _, hp, q, hq => List.mem_singleton.1 hq ▸ hp
  | k + 1, p, hp, q, hq => by
    have hmem : q = p ∨ ∃ r ∈ round p, p.pos < r.pos ∧ q ∈ rounds greedy round k r := by
      cases greedy <;> simpa [rounds, and_assoc, or_comm] using hq
    rcases hmem with rfl | ⟨r, hr, -, hq⟩
    · exact hp
    · exact forall_rounds h greedy k (h p hp r hr) q hq

/-- The groups that were passed lie before the position, on a text of `n` characters. -/
def Passed (n : Nat) (p : Progress) : Prop :=
  p.pos ≤ n ∧ ∀ s ∈ p.spans, s.stop ≤ p.pos

theorem Within.passed {n : Nat} :
    ∀ {t : Track}, t.Within n → ∀ {p : Progress}, Passed n p → ∀ q ∈ t.outcomes n p, Passed n q
  | .stay, _, p, hp, q, hq => List.mem_singleton.1 hq ▸ hp
  | .step s, hw, p, hp, q, hq => by
    have hle := hw.forward hp.1 hq
    rw [outcomes] at hq
    split at hq
    · obtain rfl := List.mem_singleton.1 hq
      exact ⟨hle.2, fun s hs => Nat.le_trans (hp.2 s hs) hle.1⟩
    · cases hq
  | .hold s, _, p, hp, q, hq => by
    rw [outcomes] at hq
    split at hq
    · exact List.mem_singleton.1 hq ▸ hp
    · cases hq
  | .seq a b, hw, p, hp, q, hq => by
    obtain ⟨r, hr, hq⟩ := List.mem_flatMap.1 hq
    exact hw.2.passed (hw.1.passed hp r hr) q hq
  | .either a b, hw, p, hp, q, hq => by
    rcases List.mem_append.1 hq with hq | hq
    · exact hw.1.passed hp q hq
    · exact hw.2.passed hp q hq
  | .oneOrMore greedy t, hw, p, hp, q, hq => by
    have ht : t.Within n := hw
    obtain ⟨r, hr, hq⟩ := List.mem_flatMap.1 hq
    have hr := ht.passed hp r hr
    split at hq
    · exact List.mem_singleton.1 hq ▸ hr
    · exact forall_rounds (fun p hp q hq => ht.passed hp q hq) greedy _ hr q hq
  | .span i t, hw, p, hp, q, hq => by
    have ht : t.Within n := hw
    obtain ⟨r, hr, rfl⟩ := List.mem_map.1 hq
    have hr := ht.passed hp r hr
    exact ⟨hr.1, List.forall_mem_cons.2 ⟨Nat.le_refl _, hr.2⟩⟩

end Track

namespace Regex

variable {r : Regex} {t : Text} {p : Progress}

theorem cut_locate {k : Nat} (hk : k ≤ t.length) : ∀ {r : Regex}, r.assertionFree = true →
    Track.Cut t.length k (r.locate t) (r.locate (t.take k))
  | .empty, _ => .stay
  | .chars s, _ => by
    refine ⟨within_locate t (.chars s), fun {p} hp => ?_⟩
    rw [locate, locate, Track.outcomes, Track.outcomes, PositionSet.testBit_ofChars, PositionSet.testBit_ofChars]
    rcases Nat.lt_or_eq_of_le hp with hlt | heq
    · rw [List.getElem?_take_of_lt hlt]
      split
      · rw [List.filter_singleton, decide_eq_true (show p.advance.pos ≤ k from hlt)]
        rfl
      · rfl
    · -- The character here is not on the start of the text, and passing it leaves the start.
      have hout : decide (p.advance.pos ≤ k) = false := by
        rw [← heq]
        exact decide_eq_false (Nat.not_succ_le_self _)
      have hnone : (t.take k)[p.pos]? = none := List.getElem?_take_eq_none (Nat.le_of_eq heq.symm)
      rw [hnone, Option.any_none, if_neg Bool.false_ne_true]
      split
      · rw [List.filter_singleton, hout]
        rfl
      · rfl
  | .concat r s, h => by
    have h := Bool.and_eq_true_iff.1 h
    exact (cut_locate hk h.1).seq hk (cut_locate hk h.2)
  | .alt r s, h => by
    have h := Bool.and_eq_true_iff.1 h
    exact (cut_locate hk h.1).either (cut_locate hk h.2)
  | .times greedy min max r, h => (cut_locate hk (r := r) h).times hk greedy min max
  | .group i r, h => (cut_locate hk (r := r) h).span i

/-- An expression without assertions has the same ways on the start of a text as along the whole text, but for
those that leave the start. -/
theorem ways_take (h : r.assertionFree = true) {k : Nat} (hk : k ≤ t.length) (hp : p.pos ≤ k) :
    r.ways (t.take k) p = (r.ways t p).filter (·.pos ≤ k) := by
  have hcut := (cut_locate hk h).outcomes_eq hp
  rw [ways, List.length_take_of_le hk]
  exact hcut

/-- The groups that a way from the start has passed lie before its end. -/
theorem stop_le_of_mem_ways {q : Progress} (hq : q ∈ r.ways t ⟨0, []⟩) : ∀ s ∈ q.spans, s.stop ≤ q.pos :=
  ((within_locate t r).passed (p := ⟨0, []⟩) ⟨Nat.zero_le _, List.forall_mem_nil _⟩ q hq).2

end Regex

end PathRouter
