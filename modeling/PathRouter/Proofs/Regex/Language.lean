/-
The texts that an expression stands for. Without assertions, what an expression leads along is a
matter of these texts alone (`spells_locate`): preferences and empty rounds of repetitions do not
count.
-/
import PathRouter.Proofs.Regex.Ways

namespace PathRouter

/-! ## Texts made of several ones -/

/-- A text made of texts with a property, in a number of them that has one too. -/
def Made (P : Text → Prop) (n : Nat → Prop) (v : Text) : Prop :=
  ∃ ws : List Text, n ws.length ∧ (∀ w ∈ ws, P w) ∧ ws.flatten = v

namespace Made

variable {P : Text → Prop} {m n : Nat → Prop} {v : Text}

theorem congr (h : ∀ k, m k ↔ n k) : Made P m v ↔ Made P n v := by
  simp only [Made, h]

theorem zero_iff : Made P (· = 0) v ↔ v = [] := by
  constructor
  · rintro ⟨ws, hlen, -, rfl⟩
    rw [List.length_eq_zero_iff.1 hlen]
    rfl
  · rintro rfl
    exact ⟨[], rfl, List.forall_mem_nil _, rfl⟩

theorem one_iff : Made P (· = 1) v ↔ P v := by
  constructor
  · rintro ⟨ws, hlen, hws, rfl⟩
    obtain ⟨w, rfl⟩ := List.length_eq_one_iff.1 hlen
    rw [List.flatten_singleton]
    exact hws w List.mem_cons_self
  · intro h
    exact ⟨[v], rfl, List.forall_mem_singleton.2 h, List.flatten_singleton⟩

theorem or_iff : Made P m v ∨ Made P n v ↔ Made P (fun k => m k ∨ n k) v := by
  simp only [Made, or_and_right, exists_or]

theorem append_iff : (∃ u w, Made P m u ∧ Made P n w ∧ u ++ w = v) ↔
    Made P (fun k => ∃ i j, m i ∧ n j ∧ i + j = k) v := by
  constructor
  · rintro ⟨_, _, ⟨us, hm, hus, rfl⟩, ⟨ws, hn, hws, rfl⟩, rfl⟩
    exact ⟨us ++ ws, ⟨_, _, hm, hn, List.length_append.symm⟩, List.forall_mem_append.2 ⟨hus, hws⟩, List.flatten_append⟩
  · rintro ⟨ws, ⟨i, j, hm, hn, hlen⟩, hws, rfl⟩
    refine ⟨_, _, ⟨ws.take i, ?_, fun w hw => hws w (List.mem_of_mem_take hw), rfl⟩,
      ⟨ws.drop i, ?_, fun w hw => hws w (List.mem_of_mem_drop hw), rfl⟩, ?_⟩
    · rwa [List.length_take, Nat.min_eq_left (by omega)]
    · rwa [List.length_drop, show ws.length - i = j by omega]
    · rw [← List.flatten_append, List.take_append_drop]

end Made

/-! ## What a track leads along -/

theorem append_prefix_drop_iff {u w t : Text} {i : Nat} :
    u ++ w <+: t.drop i ↔ u <+: t.drop i ∧ w <+: t.drop (i + u.length) := by
  constructor
  · rintro ⟨x, hx⟩
    rw [List.append_assoc] at hx
    refine ⟨⟨_, hx⟩, x, ?_⟩
    rw [← List.drop_drop, ← hx, List.drop_left]
  · rintro ⟨⟨x, hx⟩, h⟩
    rw [← List.drop_drop, ← hx, List.drop_left] at h
    rw [← hx]
    exact (List.prefix_append_right_inj u).2 h

namespace Track

/-- On a text, the track leads along the texts with a property. -/
structure Spells (t : Text) (a : Track) (P : Text → Prop) : Prop where
  leads_iff {i j : Nat} : i ≤ t.length → (a.Leads t.length i j ↔ ∃ v, P v ∧ v <+: t.drop i ∧ i + v.length = j)

namespace Spells

variable {t : Text} {a b : Track} {P Q : Text → Prop}

theorem congr (h : Spells t a P) (hPQ : ∀ v, P v ↔ Q v) : Spells t a Q := by
  refine ⟨fun {i j} hi => ?_⟩
  simp only [h.leads_iff hi, hPQ]

theorem stay : Spells t .stay (· = []) := by
  refine ⟨fun {i j} _ => ?_⟩
  simp [Leads, outcomes, eq_comm]

theorem le_length {v : Text} {i : Nat} (hi : i ≤ t.length) (h : v <+: t.drop i) : i + v.length ≤ t.length := by
  have := h.length_le
  rw [List.length_drop] at this
  omega

theorem seq (ha : Spells t a P) (hb : Spells t b Q) : Spells t (.seq a b) fun v => ∃ u w, P u ∧ Q w ∧ u ++ w = v := by
  refine ⟨fun {i j} hi => ?_⟩
  rw [leads_seq]
  constructor
  · rintro ⟨k, hk, hj⟩
    obtain ⟨u, hu, hpu, rfl⟩ := (ha.leads_iff hi).1 hk
    obtain ⟨w, hw, hpw, rfl⟩ := (hb.leads_iff (le_length hi hpu)).1 hj
    exact ⟨u ++ w, ⟨u, w, hu, hw, rfl⟩, append_prefix_drop_iff.2 ⟨hpu, hpw⟩, by rw [List.length_append, Nat.add_assoc]⟩
  · rintro ⟨_, ⟨u, w, hu, hw, rfl⟩, hp, rfl⟩
    obtain ⟨hpu, hpw⟩ := append_prefix_drop_iff.1 hp
    exact ⟨_, (ha.leads_iff hi).2 ⟨u, hu, hpu, rfl⟩,
      (hb.leads_iff (le_length hi hpu)).2 ⟨w, hw, hpw, by rw [List.length_append, Nat.add_assoc]⟩⟩

theorem either (ha : Spells t a P) (hb : Spells t b Q) : Spells t (.either a b) fun v => P v ∨ Q v := by
  refine ⟨fun {i j} hi => ?_⟩
  rw [leads_either, ha.leads_iff hi, hb.leads_iff hi]
  simp only [or_and_right, exists_or]

theorem optional (ha : Spells t a P) (greedy : Bool) : Spells t (.optional greedy a) fun v => v = [] ∨ P v := by
  cases greedy with
  | true => exact (ha.either stay).congr fun v => or_comm
  | false => exact stay.either ha

theorem power (ha : Spells t a P) : ∀ k, Spells t (a.power k) (Made P (· = k))
  | 0 => stay.congr fun v => Made.zero_iff.symm
  | k + 1 => by
    refine (ha.seq (ha.power k)).congr fun v => ?_
    simp only [← Made.one_iff (P := P), Made.append_iff]
    exact Made.congr fun n => by simp; omega

theorem atMost (ha : Spells t a P) (greedy : Bool) : ∀ k, Spells t (a.atMost greedy k) (Made P (· ≤ k))
  | 0 => stay.congr fun v => by rw [← Made.zero_iff (P := P)]; exact Made.congr fun n => by omega
  | k + 1 => by
    refine ((ha.seq (ha.atMost greedy k)).optional greedy).congr fun v => ?_
    simp only [← Made.one_iff (P := P), Made.append_iff]
    rw [← Made.zero_iff (P := P), Made.or_iff]
    refine Made.congr fun n => ?_
    constructor
    · rintro (rfl | ⟨i, j, rfl, hj, rfl⟩) <;> omega
    · intro hn
      rcases Nat.eq_zero_or_pos n with h | h
      · exact .inl h
      · exact .inr ⟨1, n - 1, rfl, by omega, by omega⟩

/-- Rounds that pass a character each make up the same texts as rounds of any kind: the empty ones can
be left out. -/
theorem leadsIn_iff (ha : Spells t a P) {i j : Nat} (hi : i ≤ t.length) :
    (∃ m, a.LeadsIn t.length m i j) ↔ ∃ v, Made P (fun _ => True) v ∧ v <+: t.drop i ∧ i + v.length = j := by
  constructor
  · rintro ⟨m, hm⟩
    induction m generalizing j with
    | zero => exact ⟨[], ⟨[], trivial, List.forall_mem_nil _, rfl⟩, List.nil_prefix, hm⟩
    | succ m ih =>
      obtain ⟨k, hk, -, hj⟩ := hm
      obtain ⟨_, ⟨ws, -, hws, rfl⟩, hp, rfl⟩ := ih hk
      obtain ⟨w, hw, hpw, rfl⟩ := (ha.leads_iff (le_length hi hp)).1 hj
      refine ⟨ws.flatten ++ w, ⟨ws ++ [w], trivial,
        List.forall_mem_append.2 ⟨hws, List.forall_mem_singleton.2 hw⟩, by simp⟩,
        append_prefix_drop_iff.2 ⟨hp, hpw⟩, by rw [List.length_append, Nat.add_assoc]⟩
  · rintro ⟨_, ⟨ws, -, hws, rfl⟩, hp, rfl⟩
    induction ws generalizing i with
    | nil => exact ⟨0, rfl⟩
    | cons w ws ih =>
      rw [List.flatten_cons, append_prefix_drop_iff] at hp
      obtain ⟨m, hm⟩ := ih (le_length hi hp.1) (fun u hu => hws u (List.mem_cons_of_mem w hu)) hp.2
      rw [List.flatten_cons, List.length_append, ← Nat.add_assoc]
      cases hw : w with
      | nil =>
        rw [hw] at hm
        exact ⟨m, hm⟩
      | cons c u =>
        refine ⟨m + 1, leadsIn_cons ?_ ((ha.leads_iff hi).2 ⟨w, hws w List.mem_cons_self, hp.1, rfl⟩) (hw ▸ hm)⟩
        rw [hw, List.length_cons]
        omega

theorem oneOrMore (ha : Spells t a P) (hf : a.Forward t.length) (greedy : Bool) :
    Spells t (.oneOrMore greedy a) (Made P (1 ≤ ·)) := by
  refine ⟨fun {i j} hi => ?_⟩
  have rounds : (a.oneOrMore greedy).Leads t.length i j ↔
      ∃ v, (∃ u w, P u ∧ Made P (fun _ => True) w ∧ u ++ w = v) ∧ v <+: t.drop i ∧ i + v.length = j := by
    rw [hf.leads_oneOrMore hi]
    constructor
    · rintro ⟨k, m, hk, hm⟩
      obtain ⟨u, hu, hpu, rfl⟩ := (ha.leads_iff hi).1 hk
      obtain ⟨w, hw, hpw, rfl⟩ := (ha.leadsIn_iff (le_length hi hpu)).1 ⟨m, hm⟩
      exact ⟨u ++ w, ⟨u, w, hu, hw, rfl⟩,
        append_prefix_drop_iff.2 ⟨hpu, hpw⟩, by rw [List.length_append, Nat.add_assoc]⟩
    · rintro ⟨_, ⟨u, w, hu, hw, rfl⟩, hp, rfl⟩
      obtain ⟨hpu, hpw⟩ := append_prefix_drop_iff.1 hp
      obtain ⟨m, hm⟩ := (ha.leadsIn_iff (le_length hi hpu)).2 ⟨w, hw, hpw, rfl⟩
      rw [List.length_append, ← Nat.add_assoc]
      exact ⟨_, m, (ha.leads_iff hi).2 ⟨u, hu, hpu, rfl⟩, hm⟩
  rw [rounds]
  refine exists_congr fun v => and_congr_left fun _ => ?_
  simp only [← Made.one_iff (P := P), Made.append_iff]
  exact Made.congr fun n => ⟨by rintro ⟨i, j, rfl, -, rfl⟩; omega, fun h => ⟨1, n - 1, rfl, trivial, by omega⟩⟩

/-- A repetition leads along what is made of as many texts as it counts rounds. -/
theorem times (ha : Spells t a P) (hf : a.Forward t.length) (greedy : Bool) (min : Nat) (max : Option Nat) :
    Spells t (a.times greedy min max) (Made P fun k => min ≤ k ∧ ∀ m ∈ max, k ≤ min ∨ k ≤ m) := by
  have atLeast : ∀ n, Spells t (.seq (a.power n) (a.oneOrMore greedy)) (Made P (n + 1 ≤ ·)) := by
    intro n
    refine ((ha.power n).seq (ha.oneOrMore hf greedy)).congr fun v => ?_
    rw [Made.append_iff]
    exact Made.congr fun k => ⟨by rintro ⟨i, j, rfl, hj, rfl⟩; omega, fun h => ⟨n, k - n, rfl, by omega, by omega⟩⟩
  cases max with
  | none =>
    cases min with
    | zero =>
      refine ((ha.oneOrMore hf greedy).optional greedy).congr fun v => ?_
      rw [← Made.zero_iff (P := P), Made.or_iff]
      exact Made.congr fun k => by simp; omega
    | succ n => exact (atLeast n).congr fun v => Made.congr fun k => by simp
  | some m =>
    have both : Spells t (.seq (a.power min) (a.atMost greedy (m - min)))
        (Made P fun k => min ≤ k ∧ (k ≤ min ∨ k ≤ m)) := by
      refine ((ha.power min).seq (ha.atMost greedy (m - min))).congr fun v => ?_
      rw [Made.append_iff]
      exact Made.congr fun k => ⟨by rintro ⟨i, j, rfl, hj, rfl⟩; omega, fun h =>
        ⟨min, k - min, rfl, by omega, by omega⟩⟩
    have hm : (a.times greedy min (some m)) = .seq (a.power min) (a.atMost greedy (m - min)) := by
      cases min <;> rfl
    rw [hm]
    exact both.congr fun v => Made.congr fun k => by simp

end Spells

end Track

namespace Regex

/-- The texts that an expression without assertions stands for. A repetition has at least one count,
even where the greatest one is below the least one. -/
def Matches : Regex → Text → Prop
  | empty, v => v = []
  | chars s, v => ∃ c, s c = true ∧ v = [c]
  | assert _, _ => False
  | concat r s, v => ∃ u w, r.Matches u ∧ s.Matches w ∧ u ++ w = v
  | alt r s, v => r.Matches v ∨ s.Matches v
  | times _ min max r, v => Made r.Matches (fun k => min ≤ k ∧ ∀ m ∈ max, k ≤ min ∨ k ≤ m) v
  | group _ r, v => r.Matches v

/-- An expression without assertions leads along the texts that it stands for. -/
theorem spells_locate (t : Text) : ∀ {r : Regex}, r.assertionFree = true → (r.locate t).Spells t r.Matches
  | .empty, _ => .stay
  | .chars s, _ => by
    refine ⟨fun {i j} hi => ?_⟩
    have hbit : (PositionSet.ofChars s t).testBit i = t[i]?.any s := PositionSet.testBit_ofChars s t i
    have hhead : t[i]? = (t.drop i).head? := by rw [List.head?_drop]
    simp only [locate, Track.Leads, Track.outcomes, hbit, hhead, Matches]
    cases ht : t.drop i with
    | nil =>
      constructor
      · rintro ⟨q, hq, -⟩
        simp at hq
      · rintro ⟨_, ⟨c, -, rfl⟩, hp, -⟩
        exact absurd (List.prefix_nil.1 hp) (List.cons_ne_nil _ _)
    | cons d u =>
      cases hd : s d with
      | false =>
        constructor
        · rintro ⟨q, hq, -⟩
          simp [hd] at hq
        · rintro ⟨_, ⟨c, hc, rfl⟩, hp, -⟩
          rw [(List.cons_prefix_cons.1 hp).1, hd] at hc
          cases hc
      | true =>
        constructor
        · rintro ⟨q, hq, rfl⟩
          simp only [List.head?_cons, Option.any_some, hd, if_true, List.mem_singleton] at hq
          subst hq
          exact ⟨[d], ⟨d, hd, rfl⟩, List.cons_prefix_cons.2 ⟨rfl, List.nil_prefix⟩, rfl⟩
        · rintro ⟨_, ⟨c, -, rfl⟩, -, rfl⟩
          simp [hd, Progress.advance]
  | .concat r s, h => by
    have h := Bool.and_eq_true_iff.1 h
    exact (spells_locate t h.1).seq (spells_locate t h.2)
  | .alt r s, h => by
    have h := Bool.and_eq_true_iff.1 h
    exact (spells_locate t h.1).either (spells_locate t h.2)
  | .times greedy min max r, h => (spells_locate t (r := r) h).times (within_locate t r).forward greedy min max
  | .group i r, h => ⟨fun hi => Track.leads_span.trans ((spells_locate t (r := r) h).leads_iff hi)⟩

/-- The ways of an expression without assertions go along the texts that it stands for. -/
theorem exists_way_iff {r : Regex} (h : r.assertionFree = true) {t : Text} {p : Progress} {j : Nat}
    (hp : p.pos ≤ t.length) :
    (∃ q ∈ r.ways t p, q.pos = j) ↔ ∃ v, r.Matches v ∧ v <+: p.rest t ∧ p.pos + v.length = j :=
  Track.leads_iff.symm.trans ((spells_locate t h).leads_iff hp)

/-- The expression, asked to match a whole text. -/
def anchored (r : Regex) : Regex :=
  concatAll [.assert .textStart, r, .assert .textEnd]

/-- An expression without assertions matches as a whole the texts that it stands for. -/
theorem isMatch_anchored_iff {r : Regex} (h : r.assertionFree = true) {t : Text} :
    r.anchored.isMatch t = true ↔ r.Matches t := by
  have whole : (∃ q, q ∈ ways (concatAll [r, .assert .textEnd]) t ⟨0, []⟩) ↔ ∃ q ∈ r.ways t ⟨0, []⟩,
      q.pos = t.length := by
    rw [concatAll, ways_concat]
    simp only [List.mem_flatMap, ways_concatAll_singleton]
    constructor
    · rintro ⟨q, p, hp, hq⟩
      have hle : p.pos ≤ t.length := ((within_locate t r).forward (Nat.zero_le _) hp).2
      rw [ways_textEnd hle] at hq
      split at hq
      · rename_i hrest
        exact ⟨p, hp, Nat.le_antisymm hle (List.drop_eq_nil_iff.1 hrest)⟩
      · cases hq
    · rintro ⟨p, hp, hpos⟩
      have hrest : p.rest t = [] := List.drop_eq_nil_iff.2 (Nat.le_of_eq hpos.symm)
      refine ⟨p, p, hp, ?_⟩
      rw [ways_textEnd (Nat.le_of_eq hpos), if_pos hrest]
      exact List.mem_singleton_self p
  rw [anchored, concatAll, isMatch_textStart_iff, whole, exists_way_iff h (Nat.zero_le _)]
  constructor
  · rintro ⟨v, hv, hp, hlen⟩
    have hvt : v = t := List.IsPrefix.eq_of_length hp ((Nat.zero_add _).symm.trans hlen)
    exact hvt ▸ hv
  · exact fun ht => ⟨t, ht, List.prefix_rfl, Nat.zero_add _⟩

end Regex

end PathRouter
