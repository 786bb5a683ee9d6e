/-
Each key of a template owns one counted group. Text that was turned uncounted is read next to its own
reading (`Reader.Beside`), and adds no group to what is around it, wherever it stands. So the groups of
a route are those that its segments open, in order, and its last one if it is loose (`compile_groups`).
-/
import PathRouter.Proofs.Template.Plain
import PathRouter.Proofs.Template.Uncounted
import PathRouter.Route
import Mathlib.Data.List.Forall2

namespace PathRouter

namespace Regex

/-! ## The groups of an expression -/

/-- What the groups of an expression hold, with their numbers, in the order in which they open. -/
def groupList : Regex → List (Regex × Nat)
  | empty | chars _ | assert _ => []
  | concat r s | alt r s => r.groupList ++ s.groupList
  | times _ _ _ r => r.groupList
  | group i r => (r, i) :: r.groupList

/-- The groups of pieces, the newest piece first. -/
def groupsOf (ps : List Piece) : List (Regex × Nat) :=
  ps.reverse.flatMap (·.regex.groupList)

@[simp] theorem groupsOf_nil : groupsOf [] = [] := rfl

@[simp] theorem groupsOf_append (ps qs : List Piece) : groupsOf (ps ++ qs) = groupsOf qs ++ groupsOf ps := by
  simp [groupsOf]

@[simp] theorem groupsOf_cons (p : Piece) (ps : List Piece) :
    groupsOf (p :: ps) = groupsOf ps ++ p.regex.groupList := by
  simp [groupsOf]

theorem groupList_concatAll (rs : List Regex) : (concatAll rs).groupList = rs.flatMap groupList := by
  induction rs with
  | nil => rfl
  | cons r rs ih => rw [concatAll, groupList, ih, List.flatMap_cons]

theorem groupList_altAll (r : Regex) (rs : List Regex) : (altAll r rs).groupList = (r :: rs).flatMap groupList := by
  induction rs generalizing r with
  | nil => simp [altAll]
  | cons s rs ih => simp only [altAll, groupList, ih, List.flatMap_cons]

theorem groupList_concat (ps : List Piece) : (Piece.concat ps).regex.groupList = groupsOf ps := by
  rw [Reader.regex_concat, groupList_concatAll, List.flatMap_map]
  rfl

theorem groupList_alternatives (p : Piece) (bs : List Piece) :
    (p.alternatives bs).regex.groupList = groupsOf bs ++ p.regex.groupList := by
  cases bs with
  | nil => rfl
  | cons b bs =>
    have all : (p :: b :: bs).reverse ≠ [] := by simp
    obtain ⟨q, qs, hq⟩ := List.exists_cons_of_ne_nil all
    rw [Piece.alternatives]
    · simp only [hq, List.headD_cons, List.tail_cons]
      rw [groupList_altAll, ← groupsOf_cons, groupsOf, hq, List.flatMap_cons, List.flatMap_cons, List.flatMap_map]
    · exact fun h => by cases h

theorem groupList_body (b : Reader) : b.body.regex.groupList = groupsOf b.branches ++ groupsOf b.pieces := by
  rw [Reader.body, groupList_alternatives, groupList_concat]

theorem groupList_repetition (greedy : Bool) (min : Nat) {max : Option Nat} (h : max ≠ some 0) (r : Regex) :
    (repetition greedy min max r).groupList = r.groupList := by
  unfold repetition
  rw [if_neg h]
  split <;> rfl

theorem groupList_repetition_nil (greedy : Bool) (min : Nat) (max : Option Nat) {r : Regex} (h : r.groupList = []) :
    (repetition greedy min max r).groupList = [] := by
  by_cases hmax : max = some 0
  · rw [repetition, if_pos hmax]
    rfl
  · rw [groupList_repetition greedy min hmax, h]

theorem Piece.Single.groupList {p : Piece} (h : p.Single) : p.regex.groupList = [] := by
  obtain ⟨-, ⟨s, hs⟩ | ⟨a, ha⟩⟩ := h
  · rw [hs]
    rfl
  · rw [ha]
    rfl

/-! ## Two readers side by side -/

namespace Reader

/-- Of pieces, the newest ones stand beside pieces of another reader and have no groups, and what is
behind them, with the branches, has the groups `gs`. -/
def Level (gs : List (Regex × Nat)) (ps bs' ps' : List Piece) : Prop :=
  ∃ new old, ps' = new ++ old ∧ new.length = ps.length ∧ groupsOf new = [] ∧ groupsOf bs' ++ groupsOf old = gs

/-- The levels of a reader beside those of another one: the open groups are not counted and have no
groups in them, and around them are the groups `gs`. -/
inductive Levels (gs : List (Regex × Nat)) :
    List Piece → List OpenGroup → List Piece → List Piece → List OpenGroup → Prop
  | base {ps bs' ps' : List Piece} : Level gs ps bs' ps' → Levels gs ps [] bs' ps' []
  | inner {ps bs' ps' : List Piece} {g h : OpenGroup} {outer outer' : List OpenGroup} :
      Level [] ps bs' ps' → h.index = none → g.flags.verbose = h.flags.verbose →
      Levels gs g.pieces outer h.branches h.pieces outer' → Levels gs ps (g :: outer) bs' ps' (h :: outer')

namespace Levels

variable {gs : List (Regex × Nat)} {p q : Piece} {ps bs' ps' : List Piece} {outer outer' : List OpenGroup}

theorem add (h : Levels gs ps outer bs' ps' outer') (p : Piece) (hq : q.regex.groupList = []) :
    Levels gs (p :: ps) outer bs' (q :: ps') outer' := by
  have level : ∀ {gs}, Level gs ps bs' ps' → Level gs (p :: ps) bs' (q :: ps') := by
    rintro gs ⟨new, old, rfl, hlen, hnew, hold⟩
    exact ⟨q :: new, old, rfl, congrArg (· + 1) hlen, by rw [groupsOf_cons, hnew, hq]; rfl, hold⟩
  cases h with
  | base h => exact .base (level h)
  | inner h hi hv ho => exact .inner (level h) hi hv ho

theorem latest (h : Levels gs (p :: ps) outer bs' (q :: ps') outer') :
    q.regex.groupList = [] ∧ Levels gs ps outer bs' ps' outer' := by
  have level : ∀ {gs}, Level gs (p :: ps) bs' (q :: ps') → q.regex.groupList = [] ∧ Level gs ps bs' ps' := by
    rintro gs ⟨new, old, heq, hlen, hnew, hold⟩
    match new with
    | r :: new =>
      cases heq
      rw [groupsOf_cons, List.append_eq_nil_iff] at hnew
      exact ⟨hnew.2, new, old, rfl, Nat.succ.inj hlen, hnew.1, hold⟩
  cases h with
  | base h => exact ⟨(level h).1, .base (level h).2⟩
  | inner h hi hv ho => exact ⟨(level h).1, .inner (level h).2 hi hv ho⟩

theorem alternate (h : Levels gs ps outer bs' ps' outer') : Levels gs [] outer (Piece.concat ps' :: bs') [] outer' := by
  have level : ∀ {gs}, Level gs ps bs' ps' → Level gs [] (Piece.concat ps' :: bs') [] := by
    rintro gs ⟨new, old, rfl, -, hnew, hold⟩
    refine ⟨[], [], rfl, rfl, rfl, ?_⟩
    rw [groupsOf_cons, groupList_concat, groupsOf_append, hnew, ← hold]
    simp
  cases h with
  | base h => exact .base (level h)
  | inner h hi hv ho => exact .inner (level h) hi hv ho

theorem outer_eq_nil (h : Levels gs ps outer bs' ps' outer') (ho : outer' = []) : outer = [] := by
  cases h with
  | base => rfl
  | inner => cases ho

theorem groups (h : Levels gs ps [] bs' ps' outer') : outer' = [] ∧ groupsOf bs' ++ groupsOf ps' = gs := by
  cases h with
  | base h =>
    obtain ⟨new, old, rfl, -, hnew, hold⟩ := h
    exact ⟨rfl, by rw [groupsOf_append, hnew, List.append_nil, hold]⟩

end Levels

/-- A reader beside another one: it has read the same tokens, perhaps under other modes, on top of `n`
groups with their names and of the groups `gs` around, and has not added to them. -/
structure Beside (gs : List (Regex × Nat)) (n : Nat) (names : List (Nat × Text)) (b d : Reader) : Prop where
  verbose : b.flags.verbose = d.flags.verbose
  groups : d.groups = n
  names : d.names = names
  levels : Levels gs b.pieces b.outer d.branches d.pieces d.outer

namespace Beside

variable {gs : List (Regex × Nat)} {n : Nat} {names : List (Nat × Text)} {b b' d d' : Reader}

theorem add (h : Beside gs n names b d) (p : Piece) {q : Piece} (hq : q.regex.groupList = []) :
    Beside gs n names (b.add p) (d.add q) :=
  ⟨h.verbose, h.groups, h.names, h.levels.add p hq⟩

/-- A token that opens no counted group keeps the readers side by side. -/
theorem act {a a' : Action} (h : Beside gs n names b d) (hl : a.Like a') (hc : Template.counts a = false)
    (hb : b.act a = .ok b') (hd : d.act a' = .ok d') : Beside gs n names b' d' := by
  cases a <;> cases a' <;> try contradiction
  case openModes.openModes f g =>
    cases hb
    cases hd
    exact ⟨hl, h.groups, h.names, .inner ⟨[], [], rfl, rfl, rfl, rfl⟩ rfl h.verbose h.levels⟩
  case setModes.setModes f g =>
    cases hb
    cases hd
    exact ⟨hl, h.groups, h.names, h.levels.add _ rfl⟩
  case close.close =>
    obtain ⟨bf, bn, bnames, bps, bbs, bo⟩ := b
    obtain ⟨df, dn, dnames, dps, dbs, do'⟩ := d
    obtain ⟨-, hgroups, hnames, hlevels⟩ := h
    cases hlevels with
    | base => cases hb
    | @inner _ _ _ g k outer outer' hl hi hv ho =>
      obtain ⟨i, kf, kps, kbs⟩ := k
      cases hi
      cases hb
      cases hd
      refine ⟨hv, hgroups, hnames, ho.add _ ?_⟩
      obtain ⟨new, old, rfl, -, hnew, hold⟩ := hl
      rw [groupList_body, groupsOf_append, hnew, List.append_nil, hold]
  case alternate.alternate =>
    cases hb
    cases hd
    exact ⟨h.verbose, h.groups, h.names, h.levels.alternate⟩
  case add.add p q =>
    cases hb
    cases hd
    exact h.add p hl.2.groupList
  case again.again greedy min max greedy' min' max' =>
    obtain ⟨bf, bn, bnames, bps, bbs, bo⟩ := b
    obtain ⟨df, dn, dnames, dps, dbs, do'⟩ := d
    obtain ⟨hverbose, hgroups, hnames, hlevels⟩ := h
    simp only [Reader.act, repeatLatest] at hb hd
    split at hb
    · cases hb
    · split at hd
      · cases hd
      · split at hb
        · cases hb
        · split at hd
          · cases hd
          · cases hb
            cases hd
            exact ⟨hverbose, hgroups, hnames, hlevels.latest.2.add _ (groupList_repetition_nil _ _ _ hlevels.latest.1)⟩

end Beside

/-- Rewritten text that is read on its own is read in the same steps where it stands among other text,
by a reader with any modes, and leaves the reader beside the other one. -/
theorem Reads.beside {gs : List (Regex × Nat)} {n : Nat} {names : List (Nat × Text)} {v : Text} {e : Reader}
    (fs : List OpenGroup) (hv : Ends v) {b b' : Reader} {t w : Text} (h : Reads b t b' w) :
    w = [] → ∀ {d : Reader}, Beside gs n names b d → Template.uncounted t = t → Finishes (d.under fs) (t ++ v) e →
      ∃ d', Reads d t d' [] ∧ Beside gs n names b' d' ∧ Finishes (d'.under fs) v e := by
  induction h with
  | done =>
    rintro rfl d hd - he
    exact ⟨d, .done, hd, he⟩
  | @step b b₁ b₂ c t u w a hb ht ha hr ih =>
    rintro rfl d hd hfix he
    have hdv : d.flags.verbose = false := hd.verbose ▸ hb
    obtain ⟨m, rfl, hs, hw⟩ := token_local hb ht
    obtain ⟨hcounts, hu⟩ := Template.uncounted_fixed hs hfix
    -- The token ends in the same place among other text and under other modes, and does alike.
    have htv : token b.flags c (m ++ (u ++ v)) = .ok (a, u ++ v) := hw _ (follows_append hv u)
    rw [List.cons_append, List.append_assoc] at he
    obtain ⟨a', u', c', ht', ha', hend⟩ := Finishes.token (b := d.under fs) hdv he
    obtain ⟨rfl, hlike⟩ := token_rest hb hdv htv ht'
    obtain ⟨m', hm', -, hw'⟩ := token_local hdv ht'
    obtain rfl : m = m' := List.append_cancel_right hm'
    have hopen : a' = .close → d.outer ≠ [] := by
      rintro rfl
      have hclose : a = .close := by cases a <;> first | rfl | exact absurd hlike id
      exact mt hd.levels.outer_eq_nil (outer_ne_nil_of_act ha hclose)
    rw [act_under fs hopen] at ha'
    obtain ⟨d₁, hd₁, rfl⟩ : ∃ d₁, d.act a' = .ok d₁ ∧ c' = d₁.under fs := by
      cases hact : d.act a' with
      | error => rw [hact] at ha'; cases ha'
      | ok d₁ => rw [hact] at ha'; exact ⟨d₁, rfl, (Except.ok.inj ha').symm⟩
    obtain ⟨d', hreads, hbeside, hfin⟩ := ih rfl (hd.act hlike hcounts ha hd₁) hu hend
    exact ⟨d', .step hdv (hw' _ (append_follows hv hr)) hd₁ hreads, hbeside, hfin⟩

/-! ## What text adds to the groups -/

/-- The expression is what a text is read as on its own, under some modes and behind some groups. -/
def ReadAs (t : Text) (r : Regex) : Prop :=
  ∃ f n b, Reads ⟨f, n, [], [], [], []⟩ t b [] ∧ b.outer = [] ∧ b.body.regex = r

/-- The text can be read on its own. -/
def Stands (t : Text) : Prop :=
  ∃ anyCase b, Reads (.start anyCase) t b [] ∧ b.outer = [] ∧ b.flags.verbose = false

/-- The groups read in the current group. -/
def groupsHere (b : Reader) : List (Regex × Nat) :=
  groupsOf b.branches ++ groupsOf b.pieces

/-- From one reader to another one, a group was opened and closed for each of the texts. -/
structure Gains (b b' : Reader) (ts : List Text) : Prop where
  verbose : b'.flags.verbose = false
  names : b'.names = []
  outer : b'.outer = b.outer
  groups : b'.groups = b.groups + ts.length
  bodies : ∃ rs, List.Forall₂ ReadAs ts rs ∧ b'.groupsHere = b.groupsHere ++ rs.zipIdx (b.groups + 1)

/-- In front of `v`, the text is read as a group for each of the texts, whatever stands before it. -/
def Yields (t : Text) (ts : List Text) (v : Text) : Prop :=
  ∀ b e : Reader, b.flags.verbose = false → b.names = [] → Finishes b (t ++ v) e →
    ∃ b', Gains b b' ts ∧ Finishes b' v e

theorem Gains.refl {b : Reader} (hv : b.flags.verbose = false) (hn : b.names = []) : Gains b b [] :=
  ⟨hv, hn, rfl, rfl, [], .nil, (List.append_nil _).symm⟩

theorem Gains.trans {b b' b'' : Reader} {ts us : List Text} (h : Gains b b' ts) (k : Gains b' b'' us) :
    Gains b b'' (ts ++ us) := by
  obtain ⟨rs, hrs, hb⟩ := h.bodies
  obtain ⟨ss, hss, kb⟩ := k.bodies
  refine ⟨k.verbose, k.names, k.outer.trans h.outer, ?_, rs ++ ss, List.rel_append hrs hss, ?_⟩
  · rw [k.groups, h.groups, List.length_append, Nat.add_assoc]
  · rw [kb, hb, h.groups, hrs.length_eq, List.zipIdx_append, List.append_assoc, Nat.add_right_comm]

/-- A piece without groups adds none. -/
theorem Gains.add {b : Reader} {p : Piece} (hv : b.flags.verbose = false) (hn : b.names = [])
    (hp : p.regex.groupList = []) :
    Gains b (b.add p) [] :=
  ⟨hv, hn, rfl, rfl, [], .nil, by simp [groupsHere, Reader.add, hp]⟩

namespace Yields

variable {t u v : Text} {ts us : List Text}

theorem nil (v : Text) : Yields [] [] v :=
  fun b _ hv hn he => ⟨b, .refl hv hn, he⟩

theorem append (h : Yields t ts (u ++ v)) (k : Yields u us v) : Yields (t ++ u) (ts ++ us) v := by
  intro b e hv hn he
  rw [List.append_assoc] at he
  obtain ⟨b', hb', he'⟩ := h b e hv hn he
  obtain ⟨b'', hb'', he''⟩ := k b' e hb'.verbose hb'.names he'
  exact ⟨b'', hb'.trans hb'', he''⟩

/-- A token that adds a piece without groups. -/
theorem token {c : Char} {m : Text}
    (h : ∀ f, ∃ p, p.regex.groupList = [] ∧ Regex.token f c (m ++ v) = .ok (.add p, v)) :
    Yields (c :: m) [] v := by
  intro b e hv hn he
  obtain ⟨p, hp, ht⟩ := h b.flags
  obtain ⟨a, u, b', ht', ha, hend⟩ := Finishes.token hv he
  cases ht.symm.trans ht'
  cases ha
  exact ⟨_, .add hv hn hp, hend⟩

theorem plain : ∀ {t : Text}, PlainText t → Yields t [] v
  | [], _ => nil v
  | c :: t, h => by
    have first : Yields [c] [] (t ++ v) := token fun f => ⟨_, rfl, token_char (h c List.mem_cons_self) _⟩
    exact first.append (plain fun d hd => h d (List.mem_cons_of_mem c hd))

/-- Rewritten text outside the group of a key. -/
theorem rewritten (hv : Ends v) (ht : Stands t) (hfix : Template.uncounted t = t) : Yields t [] v := by
  intro b e hb hn he
  obtain ⟨anyCase, s, hs, ho, hsv⟩ := ht
  have start : Beside b.groupsHere b.groups b.names (.start anyCase) { b with outer := [] } :=
    ⟨hb.symm, rfl, rfl, .base ⟨[], b.pieces, rfl, rfl, rfl, rfl⟩⟩
  obtain ⟨d, -, hd, hend⟩ := hs.beside b.outer hv rfl start hfix he
  have hlevels := hd.levels
  rw [ho] at hlevels
  obtain ⟨houter, hgroups⟩ := hlevels.groups
  refine ⟨d.under b.outer, ⟨hd.verbose.symm.trans hsv, hd.names.trans hn, ?_, hd.groups, [], .nil, ?_⟩, hend⟩
  · rw [under, houter, List.nil_append]
  · exact hgroups.trans (List.append_nil _).symm

/-- The group of a key, around rewritten text. -/
theorem group (ht : Stands t) (hfix : Template.uncounted t = t) : Yields ('(' :: t ++ [')']) [t] v := by
  intro b e hb hn he
  obtain ⟨anyCase, s, hs, ho, hsv⟩ := ht
  have hq : (t ++ (')' :: v)).head? ≠ some '?' := hs.head?_append_ne fun h => by cases h
  rw [List.append_assoc, List.cons_append, List.singleton_append] at he
  obtain ⟨a, u, b', ht, ha, hend⟩ := Finishes.token hb he
  have hopen : Regex.token b.flags '(' (t ++ ')' :: v) = .ok (.openCounted, t ++ ')' :: v) := by
    show groupToken b.flags _ = _
    rw [groupToken, opening_counted hq]
  cases hopen.symm.trans ht
  cases ha
  have start : Beside [] (b.groups + 1) b.names (.start anyCase) ⟨b.flags, b.groups + 1, b.names, [], [], []⟩ :=
    ⟨hb.symm, rfl, rfl, .base ⟨[], [], rfl, rfl, rfl, rfl⟩⟩
  obtain ⟨d, hreads, hd, hend⟩ := hs.beside (⟨some (b.groups + 1), b.flags, b.pieces, b.branches⟩ :: b.outer)
    (v := ')' :: v) ⟨fun h => (by cases h), fun h => (by cases h)⟩ rfl start hfix hend
  have hlevels := hd.levels
  rw [ho] at hlevels
  obtain ⟨houter, hgroups⟩ := hlevels.groups
  obtain ⟨a, u, b', ht, ha, hend⟩ := Finishes.token (b := d.under _) (hd.verbose.symm.trans hsv) hend
  cases ht
  simp only [act, closeGroup, under, houter, List.nil_append] at ha
  cases ha
  refine ⟨_, ?_, hend⟩
  refine ⟨hb, hd.names.trans hn, rfl, hd.groups, [d.body.regex], .cons ?_ .nil, ?_⟩
  · rw [hn] at hreads
    exact ⟨_, _, d, hreads, houter, rfl⟩
  · have hbody : d.body.regex.groupList = [] := (groupList_body d).trans hgroups
    simp only [groupsHere, groupsOf_cons, groupList, List.zipIdx_cons, List.zipIdx_nil, List.append_assoc]
    exact congrArg (fun l => _ ++ (_ ++ (d.body.regex, b.groups + 1) :: l)) hbody

/-- A question mark behind a group. -/
theorem question (hq : v.head? ≠ some '?') : Yields ['?'] [] v := by
  intro b e hv hn he
  obtain ⟨a, u, b', ht, ha, hend⟩ := Finishes.token hv he
  have ht' : Regex.token b.flags '?' ([] ++ v) = .ok (.again true 0 (some 1), v) := by
    show Except.ok (againToken 0 (some 1) v) = _
    rw [againToken, readLazy_greedy hq]
    rfl
  cases ht'.symm.trans ht
  obtain ⟨f, n, names, ps, bs, outer⟩ := b
  cases ps with
  | nil => cases ha
  | cons p ps =>
    simp only [act, repeatLatest] at ha
    split at ha
    · cases ha
    · cases ha
      refine ⟨_, ?_, hend⟩
      refine ⟨hv, hn, rfl, rfl, [], .nil, ?_⟩
      simp only [groupsHere, groupsOf_cons, groupList_repetition _ _ (show some 1 ≠ some 0 by decide), List.zipIdx_nil,
        List.append_nil]

/-- An uncounted group. -/
theorem wrap (h : Yields t ts (')' :: v)) : Yields ("(?:".toList ++ t ++ [')']) ts v := by
  intro b e hv hn he
  have he : Finishes b ('(' :: '?' :: ':' :: (t ++ ')' :: v)) e := by simpa using he
  obtain ⟨a, u, b', ht, ha, hend⟩ := Finishes.token hv he
  cases ht
  cases ha
  obtain ⟨b'', hb'', hend⟩ := h (b.openGroup none b.flags) e hv hn hend
  obtain ⟨a, u, b', ht, ha, hend⟩ := Finishes.token hb''.verbose hend
  cases ht
  simp only [act, closeGroup, hb''.outer, openGroup] at ha
  cases ha
  obtain ⟨rs, hrs, hbodies⟩ := hb''.bodies
  refine ⟨_, ?_, hend⟩
  refine ⟨hv, hb''.names, rfl, hb''.groups, rs, hrs, ?_⟩
  have hbody : b''.body.regex.groupList = rs.zipIdx (b.groups + 1) := (groupList_body b'').trans hbodies
  simp only [groupsHere, groupsOf_cons, hbody, List.append_assoc]

end Yields

theorem Accepted.stands {anyCase : Bool} {t : Text} (h : Accepted anyCase t) : Stands t := by
  obtain ⟨b, hb, ho, hv⟩ := h.reads
  exact ⟨anyCase, b, hb, ho, hv⟩

theorem stands_anySegment : Stands Template.anySegment :=
  ⟨true, _, .step rfl rfl rfl (.step rfl rfl rfl .done), rfl, rfl⟩

theorem stands_anything : Stands ".*".toList :=
  ⟨true, _, .step rfl rfl rfl (.step rfl rfl rfl .done), rfl, rfl⟩

theorem stands_looseEnd : Stands "/|$".toList :=
  ⟨true, _, .step rfl rfl rfl (.step rfl rfl rfl (.step rfl rfl rfl .done)), rfl, rfl⟩

end Reader

/-! ## Numbers of groups -/

theorem groupCount_le_iff {r : Regex} {n : Nat} : r.groupCount ≤ n ↔ ∀ g ∈ r.groupList, g.2 ≤ n := by
  induction r with
  | empty | chars | assert => simp [groupCount, groupList]
  | concat r s ihr ihs | alt r s ihr ihs =>
    rw [groupCount, Nat.max_le, ihr, ihs, groupList, List.forall_mem_append]
  | times _ _ _ r ih => exact ih
  | group i r ih => rw [groupCount, Nat.max_le, ih, groupList, List.forall_mem_cons]

/-- Groups that are numbered in order are as many as the greatest number tells. -/
theorem groupCount_of_groupList {r : Regex} {rs : List Regex} (h : r.groupList = rs.zipIdx 1) :
    r.groupCount = rs.length := by
  refine eq_of_forall_ge_iff fun n => ?_
  rw [groupCount_le_iff, h, ← List.forall_mem_map (P := (· ≤ n)), List.zipIdx_map_snd]
  constructor
  · intro hall
    cases hl : rs.length with
    | zero => exact Nat.zero_le n
    | succ k => exact hall (k + 1) (by rw [List.mem_range'_1]; omega)
  · intro hn i hi
    rw [List.mem_range'_1] at hi
    omega

end Regex

open Regex Regex.Reader

/-! ## The groups of a template -/

/-- The texts of a segment that count as patterns stay patterns of their own when they are rewritten,
and literal text is no pattern. -/
def Segment.Sound : Segment → Prop
  | empty | wildcard _ => True
  | literal text => PlainText text
  | param p => (∀ m ∈ p.matcher, ∃ anyCase, Accepted anyCase (Template.uncounted m)) ∧
      ∀ s ∈ p.suffix, ∃ anyCase, Accepted anyCase (Template.uncounted s.tail)

/-- Texts that are patterns of their own stay so, if the rewriting leaves their classes in place. -/
theorem Segment.sound_param {p : Param}
    (hm : ∀ m ∈ p.matcher, ∃ anyCase, Accepted anyCase m ∧ KeepsClasses (.start anyCase) m)
    (hs : ∀ s ∈ p.suffix, ∃ anyCase, Accepted anyCase s.tail ∧ KeepsClasses (.start anyCase) s.tail) :
      (param p).Sound := by
  refine ⟨fun m h => ?_, fun s h => ?_⟩
  · obtain ⟨anyCase, ha, hk⟩ := hm m h
    exact ⟨anyCase, ha.uncounted hk⟩
  · obtain ⟨anyCase, ha, hk⟩ := hs s h
    exact ⟨anyCase, ha.uncounted hk⟩

/-- What stands in the group of a segment with a key. -/
def Segment.groupTexts : Segment → List Text
  | empty | literal _ => []
  | param p => [(p.matcher.map Template.uncounted).getD Template.anySegment]
  | wildcard _ => [".*".toList]

/-- What stands in the group of an ending. -/
def Template.Mode.groupTexts : Mode → List Text
  | .strict => []
  | .loose => ["/|$".toList]

theorem Segment.length_groupTexts (s : Segment) : s.groupTexts.length = s.keys.length := by
  cases s <;> rfl

theorem Segment.yields_wildcard (o : Bool) {v : Text} (hv : v.head? ≠ some '?') :
    Yields (wildcard o).source (wildcard o).groupTexts v := by
  have slashed : ∀ v, Yields "/(.*)".toList [".*".toList] v := fun v =>
    (Yields.plain (t := ['/']) (by decide)).append (Yields.group stands_anything (by decide))
  cases o with
  | false => exact slashed v
  | true => exact (slashed (')' :: ('?' :: v))).wrap.append (Yields.question hv)

theorem Segment.yields_param {p : Param} (hp : (param p).Sound) {v : Text} (hv : Ends v) :
    Yields (param p).source (param p).groupTexts v := by
  obtain ⟨name, optional, matcher, suffix⟩ := p
  obtain ⟨hmatcher, hsuffix⟩ := hp
  have hsub : Stands ((matcher.map Template.uncounted).getD Template.anySegment) ∧
      Template.uncounted ((matcher.map Template.uncounted).getD Template.anySegment) =
        (matcher.map Template.uncounted).getD Template.anySegment := by
    cases matcher with
    | none => exact ⟨stands_anySegment, by decide⟩
    | some m =>
      obtain ⟨anyCase, hm⟩ := hmatcher m rfl
      exact ⟨hm.stands, Template.uncounted_uncounted m⟩
  rw [source_param, Param.source, groupTexts]
  generalize (matcher.map Template.uncounted).getD Template.anySegment = sub at hsub ⊢
  have slashed : ∀ v, Yields ("/(".toList ++ sub ++ [')']) [sub] v := fun v =>
    (Yields.plain (t := ['/']) (by decide)).append (Yields.group hsub.1 hsub.2)
  cases suffix with
  | none =>
    cases optional with
    | false => exact slashed v
    | true =>
      have h := (slashed (')' :: ('?' :: v))).wrap.append (Yields.question hv.1)
      simpa using h
  | some s =>
    obtain ⟨anyCase, hs⟩ := hsuffix s rfl
    have tail : Yields ("\\.".toList ++ Template.uncounted s.tail) [] v :=
      (Yields.token (m := ['.']) fun f => ⟨_, rfl, rfl⟩).append
        (Yields.rewritten hv hs.stands (Template.uncounted_uncounted s.tail))
    cases optional with
    | false =>
      have h := (slashed ("\\.".toList ++ Template.uncounted s.tail ++ v)).append tail
      simpa using h
    | true =>
      have h := (slashed ('?' :: ("\\.".toList ++ Template.uncounted s.tail ++ v))).append
        ((Yields.question fun h => (by cases h)).append tail)
      simpa using h

namespace Template

theorem yields_segment {s : Segment} (hs : s.Sound) {v : Text} (hv : Ends v) : Yields s.source s.groupTexts v := by
  cases s with
  | empty => exact .nil v
  | literal text => exact .plain (t := '/' :: text) (List.forall_mem_cons.2 ⟨by decide, hs⟩)
  | wildcard o => exact Segment.yields_wildcard o hv.1
  | param p => exact Segment.yields_param hs hv

theorem yields_segments {v : Text} (hv : Ends v) : ∀ {ss : List Segment}, (∀ s ∈ ss, s.Sound) →
    Yields (ss.flatMap Segment.source) (ss.flatMap Segment.groupTexts) v
  | [], _ => .nil v
  | s :: ss, h => by
    have hends : Ends (ss.flatMap Segment.source ++ v) :=
      ⟨head?_sources_append (by decide) (by decide) hv.1 ss, head?_sources_append (by decide) (by decide) hv.2 ss⟩
    rw [List.flatMap_cons, List.flatMap_cons]
    exact (yields_segment (h s List.mem_cons_self) hends).append
      (yields_segments hv fun s' hs' => h s' (List.mem_cons_of_mem s hs'))

theorem yields_ending (mode : Mode) : Yields mode.ending mode.groupTexts [] := by
  cases mode with
  | strict =>
    have slash : Yields ['/'] [] "?$".toList := .plain (by decide)
    have dollar : Yields ['$'] [] [] := .token (m := []) fun f => ⟨_, rfl, rfl⟩
    exact slash.append ((Yields.question fun h => (by cases h)).append dollar)
  | loose => exact Yields.group stands_looseEnd (by decide)

/-- Reading a template whose texts stay patterns opens one group for each key, and the one of its
ending. -/
theorem yields_source {T : Text} (hT : ∀ s ∈ segments T, s.Sound) (mode : Mode) :
    Yields (source T mode) ((segments T).flatMap Segment.groupTexts ++ mode.groupTexts) [] := by
  have caret : ∀ v, Yields ['^'] [] v := fun v => .token (m := []) fun f => ⟨_, rfl, rfl⟩
  have hends : Ends (mode.ending ++ []) := by cases mode <;> exact ⟨fun h => (by cases h), fun h => (by cases h)⟩
  exact (caret _).append ((yields_segments hends hT).append (yields_ending mode))

/-- The texts of groups paired with keys are those of the groups with the numbers of the keys. -/
theorem ofKeys_entries (names : List Text) {c : Captures} (h : c.count = names.length) :
    (Params.ofKeys names c).entries = (names.zipIdx 1).filterMap fun k =>
      Params.entry? k.1 (c.found.text? c.path k.2) := by
  have groups : c.groups = (List.range' 1 names.length).map (c.found.text? c.path) := by
    rw [Captures.groups, h, List.range'_eq_map_range, List.map_map]
    refine List.map_congr_left fun i hi => ?_
    have := List.mem_range.1 hi
    rw [Captures.get?, h, if_neg (by simp; omega), Function.comp_apply, Nat.add_comm]
  rw [Params.ofKeys, groups, List.zipIdx_eq_zip_range', List.zip_map_right, List.filterMap_map]
  rfl

/-- Each key owns exactly one group, provided that the texts which are rewritten stay patterns of their
own: the groups of a route hold what its segments put in them, in order and with the numbers of the
keys, and each key is paired with the text of its group. A loose route has one more group, which is
not counted. -/
theorem compile_groups {T : Text} {mode : Mode} {r : Route} (hT : ∀ s ∈ segments T, s.Sound)
    (hr : Route.compile T mode = .ok r) :
    r.pattern.groupCount = (keys T).length ∧
    (∃ rs, List.Forall₂ ReadAs ((segments T).flatMap Segment.groupTexts ++ mode.groupTexts) rs ∧
      r.pattern.expression.regex.groupList = rs.zipIdx 1) ∧
    ∀ path, r.exec path = (r.pattern.expression.regex.find path).map fun m =>
      ⟨((keys T).zipIdx 1).filterMap fun k => Params.entry? k.1 (m.text? path k.2)⟩ := by
  rw [Route.compile] at hr
  split at hr
  · rename_i e he
    cases hr
    obtain ⟨b, hb, he⟩ := bind_eq_ok.1 he
    obtain ⟨⟨x, names⟩, hx, he⟩ := bind_eq_ok.1 he
    cases he
    have hfin : Finishes (.start true) (source T mode ++ []) b := by
      rw [List.append_nil]
      exact ⟨_, Nat.le_refl _, hb⟩
    obtain ⟨b', hgains, hend⟩ := yields_source hT mode (.start true) b rfl rfl hfin
    obtain rfl := hend.nil
    obtain ⟨rs, hrs, hgroups⟩ := hgains.bodies
    have hlist : x.groupList = rs.zipIdx 1 := by
      rw [(finish_eq_ok hx).2.2.2, groupList_body]
      exact hgroups
    have hcount : x.groupCount = (keys T).length + mode.groupTexts.length := by
      rw [groupCount_of_groupList hlist, ← hrs.length_eq, List.length_append, keys, List.length_flatMap,
        List.length_flatMap]
      simp only [Segment.length_groupTexts]
    have hvisible : Pattern.groupCount ⟨⟨source T mode, x, names⟩, mode.tail⟩ = (keys T).length := by
      rw [Pattern.groupCount, hcount]
      cases mode <;> rfl
    refine ⟨hvisible, ⟨rs, hrs, hlist⟩, fun path => ?_⟩
    rw [Route.exec, Pattern.exec, Option.map_map]
    refine congrArg (Option.map · _) (funext fun m => ?_)
    exact congrArg Params.mk (ofKeys_entries (keys T) hvisible)
  · cases hr

/-- Groups in a matcher and in a suffix shift no key: the first group is the one of the first key, the second the one of
the second. -/
theorem compile_groups_nested : ∃ r rs, Route.compile "/:x((a))/:y.(b|c)".toList .loose = .ok r ∧
    r.pattern.groupCount = 2 ∧ List.Forall₂ ReadAs ["(?:a)".toList, "[^/]+?".toList, "/|$".toList] rs ∧
    r.pattern.expression.regex.groupList = rs.zipIdx 1 ∧
    (∀ path, r.exec path = (r.pattern.expression.regex.find path).map fun m =>
      ⟨[("x".toList, 1), ("y".toList, 2)].filterMap fun k => Params.entry? k.1 (m.text? path k.2)⟩) ∧
    r.exec "/a/q.b/z".toList = some ⟨[("x".toList, "a".toList), ("y".toList, "q".toList)]⟩ := by
  have hsegments : segments "/:x((a))/:y.(b|c)".toList = [.param ⟨"x".toList, false, some "(a)".toList, none⟩,
      .param ⟨"y".toList, false, none, some ".(b|c)".toList⟩] := by decide
  have matcher : Accepted true "(?:a)".toList :=
    .of_reads (.step rfl rfl rfl (.step rfl rfl rfl (.step rfl rfl rfl .done))) rfl ⟨_, rfl⟩
  have suffix : Accepted true "(?:b|c)".toList :=
    .of_reads (.step rfl rfl rfl (.step rfl rfl rfl (.step rfl rfl rfl (.step rfl rfl rfl (.step rfl rfl rfl .done)))))
      rfl ⟨_, rfl⟩
  have hT : ∀ s ∈ segments "/:x((a))/:y.(b|c)".toList, s.Sound := by
    rw [hsegments]
    simp only [List.forall_mem_cons, List.not_mem_nil, false_imp_iff, implies_true, and_true]
    refine ⟨⟨fun m hm => ?_, fun s hs => (by cases hs)⟩, fun m hm => (by cases hm), fun s hs => ?_⟩
    · cases hm
      exact ⟨true, matcher⟩
    · cases hs
      exact ⟨true, suffix⟩
  obtain ⟨r, hr, hexec⟩ : ∃ r, Route.compile "/:x((a))/:y.(b|c)".toList .loose = .ok r ∧
      r.exec "/a/q.b/z".toList = some ⟨[("x".toList, "a".toList), ("y".toList, "q".toList)]⟩ := ⟨_, rfl, rfl⟩
  obtain ⟨hcount, ⟨rs, hrs, hgroups⟩, hpaired⟩ := compile_groups hT hr
  have hkeys : keys "/:x((a))/:y.(b|c)".toList = ["x".toList, "y".toList] := by decide
  rw [hkeys] at hcount hpaired
  rw [hsegments] at hrs
  exact ⟨r, rs, hr, hcount, hrs, hgroups, hpaired, hexec⟩

/-- The rewriting takes the bracket of an inner class for the end of the whole one, and what follows for
a group with a name that goes on behind the matcher: two keys, but only one group. -/
theorem compile_groups_innerClass : Accepted true "[[a](?<)]y>".toList ∧ Accepted true "q]r".toList ∧
    ∃ r, Route.compile "/:x([[a](?<)]y>)/:z(q]r)".toList .strict = .ok r ∧
      (keys "/:x([[a](?<)]y>)/:z(q]r)".toList).length = 2 ∧ r.pattern.groupCount = 1 :=
  ⟨.of_reads (.step rfl rfl rfl (.step rfl rfl rfl (.step rfl rfl rfl .done))) rfl ⟨_, rfl⟩,
    .of_reads (.step rfl rfl rfl (.step rfl rfl rfl (.step rfl rfl rfl .done))) rfl ⟨_, rfl⟩, _,
    rfl, by decide, by decide⟩

end Template

end PathRouter
