/-
Reading as a chain of tokens (`Reader.Reads`), outside verbose text. Chains can be joined, which the
bounded loop of the reader cannot, and a chain to the end of a text is what the loop does. A text
that is accepted on its own is read the same way inside open groups (`Reads.under`).
-/
import PathRouter.Proofs.Regex.Tokens

namespace PathRouter.Regex.Reader

/-- Reading goes from a reader in front of a text to another one in front of the rest, and no token
of it is read as verbose text. -/
inductive Reads : Reader → Text → Reader → Text → Prop
  | done {b : Reader} {t : Text} : Reads b t b t
  | step {b b' b'' : Reader} {c : Char} {t u w : Text} {a : Action} :
      b.flags.verbose = false → token b.flags c t = .ok (a, u) → b.act a = .ok b' → Reads b' u b'' w →
      Reads b (c :: t) b'' w

namespace Reads

variable {b b' b'' : Reader} {t u w : Text}

theorem trans (h : Reads b t b' u) (k : Reads b' u b'' w) : Reads b t b'' w := by
  induction h with
  | done => exact k
  | step hv ht ha _ ih => exact .step hv ht ha (ih k)

/-- One token that adds a piece. -/
theorem add {c : Char} {p : Piece} (hv : b.flags.verbose = false) (h : token b.flags c t = .ok (.add p, u)) :
    Reads b (c :: t) (b.add p) u :=
  .step hv h rfl .done

theorem suffix (h : Reads b t b' u) : ∃ m, t = m ++ u := by
  induction h with
  | done => exact ⟨[], rfl⟩
  | @step _ _ _ c _ _ _ _ hv ht _ _ ih =>
    obtain ⟨m, rfl⟩ := ih
    obtain ⟨m', rfl, -⟩ := token_local hv ht
    exact ⟨c :: (m' ++ m), by simp⟩

theorem run (h : Reads b t b' u) :
    ∀ {k : Nat}, t.length ≤ k → ∃ j, u.length ≤ j ∧ Reader.run k b t = Reader.run j b' u := by
  induction h with
  | done => exact fun hk => ⟨_, hk, rfl⟩
  | step hv ht ha _ ih =>
    intro k hk
    obtain ⟨k, rfl⟩ := Nat.exists_eq_add_of_le' (Nat.le_trans (Nat.succ_le_succ (Nat.zero_le _)) hk)
    obtain ⟨m, rfl, -⟩ := token_local hv ht
    obtain ⟨j, hj, hr⟩ := ih (k := k) (by simp at hk; omega)
    refine ⟨j, hj, ?_⟩
    rw [Reader.run, Flags.skip_eq hv]
    simp only [step_eq hv, ht, bind_ok, ha]
    exact hr

theorem run_nil (h : Reads b t b' []) : Reader.run t.length b t = .ok b' := by
  obtain ⟨j, -, hj⟩ := h.run (Nat.le_refl _)
  rw [hj]
  cases j with
  | zero => rfl
  | succ j => rw [Reader.run]; cases hv : b'.flags.verbose <;> simp [Flags.skip, hv, Flags.skipBlanks]

/-- A chain of tokens to the end of a text is how the text is read. -/
theorem parse {anyCase : Bool} (h : Reads (.start anyCase) t b []) :
    Expression.parse anyCase t = b.finish >>= fun r => .ok ⟨t, r.1, r.2⟩ := by
  rw [Expression.parse, h.run_nil, bind_ok]
  rfl

end Reads

/-! ## The end of a text -/

/-- However many pieces there are, they are read as the concatenation of their expressions. -/
theorem regex_concat (ps : List Piece) : (Piece.concat ps).regex = concatAll (ps.reverse.map (·.regex)) := by
  match ps with
  | [] | [p] | _ :: _ :: _ => rfl

theorem finish_eq {b : Reader} (ho : b.outer = []) : b.finish =
    if maxHeight < b.body.height then .error .tooDeep
    else if maxSize < frameSize + b.body.regex.leastSize then .error .tooLarge
    else .ok (b.body.regex, b.names.filter fun (i, _) => b.body.regex.hasGroup i) := by
  rw [finish, ho]
  rfl

theorem finish_eq_ok {b : Reader} {x : Regex} {names : List (Nat × Text)} (h : b.finish = .ok (x, names)) :
    b.outer = [] ∧ b.body.height ≤ maxHeight ∧ frameSize + x.leastSize ≤ maxSize ∧ x = b.body.regex := by
  have ho : b.outer = [] := by
    unfold finish at h
    split at h
    · cases h
    · rename_i ho
      simpa using ho
  rw [finish_eq ho] at h
  split at h
  · cases h
  · split at h
    · cases h
    · cases h
      exact ⟨ho, by omega, by omega, rfl⟩

/-! ## Texts accepted on their own -/

/-- The reader gets through the text to its end and is left as `e`. -/
def Finishes (b : Reader) (t : Text) (e : Reader) : Prop :=
  ∃ k, t.length ≤ k ∧ Reader.run k b t = .ok e

namespace Finishes

variable {b b' e : Reader} {t u : Text}

theorem nil (h : Finishes b [] e) : e = b := by
  obtain ⟨k, -, hk⟩ := h
  cases k with
  | zero => exact (Except.ok.inj hk).symm
  | succ k =>
    rw [Reader.run] at hk
    cases hv : b.flags.verbose <;> simp [Flags.skip, hv, Flags.skipBlanks] at hk <;> exact hk.symm

/-- The first token. -/
theorem token {c : Char} (hv : b.flags.verbose = false) (h : Finishes b (c :: t) e) :
    ∃ a u b', Regex.token b.flags c t = .ok (a, u) ∧ b.act a = .ok b' ∧ Finishes b' u e := by
  obtain ⟨k, hlen, hk⟩ := h
  obtain ⟨k, rfl⟩ := Nat.exists_eq_add_of_le' (Nat.le_trans (Nat.succ_le_succ (Nat.zero_le _)) hlen)
  rw [Reader.run, Flags.skip_eq hv] at hk
  obtain ⟨⟨b', u⟩, hs, hrun⟩ := bind_eq_ok.1 hk
  rw [step_eq hv] at hs
  obtain ⟨⟨a, u'⟩, ht, hs⟩ := bind_eq_ok.1 hs
  obtain ⟨b'', ha, hs⟩ := bind_eq_ok.1 hs
  cases hs
  obtain ⟨m, rfl, -⟩ := token_local hv ht
  exact ⟨a, _, _, ht, ha, k, by simp at hlen; omega, hrun⟩

/-- Where no verbose text begins, the reader goes from token to token. -/
theorem exists_reads : ∀ {k : Nat} {b : Reader} {t : Text}, t.length ≤ k →
    (∀ b' u, Reads b t b' u → b'.flags.verbose = false) → Finishes b t e → Reads b t e []
  | _, b, [], _, _, h => h.nil ▸ .done
  | 0, _, _ :: _, hlen, _, _ => absurd hlen (Nat.not_succ_le_zero _)
  | k + 1, b, c :: t, hlen, hv, h => by
    have hb := hv b _ .done
    obtain ⟨a, u, b', ht, ha, hend⟩ := h.token hb
    obtain ⟨m, rfl, -⟩ := token_local hb ht
    refine .step hb ht ha (exists_reads (k := k) (by simp at hlen; omega) (fun b'' w hr => ?_) hend)
    exact hv b'' w (.step hb ht ha hr)

end Finishes

/-- The text is a regular expression on its own, and verbose text begins nowhere in it. -/
def Accepted (anyCase : Bool) (t : Text) : Prop :=
  (∃ e, Expression.parse anyCase t = .ok e) ∧ ∀ b u, Reads (.start anyCase) t b u → b.flags.verbose = false

/-- A text that is accepted is read to its end. -/
theorem Accepted.exists_finish {anyCase : Bool} {t : Text} {e : Expression} (h : Accepted anyCase t)
    (he : Expression.parse anyCase t = .ok e) : ∃ b, Reads (.start anyCase) t b [] ∧
      b.finish = .ok (e.regex, e.names) := by
  obtain ⟨b, hb, he⟩ := bind_eq_ok.1 he
  obtain ⟨r, hr, he⟩ := bind_eq_ok.1 he
  cases he
  exact ⟨b, Finishes.exists_reads (Nat.le_refl _) h.2 ⟨_, Nat.le_refl _, hb⟩, hr⟩

theorem Accepted.reads {anyCase : Bool} {t : Text} (h : Accepted anyCase t) :
    ∃ b, Reads (.start anyCase) t b [] ∧ b.outer = [] ∧ b.flags.verbose = false := by
  obtain ⟨e, he⟩ := h.1
  obtain ⟨b, hb, hfin⟩ := h.exists_finish he
  exact ⟨b, hb, (finish_eq_ok hfin).1, h.2 b [] hb⟩

/-- A text of its own does not begin with a repetition. -/
theorem Reads.head?_append_ne {f : Flags} {n : Nat} {names : List (Nat × Text)} {bs : List Piece}
    {outer : List OpenGroup}
    {t v : Text} {b : Reader} (h : Reads ⟨f, n, names, [], bs, outer⟩ t b []) (hv : v.head? ≠ some '?') :
    (t ++ v).head? ≠ some '?' := by
  intro hq
  match t with
  | [] => exact hv hq
  | c :: t =>
    cases hq
    cases h with
    | step _ ht ha _ =>
      cases ht
      cases ha

/-- The reader takes only one way through a text. -/
theorem Reads.rest {b b' e : Reader} {t u : Text} (h : Reads b t b' u) (k : Reads b t e []) : Reads b' u e [] := by
  induction h with
  | done => exact k
  | step _ ht ha _ ih =>
    cases k with
    | step _ ht' ha' k =>
      cases ht.symm.trans ht'
      cases ha.symm.trans ha'
      exact ih k

theorem Accepted.of_reads {anyCase : Bool} {t : Text} {b : Reader} (h : Reads (.start anyCase) t b [])
    (hv : b.flags.verbose = false) (hfin : ∃ r, b.finish = .ok r) : Accepted anyCase t := by
  obtain ⟨r, hr⟩ := hfin
  refine ⟨⟨_, by rw [h.parse, hr, bind_ok]⟩, fun b' u hb' => ?_⟩
  cases hb'.rest h with
  | done => exact hv
  | step hb => exact hb

/-! ## Reading inside open groups -/

/-- Text that can follow a text of its own: it does not go on with a token of that one. -/
def Ends (v : Text) : Prop := v.head? ≠ some '?' ∧ v.head? ≠ some '{'

theorem Ends.namesBoundary {v : Text} (h : Ends v) : namesBoundary v = false := by
  unfold Regex.namesBoundary
  split
  · exact absurd rfl h.2
  · exact absurd rfl h.2
  · rfl

theorem follows_append {v : Text} (hv : Ends v) (u : Text) : Follows u (u ++ v) := by
  match u with
  | [] => exact ⟨⟨fun h => (by cases h), fun h => absurd h hv.1⟩, fun _ => hv.namesBoundary⟩
  | [c] =>
    refine ⟨Iff.rfl, fun h => ?_⟩
    by_cases hc : c = '{'
    · subst hc
      cases h
    · simp [Regex.namesBoundary, hc]
  | c :: d :: u =>
    refine ⟨Iff.rfl, fun h => ?_⟩
    by_cases hc : c = '{'
    · subst hc
      exact h
    · simp [Regex.namesBoundary, hc]

/-- A text that only lacks the end of its last brace is not read. -/
theorem Reads.ne_brace {b b' : Reader} : ¬ Reads b ['{'] b' [] := by
  rintro (_ | ⟨-, ht, -, -⟩)
  cases ht

theorem append_follows {b b' : Reader} {u v : Text} (hv : Ends v) (hu : Reads b u b' []) : Follows (u ++ v) u := by
  match u with
  | [] => exact ⟨⟨fun h => absurd h hv.1, fun h => (by cases h)⟩, fun _ => rfl⟩
  | [c] =>
    refine ⟨Iff.rfl, fun _ => ?_⟩
    have hc : c ≠ '{' := by
      rintro rfl
      exact Reads.ne_brace hu
    simp [Regex.namesBoundary, hc]
  | c :: d :: u =>
    refine ⟨Iff.rfl, fun h => ?_⟩
    by_cases hc : c = '{'
    · subst hc
      exact h
    · simp [Regex.namesBoundary, hc]

/-- The reader with more groups open around everything that was read. -/
def under (fs : List OpenGroup) (b : Reader) : Reader :=
  { b with outer := b.outer ++ fs }

/-- What a token does is the same inside open groups, as long as it does not close one of them. -/
theorem act_under {b : Reader} {a : Action} (fs : List OpenGroup) (h : a = .close → b.outer ≠ []) :
    (b.under fs).act a = (b.act a).map (under fs) := by
  cases a with
  | openNamed name =>
    rw [act, act]
    by_cases hn : b.names.any (·.2 == name) = true
    · rw [if_pos hn, if_pos (by exact hn)]
      rfl
    · rw [if_neg hn, if_neg (by exact hn)]
      rfl
  | close =>
    obtain ⟨flags, groups, names, ps, bs, outer⟩ := b
    cases outer with
    | nil => exact absurd rfl (h rfl)
    | cons g outer => rfl
  | again greedy min max =>
    obtain ⟨flags, groups, names, ps, bs, outer⟩ := b
    cases ps with
    | nil => rfl
    | cons p ps =>
      simp only [act, under, repeatLatest]
      split <;> rfl
  | openCounted | openModes | setModes | alternate | add => rfl

/-- A group is closed only if one is open. -/
theorem outer_ne_nil_of_act {b b' : Reader} {a : Action} (h : b.act a = .ok b') : a = .close → b.outer ≠ [] := by
  rintro rfl ho
  simp only [act, closeGroup, ho] at h
  cases h

/-- A text that is read on its own is read the same way inside open groups. -/
theorem Reads.under {b b' : Reader} {t u v : Text} (fs : List OpenGroup) (hv : Ends v) (h : Reads b t b' u)
    (hu : u = []) :
    Reads (b.under fs) (t ++ v) (b'.under fs) v := by
  induction h with
  | done =>
    subst hu
    exact .done
  | @step b b₁ b₂ c t u w a hb ht ha hr ih =>
    obtain ⟨m, rfl, -, hw⟩ := token_local hb ht
    have ht' : Regex.token b.flags c (m ++ (u ++ v)) = .ok (a, u ++ v) := hw _ (follows_append hv u)
    rw [← List.append_assoc] at ht'
    refine .step hb ht' ?_ (ih hu)
    rw [act_under fs (outer_ne_nil_of_act ha), ha]
    rfl

/-- A text of its own in parentheses is read as a group. -/
theorem Reads.group {f : Flags} {n : Nat} {names : List (Nat × Text)} {ps bs : List Piece} {outer : List OpenGroup}
    {t : Text}
    {b : Reader} (h : Reads ⟨f, n + 1, names, [], [], []⟩ t b []) (ho : b.outer = []) (hf : f.verbose = false)
    (hv : b.flags.verbose = false) (v : Text) : Reads ⟨f, n, names, ps, bs, outer⟩ ('(' :: (t ++ ')' :: v))
      ⟨f, b.groups, b.names, ⟨.group (n + 1) b.body.regex, 1 + b.body.height, false⟩ :: ps, bs, outer⟩ v := by
  let fs : List OpenGroup := ⟨some (n + 1), f, ps, bs⟩ :: outer
  have hq : (t ++ ')' :: v).head? ≠ some '?' := h.head?_append_ne fun hq => by cases hq
  have hopen : Regex.token f '(' (t ++ ')' :: v) = .ok (.openCounted, t ++ ')' :: v) := by
    show groupToken f _ = _
    rw [groupToken, opening_counted hq]
  have middle : Reads (Reader.under fs ⟨f, n + 1, names, [], [], []⟩) (t ++ ')' :: v) (b.under fs) (')' :: v) :=
    h.under fs ⟨fun hq => (by cases hq), fun hq => (by cases hq)⟩ rfl
  have close : (b.under fs).act .close =
      .ok ⟨f, b.groups, b.names, ⟨.group (n + 1) b.body.regex, 1 + b.body.height, false⟩ :: ps, bs, outer⟩ := by
    have houter : (b.under fs).outer = fs := by rw [Reader.under, ho]; rfl
    rw [act, closeGroup, houter]
    rfl
  exact .step hf hopen rfl (middle.trans (.step hv rfl close .done))

/-! ## Reading behind other pieces -/

/-- Open groups, with more pieces in front of the outermost one. -/
def groupsBehind (ps : List Piece) : List OpenGroup → List OpenGroup
  | [] => []
  | [g] => [{ g with pieces := g.pieces ++ ps }]
  | g :: h :: gs => g :: groupsBehind ps (h :: gs)

/-- The reader with more pieces in front of everything that was read. -/
def behind (ps : List Piece) (b : Reader) : Reader :=
  match b.outer with
  | [] => { b with pieces := b.pieces ++ ps }
  | g :: gs => { b with outer := groupsBehind ps (g :: gs) }

/-- The alternatives outside all groups, but for the last one. -/
def topBranches (b : Reader) : List Piece :=
  match b.outer.getLast? with
  | none => b.branches
  | some g => g.branches

@[simp] theorem flags_behind (ps : List Piece) (b : Reader) : (b.behind ps).flags = b.flags := by
  unfold behind
  split <;> rfl

/-- What a token does is the same behind other pieces, as long as no alternative ends outside all groups. -/
theorem act_behind {b b' : Reader} {a : Action} (ps : List Piece) (h : b.act a = .ok b') (hb : b'.topBranches = []) :
    (b.behind ps).act a = .ok (b'.behind ps) ∧ b.topBranches = [] := by
  obtain ⟨f, n, names, qs, bs, outer⟩ := b
  cases a with
  | openNamed name =>
    rw [act] at h
    split at h
    · cases h
    · rename_i hn
      cases h
      cases outer with
      | nil => exact ⟨if_neg hn, hb⟩
      | cons g gs => exact ⟨if_neg hn, hb⟩
  | openCounted | openModes =>
    cases h
    cases outer with
    | nil => exact ⟨rfl, hb⟩
    | cons g gs => exact ⟨rfl, hb⟩
  | setModes | add =>
    cases h
    cases outer with
    | nil => exact ⟨rfl, hb⟩
    | cons g gs => exact ⟨rfl, hb⟩
  | close =>
    cases outer with
    | nil => cases h
    | cons g gs =>
      cases h
      cases gs with
      | nil => exact ⟨rfl, hb⟩
      | cons g' gs => exact ⟨rfl, hb⟩
  | alternate =>
    cases h
    cases outer with
    | nil => cases hb
    | cons g gs => exact ⟨rfl, hb⟩
  | again greedy min max =>
    cases qs with
    | nil => cases h
    | cons p qs =>
      simp only [act, repeatLatest] at h
      split at h
      · cases h
      · rename_i hm
        cases h
        cases outer with
        | nil => exact ⟨if_neg hm, hb⟩
        | cons g gs => exact ⟨if_neg hm, hb⟩

/-- A text of one alternative is read the same way behind other pieces. -/
theorem Reads.behind {b b' : Reader} {t u : Text} (ps : List Piece) (h : Reads b t b' u) :
    b'.topBranches = [] → Reads (b.behind ps) t (b'.behind ps) u ∧ b.topBranches = [] := by
  induction h with
  | done => exact fun hb => ⟨.done, hb⟩
  | @step b b₁ b₂ c t u w a hb ht ha hr ih =>
    intro htop
    obtain ⟨hreads, htop⟩ := ih htop
    obtain ⟨hact, htop⟩ := act_behind ps ha htop
    rw [← flags_behind ps b] at hb ht
    exact ⟨.step hb ht hact hreads, htop⟩

end PathRouter.Regex.Reader
