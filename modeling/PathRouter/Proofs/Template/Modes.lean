/-
The two modes of a template. Text of matchers and suffixes that stands on its own, without assertions and
changes of modes, is read as expressions that do not depend on the ending behind them (`exists_regexes`).
So both modes go the same ways and differ in where they may end: what a loose route takes of a path is what the
strict one takes of that part alone (`find?_ways_take`).
-/
import PathRouter.Proofs.Regex.Cut
import PathRouter.Proofs.Template.Spread
import PathRouter.Proofs.Template.Uncounted

namespace PathRouter

namespace Regex

theorem assertionFree_concatAll {rs : List Regex} :
    (concatAll rs).assertionFree = true ↔ ∀ r ∈ rs, r.assertionFree = true := by
  induction rs with
  | nil => simp [concatAll, assertionFree]
  | cons r rs ih => rw [concatAll, assertionFree, Bool.and_eq_true, ih, List.forall_mem_cons]

namespace Reader

/-! ## Texts that stand on their own -/

/-- The text is a regular expression of its own, without assertions and without changes of the modes of
routes. -/
structure Steady (t : Text) : Prop where
  parses : ∃ e, Expression.parse true t = .ok e ∧ e.regex.assertionFree = true
  flags : ∀ b u, Reads (.start true) t b u → b.flags = routeFlags

/-- No alternatives stand outside the groups of the text. -/
def Undivided (t : Text) : Prop :=
  ∀ b, Reads (.start true) t b [] → b.branches = []

variable {t : Text}

theorem Steady.accepted (h : Steady t) : Accepted true t := by
  obtain ⟨e, he, -⟩ := h.parses
  refine ⟨⟨e, he⟩, fun b u hr => ?_⟩
  rw [h.flags b u hr]
  rfl

/-- Rewritten text is read behind any number of groups, and leaves an expression without assertions and groups. -/
theorem Steady.reads (h : Steady t) (hfix : Template.uncounted t = t) :
    ∃ qs cs : List Piece, ((Piece.concat qs).alternatives cs).regex.assertionFree = true ∧
      ((Piece.concat qs).alternatives cs).regex.groupCount = 0 ∧ (Undivided t → cs = []) ∧
      ∀ n, Reads ⟨routeFlags, n, [], [], [], []⟩ t ⟨routeFlags, n, [], qs, cs, []⟩ [] := by
  obtain ⟨e, he, hfree⟩ := h.parses
  obtain ⟨b, hb, hfin⟩ := h.accepted.exists_finish he
  obtain ⟨ho, -, -, hx⟩ := finish_eq_ok hfin
  refine ⟨b.pieces.map Piece.bare, b.branches.map Piece.bare, ?_, ?_, fun hu => ?_, fun n => ?_⟩
  · rw [Piece.concat_bare, Piece.alternatives_bare]
    exact (assertionFree_bare _).trans (hx ▸ hfree)
  · rw [Piece.concat_bare, Piece.alternatives_bare]
    exact groupCount_bare _
  · rw [hu b hb]
    rfl
  · have hr : Reads ((Reader.start true).bare n) (Template.uncounted t) (b.bare n) [] :=
      hb.uncounted n rfl (Reads.keepsClasses hfix)
    rw [hfix, Reader.bare, Reader.bare, h.flags b [] hb, ho] at hr
    exact hr

/-- In parentheses, the text is read as a group around an expression without assertions and groups. -/
theorem Steady.reads_group (h : Steady t) (hfix : Template.uncounted t = t) :
    ∃ x height, x.assertionFree = true ∧ x.groupCount = 0 ∧ ∀ {n ps bs outer} (v : Text),
    Reads ⟨routeFlags, n, [], ps, bs, outer⟩
      ('(' :: (t ++ ')' :: v)) ⟨routeFlags, n + 1, [], ⟨.group (n + 1) x, height, false⟩ :: ps, bs, outer⟩ v := by
  obtain ⟨qs, cs, hfree, hcount, -, hreads⟩ := h.reads hfix
  exact ⟨_, 1 + ((Piece.concat qs).alternatives cs).height, hfree, hcount, fun v => (hreads _).group rfl rfl rfl v⟩

/-- Whether modes are set somewhere: an opening parenthesis with a question mark behind it, but no colon. -/
def setsModes : Text → Bool
  | [] => false
  | c :: t => (c == '(' && t.head? == some '?' && t[1]? != some ':') || setsModes t

theorem setsModes_of_append {m u : Text} (h : setsModes (m ++ u) = false) : setsModes u = false := by
  induction m with
  | nil => exact h
  | cons c m ih =>
    rw [List.cons_append, setsModes, Bool.or_eq_false_iff] at h
    exact ih h.2

/-- The modes and those to return to are the given ones. -/
def Settled (f : Flags) (b : Reader) : Prop :=
  b.flags = f ∧ ∀ g ∈ b.outer, g.flags = f

theorem Settled.act {f : Flags} {b b' : Reader} {a : Action} (h : Settled f b) (ha : b.act a = .ok b')
    (hopen : ∀ g, a = .openModes g → g = f) (hset : ∀ g, a ≠ .setModes g) : Settled f b' := by
  obtain ⟨hf, houter⟩ := h
  cases a with
  | openCounted =>
    cases ha
    exact ⟨hf, List.forall_mem_cons.2 ⟨hf, houter⟩⟩
  | openNamed name =>
    rw [Reader.act] at ha
    split at ha
    · cases ha
    · cases ha
      exact ⟨hf, List.forall_mem_cons.2 ⟨hf, houter⟩⟩
  | openModes g =>
    cases ha
    exact ⟨hopen g rfl, List.forall_mem_cons.2 ⟨hf, houter⟩⟩
  | setModes g => exact absurd rfl (hset g)
  | close =>
    obtain ⟨f', n, names, ps, bs, outer⟩ := b
    cases outer with
    | nil => cases ha
    | cons g gs =>
      cases ha
      exact ⟨houter g List.mem_cons_self, fun g' hg' => houter g' (List.mem_cons_of_mem g hg')⟩
  | alternate | add =>
    cases ha
    exact ⟨hf, houter⟩
  | again greedy min max =>
    obtain ⟨f', n, names, ps, bs, outer⟩ := b
    cases ps with
    | nil => cases ha
    | cons p ps =>
      simp only [Reader.act, repeatLatest] at ha
      split at ha
      · cases ha
      · cases ha
        exact ⟨hf, houter⟩

/-- Text that sets no modes is read under the modes it begins with. -/
theorem Reads.settled {f : Flags} {b b' : Reader} {t u : Text} (h : Reads b t b' u) :
    setsModes t = false → Settled f b → Settled f b' := by
  induction h with
  | done => exact fun _ hb => hb
  | @step b b₁ b₂ c t u w a hv ht ha _ ih =>
    intro hm hb
    obtain ⟨m, rfl, hs, -⟩ := token_local hv ht
    -- Behind the question mark of a group comes a colon at once, and that keeps the modes.
    have colon : ∀ {d v}, setsModes ('(' :: '?' :: d :: v) = false →
        token b.flags '(' ('?' :: d :: v) = .ok (.openModes b.flags, v) := by
      intro d v hm
      obtain rfl : d = ':' := by simpa [setsModes] using (Bool.or_eq_false_iff.1 hm).1
      rfl
    refine ih (setsModes_of_append (m := c :: m) hm) (hb.act ha ?_ ?_)
    · rintro g rfl
      cases hs with
      | openModes =>
        have hact := (Prod.mk.inj (Except.ok.inj ((colon hm).symm.trans ht))).1
        cases hact
        exact hb.1
    · rintro g rfl
      cases hs with
      | setModes =>
        have hact := (Prod.mk.inj (Except.ok.inj ((colon hm).symm.trans ht))).1
        cases hact

/-- A text that sets no modes has no changes of modes. -/
theorem Steady.of_setsModes {e : Expression} (he : Expression.parse true t = .ok e)
    (hfree : e.regex.assertionFree = true)
    (hm : setsModes t = false) : Steady t :=
  ⟨⟨e, he, hfree⟩, fun _ _ hr => (hr.settled hm ⟨rfl, List.forall_mem_nil _⟩).1⟩

theorem Undivided.of_reads {b : Reader} (h : Reads (.start true) t b []) (hb : b.branches = []) : Undivided t := by
  intro b' hb'
  cases h.rest hb' with
  | done => exact hb

/-- In front of text that can follow, the text is read as the expressions. They have no assertions, and bring the
number of groups from `n` to `m`. -/
structure Renders (t : Text) (n m : Nat) (rs : List Regex) : Prop where
  assertionFree : ∀ r ∈ rs, r.assertionFree = true
  groupCount : max n (concatAll rs).groupCount = m
  reads : ∀ ps v, Ends v → ∃ qs,
    Reads ⟨routeFlags, n, [], ps, [], []⟩ (t ++ v) ⟨routeFlags, m, [], qs ++ ps, [], []⟩ v ∧
    qs.reverse.map (·.regex) = rs

theorem Renders.nil (n : Nat) : Renders [] n n [] :=
  ⟨List.forall_mem_nil _, Nat.max_zero n, fun _ _ _ => ⟨[], .done, rfl⟩⟩

theorem Renders.append {u : Text} {n m k : Nat} {rs rs' : List Regex} (h : Renders t n m rs) (h' : Renders u m k rs')
    (hu : ∀ {v}, Ends v → Ends (u ++ v)) : Renders (t ++ u) n k (rs ++ rs') := by
  refine ⟨List.forall_mem_append.2 ⟨h.assertionFree, h'.assertionFree⟩, ?_, fun ps v hv => ?_⟩
  · rw [Template.groupCount_concatAll_append, ← Nat.max_assoc, h.groupCount, h'.groupCount]
  · obtain ⟨qs, hqs, hr⟩ := h.reads ps (u ++ v) (hu hv)
    obtain ⟨qs', hqs', hr'⟩ := h'.reads (qs ++ ps) v hv
    refine ⟨qs' ++ qs, ?_, ?_⟩
    · rw [List.append_assoc, List.append_assoc]
      exact hqs.trans hqs'
    · rw [List.reverse_append, List.map_append, hr, hr']

/-- Undivided text outside of groups is read as expressions without groups. -/
theorem Steady.renders (h : Steady t) (hfix : Template.uncounted t = t) (hu : Undivided t) :
    ∃ rs, ∀ n, Renders t n n rs := by
  obtain ⟨qs, cs, hfree, hcount, hbranches, hreads⟩ := h.reads hfix
  obtain rfl := hbranches hu
  have hbody : ((Piece.concat qs).alternatives []).regex = concatAll (qs.reverse.map (·.regex)) := regex_concat qs
  rw [hbody] at hfree hcount
  refine ⟨_, fun n => ⟨assertionFree_concatAll.1 hfree, by rw [hcount, Nat.max_zero], fun ps v hv => ⟨qs, ?_, rfl⟩⟩⟩
  -- The text is read in front of `v` first, and then behind the pieces that were read before.
  have hfront := (hreads n).under [] hv rfl
  exact (hfront.behind ps rfl).1

end Reader

end Regex

open Regex Regex.Reader

/-! ## The expressions of a template -/

/-- The texts of a segment that count as patterns stand on their own when they are rewritten, suffixes without
alternatives outside of groups, and literal text is no pattern. -/
def Segment.Steady : Segment → Prop
  | empty | wildcard _ => True
  | literal text => PlainText text
  | param p => (∀ m ∈ p.matcher, Reader.Steady (Template.uncounted m)) ∧
      ∀ s ∈ p.suffix, Reader.Steady (Template.uncounted s.tail) ∧ Undivided (Template.uncounted s.tail)

namespace Segment

theorem assertionFree_letters (t : Text) : ∀ r ∈ letters t, r.assertionFree = true := by
  intro r hr
  obtain ⟨c, -, rfl⟩ := List.mem_map.1 hr
  rfl

theorem assertionFree_wildcard (n : Nat) (o : Bool) : ∀ r ∈ (wildcard o).regexes n, r.assertionFree = true := by
  cases o <;> simp [regexes, behindSlash, letters, wild, captured, Regex.optional, concatAll, assertionFree]

theorem renders_plain {s : Segment} (hs : s.Plain) (n : Nat) (hfree : ∀ r ∈ s.regexes n, r.assertionFree = true) :
    Renders s.source n (n + s.keys.length) (s.regexes n) := by
  refine ⟨hfree, Template.groupCount_segment s n, fun ps v hv => ?_⟩
  obtain ⟨qs, hqs, hr, -⟩ := @reads_segment n [] ps [] [] v s hs hv.1
  exact ⟨qs, hqs, hr⟩

theorem steady_anySegment : Reader.Steady Template.anySegment :=
  .of_setsModes rfl rfl (by decide)

/-- The text of a value in parentheses behind a slash is read as two pieces, also within a group. -/
theorem reads_slashed {sub : Text} (h : Reader.Steady sub) (hfix : Template.uncounted sub = sub) :
    ∃ x height, x.assertionFree = true ∧ x.groupCount = 0 ∧ ∀ {n ps bs outer} (v : Text),
      Reads ⟨routeFlags, n, [], ps, bs, outer⟩ ('/' :: '(' :: (sub ++ ')' :: v)) ⟨routeFlags, n + 1, [],
        ⟨.group (n + 1) x, height, false⟩ :: .leaf (.chars (Unicode.sameFold '/')) :: ps, bs, outer⟩ v := by
  obtain ⟨x, height, hfree, hcount, hgroup⟩ := h.reads_group hfix
  exact ⟨x, height, hfree, hcount, fun v => .step rfl rfl rfl (hgroup v)⟩

/-- A parameter is read as expressions with one group, if its matcher stands on its own and its suffix is read as
expressions. -/
theorem exists_renders_param {p : Param} (hmatcher : ∀ m ∈ p.matcher, Reader.Steady (Template.uncounted m))
    (hsuffix : ∀ s ∈ p.suffix, ∃ rs, ∀ n, Renders (Template.uncounted s.tail) n n rs) (n : Nat) :
    ∃ rs, Renders (param p).source n (n + 1) rs := by
  obtain ⟨name, optional, matcher, suffix⟩ := p
  have hsub : Reader.Steady ((matcher.map Template.uncounted).getD Template.anySegment) ∧
      Template.uncounted ((matcher.map Template.uncounted).getD Template.anySegment) =
        (matcher.map Template.uncounted).getD Template.anySegment := by
    cases matcher with
    | none => exact ⟨steady_anySegment, by decide⟩
    | some m => exact ⟨hmatcher m rfl, Template.uncounted_uncounted m⟩
  rw [source_param, Param.source]
  generalize (matcher.map Template.uncounted).getD Template.anySegment = sub at hsub ⊢
  obtain ⟨x, height, hx, hcount, slashed⟩ := reads_slashed hsub.1 hsub.2
  -- The value behind its slash, which has to be there.
  have value : Renders ('/' :: '(' :: (sub ++ [')'])) n (n + 1) (behindSlash (.group (n + 1) x)) := by
    refine ⟨?_, ?_, fun ps v _ => ?_⟩
    · simp [behindSlash, letters, assertionFree, hx]
    · simp [behindSlash, letters, concatAll, groupCount, hcount]
    · have h := @slashed n ps [] [] v
      exact ⟨[_, .leaf (.chars (Unicode.sameFold '/'))], by simpa using h, rfl⟩
  cases suffix with
  | none =>
    cases optional with
    | false => exact ⟨_, value⟩
    | true =>
      refine ⟨[Regex.optional (concatAll (behindSlash (.group (n + 1) x)))], ?_, ?_, fun ps v hv => ?_⟩
      · simp [behindSlash, letters, Regex.optional, concatAll, assertionFree, hx]
      · simp [behindSlash, letters, Regex.optional, concatAll, groupCount, hcount]
      · have h := @reads_optional_group n [] ps [] [] v (n + 1) _ ('/' :: '(' :: (sub ++ [')']))
          (fun w => by simpa using slashed w) hv.1
        exact ⟨[_], by simpa using h, rfl⟩
  | some s =>
    obtain ⟨rs, htail⟩ := hsuffix s rfl
    have dotted : Renders ('\\' :: '.' :: Template.uncounted s.tail) (n + 1) (n + 1)
        (.chars (Unicode.sameFold '.') :: rs) := by
      refine ⟨List.forall_mem_cons.2 ⟨rfl, (htail n).assertionFree⟩, ?_, fun ps v hv => ?_⟩
      · rw [concatAll, groupCount, groupCount, Nat.zero_max]
        exact (htail (n + 1)).groupCount
      · obtain ⟨qs, hqs, hr⟩ := (htail (n + 1)).reads (.leaf (.chars (Unicode.sameFold '.')) :: ps) v hv
        refine ⟨qs ++ [.leaf (.chars (Unicode.sameFold '.'))], ?_, ?_⟩
        · rw [List.append_assoc]
          exact .step rfl rfl rfl hqs
        · rw [List.reverse_append, List.map_append, hr]
          rfl
    have hends : ∀ {v}, Ends v → Ends ('\\' :: '.' :: Template.uncounted s.tail ++ v) :=
      fun _ => ⟨fun h => (by cases h), fun h => (by cases h)⟩
    cases optional with
    | false =>
      have hall := value.append dotted hends
      exact ⟨_, by simpa using hall⟩
    | true =>
      have front : Renders ('/' :: '(' :: (sub ++ [')', '?'])) n (n + 1)
          (behindSlash (Regex.optional (.group (n + 1) x))) := by
        refine ⟨?_, ?_, fun ps v hv => ?_⟩
        · simp [behindSlash, letters, Regex.optional, assertionFree, hx]
        · simp [behindSlash, letters, Regex.optional, concatAll, groupCount, hcount]
        · have h := (@slashed n ps [] [] ('?' :: v)).trans (reads_optional rfl hv.1)
          exact ⟨[_, .leaf (.chars (Unicode.sameFold '/'))], by simpa using h, rfl⟩
      have hall := front.append dotted hends
      exact ⟨_, by simpa using hall⟩

/-- A segment is read as expressions with one group for each key. -/
theorem exists_renders {s : Segment} (hs : s.Steady) (n : Nat) : ∃ rs, Renders s.source n (n + s.keys.length) rs := by
  cases s with
  | empty => exact ⟨[], Renders.nil n⟩
  | literal text => exact ⟨_, renders_plain (s := literal text) hs n (assertionFree_letters _)⟩
  | wildcard o => exact ⟨_, renders_plain (s := wildcard o) trivial n (assertionFree_wildcard n o)⟩
  | param p =>
    exact exists_renders_param hs.1
      (fun s h => (hs.2 s h).1.renders (Template.uncounted_uncounted s.tail) (hs.2 s h).2) n

end Segment

namespace Template

/-- Segments are read as expressions with one group for each key if each of them is. -/
theorem exists_renders : ∀ {ss : List Segment}, (∀ s ∈ ss, ∀ n, ∃ rs, Renders s.source n (n + s.keys.length) rs) → ∀ n,
    ∃ rs, Renders (ss.flatMap Segment.source) n (n + (ss.flatMap Segment.keys).length) rs
  | [], _, n => ⟨[], Renders.nil n⟩
  | s :: ss, h, n => by
    obtain ⟨rs, hs⟩ := h s List.mem_cons_self n
    obtain ⟨rs', hss⟩ := exists_renders (fun s' hs' => h s' (List.mem_cons_of_mem s hs')) (n + s.keys.length)
    refine ⟨rs ++ rs', ?_⟩
    rw [List.flatMap_cons, List.flatMap_cons, List.length_append, ← Nat.add_assoc]
    refine hs.append hss fun hv => ⟨?_, ?_⟩
    · exact head?_sources_append (by decide) (by decide) hv.1 ss
    · exact head?_sources_append (by decide) (by decide) hv.2 ss

/-- A template has the same expressions in both modes, but for the ending; its keys are the visible groups. -/
theorem exists_regexes_of_renders {T : Text}
    (hT : ∀ s ∈ segments T, ∀ n, ∃ rs, Renders s.source n (n + s.keys.length) rs) :
    ∃ rs, (concatAll rs).assertionFree = true ∧ ∀ {mode r}, Route.compile T mode = .ok r →
      r.pattern.tail = mode.tail ∧ r.pattern.groupCount = (keys T).length ∧
      r.pattern.expression.regex = concatAll (.assert .textStart :: (rs ++ mode.regexes (keys T).length)) := by
  obtain ⟨rs, hsegments⟩ := exists_renders hT 0
  refine ⟨rs, assertionFree_concatAll.2 hsegments.assertionFree, fun {mode r} hr => ?_⟩
  have hends : Ends mode.ending := by cases mode <;> exact ⟨fun h => (by cases h), fun h => (by cases h)⟩
  have caret : Reads (.start true) (source T mode) ⟨routeFlags, 0, [], [.leaf (.assert .textStart)], [], []⟩
      ((segments T).flatMap Segment.source ++ mode.ending) :=
    .step rfl rfl rfl .done
  obtain ⟨qs, hqs, hqr⟩ := hsegments.reads [.leaf (.assert .textStart)] mode.ending hends
  obtain ⟨qs', hqs', hqr', -⟩ := reads_ending mode (0 + (keys T).length) (qs ++ [.leaf (.assert .textStart)])
  have hparse := (caret.trans (hqs.trans hqs')).parse
  rw [Route.compile, hparse] at hr
  split at hr
  · rename_i e he
    cases hr
    obtain ⟨⟨x, names⟩, hfin, he⟩ := bind_eq_ok.1 he
    cases he
    have hx : x = concatAll (.assert .textStart :: (rs ++ mode.regexes (keys T).length)) := by
      have hbody : x = (Piece.concat (qs' ++ (qs ++ [.leaf (.assert .textStart)]))).regex := (finish_eq_ok hfin).2.2.2
      rw [hbody, regex_concat, List.reverse_append, List.reverse_append, List.map_append, List.map_append, hqr, hqr',
        Nat.zero_add]
      rfl
    have hkeys : (concatAll rs).groupCount = (keys T).length := by
      have h := hsegments.groupCount
      rwa [Nat.zero_max, Nat.zero_add] at h
    refine ⟨rfl, ?_, hx⟩
    rw [Pattern.groupCount, hx, concatAll, groupCount, groupCount_concatAll_append, hkeys]
    cases mode <;> simp [Pattern.isLoose, Mode.tail, Mode.regexes, concatAll, letters, Regex.optional, groupCount]
  · cases hr

theorem exists_regexes {T : Text} (hT : ∀ s ∈ segments T, s.Steady) :
    ∃ rs, (concatAll rs).assertionFree = true ∧ ∀ {mode r}, Route.compile T mode = .ok r →
      r.pattern.tail = mode.tail ∧ r.pattern.groupCount = (keys T).length ∧
      r.pattern.expression.regex = concatAll (.assert .textStart :: (rs ++ mode.regexes (keys T).length)) :=
  exists_regexes_of_renders fun s hs => Segment.exists_renders (hT s hs)

/-! ## Strict and loose routes -/

/-- Where a strict route may end, a loose one may. -/
theorem Mode.loose_ends {t : Text} (h : Mode.strict.ends t = true) : Mode.loose.ends t = true := by
  rcases strict_ends_iff.1 h with rfl | rfl <;> rfl

/-- Where a strict route may end in front of the start of a text, a loose one may in front of the whole text. -/
theorem Mode.loose_ends_of_take {t : Text} {k : Nat} (hk : k ≠ 0) (h : Mode.strict.ends (t.take k) = true) :
    Mode.loose.ends t = true := by
  obtain ⟨k, rfl⟩ := Nat.exists_eq_succ_of_ne_zero hk
  cases t with
  | nil => rfl
  | cons c t =>
    have hc : c = '/' := by
      rw [List.take_succ_cons, strict_ends_iff] at h
      rcases h with h | h
      · cases h
      · exact (List.cons.inj h).1
    simp [ends, hc]

/-- On the part of a path that a loose route takes, the strict one takes the same way first: an earlier way that
may end there would have ended in front of the rest of the path as well. -/
theorem find?_ways_take {r : Regex} (h : r.assertionFree = true) {path : Text} {q : Progress}
    (hq : (r.ways path ⟨0, []⟩).find? (fun q => Mode.loose.ends (q.rest path)) = some q) :
    (r.ways (path.take q.pos) ⟨0, []⟩).find? (fun p => Mode.strict.ends (p.rest (path.take q.pos))) = some q := by
  have hle : q.pos ≤ path.length := ((within_locate path r).forward (Nat.zero_le _) (List.mem_of_find?_eq_some hq)).2
  have hrest : ∀ p : Progress, p.rest (path.take q.pos) = (p.rest path).take (q.pos - p.pos) := fun p => List.drop_take
  rw [ways_take h hle (Nat.zero_le _), List.find?_filter]
  obtain ⟨hend, before, later, hsplit, hbefore⟩ := List.find?_eq_some_iff_append.1 hq
  refine List.find?_eq_some_iff_append.2 ⟨?_, before, later, hsplit, fun p hp => ?_⟩
  · rw [hrest, Nat.sub_self, List.take_zero]
    simp [Mode.ends]
  · have hloose : Mode.loose.ends (p.rest path) = false := by simpa using hbefore p hp
    rw [Bool.not_eq_true', decide_eq_false_iff_not, hrest, decide_eq_true_iff]
    rintro ⟨hpos, hstrict⟩
    rcases Nat.lt_or_eq_of_le hpos with hlt | heq
    · have := Mode.loose_ends_of_take (by omega) hstrict
      exact Bool.false_ne_true (hloose.symm.trans this)
    · have hsame : p.rest path = q.rest path := congrArg path.drop heq
      exact Bool.false_ne_true (hloose.symm.trans (hsame ▸ hend))

/-- What groups matched lies on the part of a path that a way has taken. -/
theorem textOf_take {path : Text} {spans : List Span} {k : Nat} (h : ∀ s ∈ spans, s.stop ≤ k) (i : Nat) :
    textOf (path.take k) spans i = textOf path spans i := by
  unfold textOf
  cases hs : spans.find? (·.group == i) with
  | none => rfl
  | some s =>
    have hstop := h s (List.mem_of_find?_eq_some hs)
    rw [Option.map_some, Option.map_some, List.take_take, Nat.min_eq_left hstop]

/-- The two modes of a template, where the texts that count as patterns stand on their own: without assertions
and changes of modes, suffixes without alternatives outside of groups. A path that the strict route matches is
matched by the loose one. What the loose route reports is the start of the path up to its end or to a slash; its last
group took part but is not visible; and the strict route matches the reported part with the same groups. -/
theorem exec_modes {T : Text} (hT : ∀ s ∈ segments T, s.Steady) {strict loose : Route}
    (hstrict : Route.compile T .strict = .ok strict) (hloose : Route.compile T .loose = .ok loose) (path : Text) :
    (strict.pattern.isMatch path = true → loose.pattern.isMatch path = true) ∧
    ∀ c, loose.pattern.exec path = some c →
      (c.matched ++ c.rest = path ∧ c.offset = Text.byteLength c.matched ∧ (c.rest = [] ∨ c.rest.head? = some '/')) ∧
      (c.count = (keys T).length ∧ c.groups.length = c.count ∧ (∀ i, c.count < i → c.get? i = none) ∧
        loose.pattern.expression.regex.groupCount = c.count + 1 ∧ (c.found.text? path (c.count + 1)).isSome = true) ∧
      ∃ c', strict.pattern.exec c.matched = some c' ∧ c'.matched = c.matched ∧ c'.count = c.count ∧
      c'.groups = c.groups := by
  obtain ⟨rs, hfree, hregexes⟩ := exists_regexes hT
  obtain ⟨htail, hcount, hx⟩ := hregexes hstrict
  have hs := exec_captures htail hx hcount
  obtain ⟨htail, hcount, hx⟩ := hregexes hloose
  have hl := exec_captures htail hx hcount
  have hlast := groupCount_of_loose htail hx hcount
  constructor
  · rw [isMatch_eq_isSome, isMatch_eq_isSome, hs, hl, Option.isSome_map, Option.isSome_map, List.find?_isSome,
      List.find?_isSome]
    rintro ⟨q, hq, hend⟩
    exact ⟨q, hq, Mode.loose_ends hend⟩
  · intro c hc
    rw [hl] at hc
    obtain ⟨q, hq, rfl⟩ := Option.map_eq_some_iff.1 hc
    have hend : path.drop q.pos = [] ∨ (path.drop q.pos).head? = some '/' := by
      have := List.find?_some hq
      rwa [Mode.ends, Bool.or_eq_true, beq_iff_eq, beq_iff_eq] at this
    refine ⟨⟨List.take_append_drop q.pos path, rfl, hend⟩, ⟨rfl, ?_, fun i hi => ?_, hlast, ?_⟩, ?_⟩
    · rw [Mode.groups_captures]
      simp [Mode.captures]
    · exact if_pos (by simp [hi])
    · simp [Mode.captures, Match.text?, Match.span?, Mode.finish, Progress.record]
    · have hfound : strict.pattern.exec (path.take q.pos) =
          some (Mode.strict.captures (keys T).length strict.pattern.expression.names (path.take q.pos) q) := by
        rw [hs, find?_ways_take hfree hq]
        rfl
      refine ⟨_, hfound, List.take_of_length_le (Nat.le_refl _), rfl, ?_⟩
      rw [Mode.groups_captures, Mode.groups_captures]
      have hstop := stop_le_of_mem_ways (List.mem_of_find?_eq_some hq)
      exact List.map_congr_left fun i _ => textOf_take hstop (i + 1)

/-- A matcher with alternatives, and a suffix with a group; the loose route stops in front of a slash. -/
theorem exec_modes_version : ∃ strict loose c c', Route.compile "/:v(a|b+).(x|y)*/:w?".toList .strict = .ok strict ∧
    Route.compile "/:v(a|b+).(x|y)*/:w?".toList .loose = .ok loose ∧ loose.pattern.exec "/bb.Xy/q/r".toList = some c ∧
    c.matched = "/bb.Xy/q".toList ∧ c.groups = [some "bb".toList, some "q".toList] ∧
    strict.pattern.exec c.matched = some c' ∧ c'.groups = c.groups := by
  have hsegments : segments "/:v(a|b+).(x|y)*/:w?".toList =
      [.param ⟨"v".toList, false, some "a|b+".toList, some ".(x|y)*".toList⟩,
        .param ⟨"w".toList, true, none, none⟩] := by decide
  have matcher : Reader.Steady "a|b+".toList := .of_setsModes rfl rfl (by decide)
  have suffix : Reader.Steady "(?:x|y)*".toList := .of_setsModes rfl rfl (by decide)
  have undivided : Undivided "(?:x|y)*".toList :=
    .of_reads (.step rfl rfl rfl (.step rfl rfl rfl (.step rfl rfl rfl (.step rfl rfl rfl (.step rfl rfl rfl
      (.step rfl rfl rfl .done)))))) rfl
  have hT : ∀ s ∈ segments "/:v(a|b+).(x|y)*/:w?".toList, s.Steady := by
    rw [hsegments]
    simp only [List.forall_mem_cons, List.not_mem_nil, false_imp_iff, implies_true, and_true]
    refine ⟨⟨fun m hm => ?_, fun s hs => ?_⟩, fun m hm => (by cases hm), fun s hs => (by cases hs)⟩
    · cases hm
      exact matcher
    · cases hs
      exact ⟨suffix, undivided⟩
  obtain ⟨strict, hstrict⟩ : ∃ r, Route.compile "/:v(a|b+).(x|y)*/:w?".toList .strict = .ok r := ⟨_, rfl⟩
  obtain ⟨loose, c, hloose, hc, hmatched, hgroups⟩ : ∃ loose c,
      Route.compile "/:v(a|b+).(x|y)*/:w?".toList .loose = .ok loose ∧
      loose.pattern.exec "/bb.Xy/q/r".toList = some c ∧ c.matched = "/bb.Xy/q".toList ∧
      c.groups = [some "bb".toList, some "q".toList] := ⟨_, _, rfl, rfl, by decide, by decide⟩
  obtain ⟨-, h⟩ := exec_modes hT hstrict hloose "/bb.Xy/q/r".toList
  obtain ⟨-, -, c', hc', -, -, hsame⟩ := h c hc
  exact ⟨strict, loose, c, c', hstrict, hloose, hc, hmatched, hgroups, hc', hsame⟩

end Template

end PathRouter
