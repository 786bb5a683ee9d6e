/-
A matcher of a parameter means itself (`compile_ofMatcher`). The rewriting takes its groups away, which
changes nothing in what it matches, and what stands behind the slash of a path is matched like a
text of its own.
-/
import PathRouter.Proofs.Template.Spread
import PathRouter.Proofs.Template.Uncounted

namespace PathRouter

/-! ## A route with one matcher -/

namespace Template

open Regex Regex.Reader

/-- The template of a parameter with a matcher. -/
def ofMatcher (p : Text) : Text :=
  "/:x(".toList ++ p ++ [')']

/-- The expression of a route whose only parameter has the matcher `r`. -/
def matcherRegex (r : Regex) : Regex :=
  concatAll (.assert .textStart :: (behindSlash (.group 1 r) ++ Mode.strict.regexes 1))

/-- How deep the expression of a text nests. -/
def nesting (t : Text) : Nat :=
  match Reader.run t.length (.start true) t with
  | .ok b => b.body.height
  | .error _ => 0

theorem segments_ofMatcher {p : Text} (hs : '/' ∉ p) (hc : Param.splitClosed 0 (p ++ [')']) = some (p, [])) :
    segments (ofMatcher p) = [.param ⟨['x'], false, some p, none⟩] := by
  have hsplit : Text.split '/' (":x(".toList ++ (p ++ [')'])) = [":x(".toList ++ (p ++ [')'])] := by
    refine Text.split_of_not_mem ?_
    rw [List.mem_append, List.mem_append]
    rintro (h | h | h)
    · exact absurd h (by decide)
    · exact hs h
    · exact absurd h (by decide)
  have hparse : Segment.parse (":x(".toList ++ (p ++ [')'])) = .param ⟨['x'], false, some p, none⟩ := by
    have hname : Param.parse ("x(".toList ++ (p ++ [')'])) = Param.withModifiers ['x'] (some p) [] := by
      rw [Param.parse, show ("x(".toList ++ (p ++ [')'])).dropWhile (!Param.endsName ·) = '(' :: (p ++ [')']) from rfl]
      simp only [hc]
      rfl
    exact congrArg Segment.param hname
  rw [segments, pieces, ofMatcher, List.append_assoc, show "/:x(".toList = '/' :: ":x(".toList from rfl,
    List.cons_append,
    Text.split, if_pos rfl, hsplit, List.map_singleton, hparse]

theorem source_ofMatcher {p : Text} (hs : '/' ∉ p) (hc : Param.splitClosed 0 (p ++ [')']) = some (p, [])) :
    source (ofMatcher p) .strict = "^/(".toList ++ (uncounted p ++ ")/?$".toList) := by
  rw [source, body, segments_ofMatcher hs hc, List.flatMap_singleton, Segment.source_param]
  show '^' :: ("/(".toList ++ uncounted p ++ ")".toList) ++ "/?$".toList = _
  simp

theorem keys_ofMatcher {p : Text} (hs : '/' ∉ p) (hc : Param.splitClosed 0 (p ++ [')']) = some (p, [])) :
    keys (ofMatcher p) = [['x']] := by
  rw [keys, segments_ofMatcher hs hc]
  rfl

/-- The pattern text around a matcher is read as the expression around its expression without groups. -/
theorem reads_ofMatcher {p : Text} {b : Reader} (h : Reads (.start true) p b []) (ho : b.outer = [])
    (hv : b.flags.verbose = false) (hk : KeepsClasses (.start true) p) :
    Reads (.start true) ("^/(".toList ++ (uncounted p ++ ")/?$".toList)) ⟨routeFlags, 1, [],
      [.leaf (.assert .textEnd), ⟨Regex.optional (.chars (Unicode.sameFold '/')), 1, false⟩,
        ⟨.group 1 b.body.regex.bare, 1 + b.body.height, false⟩, .leaf (.chars (Unicode.sameFold '/')),
        .leaf (.assert .textStart)], [], []⟩ [] := by
  have hr : Reads ((Reader.start true).bare 1) (uncounted p) (b.bare 1) [] := h.uncounted 1 rfl hk
  have group : Reads ⟨routeFlags, 0, [], [.leaf (.chars (Unicode.sameFold '/')), .leaf (.assert .textStart)], [], []⟩
      ('(' :: (uncounted p ++ ')' :: "/?$".toList))
        ⟨routeFlags, 1, [], [⟨.group 1 (b.bare 1).body.regex, 1 + (b.bare 1).body.height, false⟩,
        .leaf (.chars (Unicode.sameFold '/')), .leaf (.assert .textStart)], [], []⟩ "/?$".toList :=
    hr.group (by rw [Reader.bare, ho]; rfl) rfl hv _
  rw [body_bare] at group
  exact .step rfl rfl rfl (.step rfl rfl rfl
    (group.trans (.step rfl rfl rfl (.step rfl rfl rfl (.step rfl rfl rfl .done)))))

/-- The pattern text around a matcher is a pattern, unless that nests too deep or is too large. -/
theorem parse_ofMatcher {p : Text} {e : Expression} (hp : Accepted true p) (he : Expression.parse true p = .ok e)
    (hs : '/' ∉ p) (hc : Param.splitClosed 0 (p ++ [')']) = some (p, [])) (hk : KeepsClasses (.start true) p) :
    Expression.parse true (source (ofMatcher p) .strict) =
      if maxHeight < nesting p + 2 then .error .tooDeep
      else if maxSize < frameSize + (matcherRegex e.regex.bare).leastSize then .error .tooLarge
      else .ok ⟨source (ofMatcher p) .strict, matcherRegex e.regex.bare, []⟩ := by
  obtain ⟨b, hb, hfin⟩ := hp.exists_finish he
  obtain ⟨ho, -, -, hx⟩ := finish_eq_ok hfin
  have hnest : nesting p = b.body.height := by rw [nesting, hb.run_nil]
  have hheight : 1 + [0, 1, 1 + b.body.height, 0, 0].foldl max 0 = nesting p + 2 := by
    rw [hnest]
    simp
    omega
  have hbody : Reader.body ⟨routeFlags, 1, [],
      [.leaf (.assert .textEnd), ⟨Regex.optional (.chars (Unicode.sameFold '/')), 1, false⟩,
      ⟨.group 1 b.body.regex.bare, 1 + b.body.height, false⟩, .leaf (.chars (Unicode.sameFold '/')),
      .leaf (.assert .textStart)], [], []⟩ = ⟨matcherRegex e.regex.bare, nesting p + 2, false⟩ := by
    rw [hx, ← hheight]
    rfl
  rw [source_ofMatcher hs hc, (reads_ofMatcher hb ho (hp.2 b [] hb) hk).parse, finish_eq rfl, hbody]
  dsimp only
  split
  · rfl
  · split <;> rfl

/-- The route of a template with one matcher, unless its pattern nests too deep or is too large. -/
theorem compile_eq_ofMatcher {p : Text} {e : Expression} (hp : Accepted true p) (he : Expression.parse true p = .ok e)
    (hs : '/' ∉ p) (hc : Param.splitClosed 0 (p ++ [')']) = some (p, [])) (hk : KeepsClasses (.start true) p) :
    Route.compile (ofMatcher p) .strict =
      if maxHeight < nesting p + 2 then .error ⟨ofMatcher p, .tooDeep⟩
      else if maxSize < frameSize + (matcherRegex e.regex.bare).leastSize then .error ⟨ofMatcher p, .tooLarge⟩
      else .ok ⟨.named ["x".toList], ⟨⟨source (ofMatcher p) .strict, matcherRegex e.regex.bare, []⟩, .strict⟩⟩ := by
  rw [Route.compile, parse_ofMatcher hp he hs hc hk, keys_ofMatcher hs hc]
  by_cases hdeep : maxHeight < nesting p + 2
  · rw [if_pos hdeep, if_pos hdeep]
  · by_cases hlarge : maxSize < frameSize + (matcherRegex e.regex.bare).leastSize
    · rw [if_neg hdeep, if_neg hdeep, if_pos hlarge, if_pos hlarge]
    · rw [if_neg hdeep, if_neg hdeep, if_neg hlarge, if_neg hlarge]
      rfl

/-- Behind the slash of a path, the expression of a route with one matcher matches what the matcher does,
and a slash behind it. -/
theorem isMatch_matcherRegex_iff {r : Regex} (h : r.assertionFree = true) {w : Text} :
    (matcherRegex r).isMatch ('/' :: w) = true ↔ r.Matches w ∨ ∃ v, w = v ++ ['/'] ∧ r.Matches v := by
  have slashed : ways (concatAll (behindSlash (.group 1 r))) ('/' :: w) ⟨0, []⟩ =
      (r.ways ('/' :: w) ⟨1, []⟩).map (·.record 1 1) := by
    have hslash : startsLike ['/'] (Progress.rest ⟨0, []⟩ ('/' :: w)) = true := by simp [Progress.rest, startsLike]
    rw [behindSlash, ways_concatAll_append, ways_letters, if_pos hslash, List.flatMap_singleton,
      ways_concatAll_singleton,
      ways_group]
    rfl
  have ends : (∃ q, q ∈ ways (concatAll (behindSlash (.group 1 r) ++ Mode.strict.regexes 1)) ('/' :: w) ⟨0, []⟩) ↔
      ∃ q ∈ r.ways ('/' :: w) ⟨1, []⟩, Mode.strict.ends (('/' :: w).drop q.pos) = true := by
    rw [ways_append_ending, slashed]
    simp only [List.mem_flatMap, List.mem_map]
    constructor
    · rintro ⟨_, _, ⟨q, hq, rfl⟩, hend⟩
      refine ⟨q, hq, ?_⟩
      by_contra hne
      rw [if_neg (by exact hne)] at hend
      cases hend
    · rintro ⟨q, hq, hend⟩
      refine ⟨Mode.strict.finish 1 ('/' :: w) (q.record 1 1), _, ⟨q, hq, rfl⟩, ?_⟩
      rw [if_pos (by exact hend)]
      exact List.mem_singleton_self _
  have way : ∀ j, (∃ q ∈ r.ways ('/' :: w) ⟨1, []⟩, q.pos = j) ↔ ∃ v, r.Matches v ∧ v <+: w ∧ 1 + v.length = j :=
    fun j => exists_way_iff h (Nat.succ_le_succ (Nat.zero_le _))
  have drop : ∀ v u : Text, ('/' :: (v ++ u)).drop (1 + v.length) = u := fun v u => by
    rw [Nat.add_comm, List.drop_succ_cons, List.drop_left]
  rw [matcherRegex, concatAll, isMatch_textStart_iff, ends]
  constructor
  · rintro ⟨q, hq, hend⟩
    obtain ⟨v, hv, ⟨u, rfl⟩, hlen⟩ := (way q.pos).1 ⟨q, hq, rfl⟩
    rw [← hlen, drop] at hend
    rcases Mode.strict_ends_iff.1 hend with rfl | rfl
    · exact .inl (by rwa [List.append_nil])
    · exact .inr ⟨v, rfl, hv⟩
  · have back : ∀ {v u}, r.Matches v → Mode.strict.ends u = true → v ++ u = w →
        ∃ q ∈ r.ways ('/' :: w) ⟨1, []⟩, Mode.strict.ends (('/' :: w).drop q.pos) = true := by
      rintro v u hv hu rfl
      obtain ⟨q, hq, hpos⟩ := (way _).2 ⟨v, hv, List.prefix_append v u, rfl⟩
      exact ⟨q, hq, by rwa [hpos, drop]⟩
    rintro (hw | ⟨v, rfl, hv⟩)
    · exact back hw rfl (List.append_nil w)
    · exact back hv rfl rfl

/-- A matcher means itself, unless the pattern with it nests too deep or is too large: behind a slash, its
route matches what the matcher does as a whole, and that with a slash behind it. What is asked of the matcher is
that its parentheses, counted wherever they stand, are closed, and that the rewriting leaves its classes
in place. -/
theorem compile_ofMatcher {p : Text} {e : Expression} (hp : Accepted true p) (he : Expression.parse true p = .ok e)
    (ha : e.regex.assertionFree = true) (hs : '/' ∉ p) (hc : Param.splitClosed 0 (p ++ [')']) = some (p, []))
    (hk : KeepsClasses (.start true) p) :
    (maxHeight < nesting p + 2 → Route.compile (ofMatcher p) .strict = .error ⟨ofMatcher p, .tooDeep⟩) ∧
    (nesting p + 2 ≤ maxHeight →
      (maxSize < frameSize + (matcherRegex e.regex.bare).leastSize →
        Route.compile (ofMatcher p) .strict = .error ⟨ofMatcher p, .tooLarge⟩) ∧
      ∀ cause, Route.compile (ofMatcher p) .strict = .error cause → cause = ⟨ofMatcher p, .tooLarge⟩) ∧
    ∀ r, Route.compile (ofMatcher p) .strict = .ok r → r.keys = .named ["x".toList] ∧
      ∀ w, r.pattern.isMatch ('/' :: w) = true ↔
        e.regex.anchored.isMatch w = true ∨ ∃ v, w = v ++ ['/'] ∧ e.regex.anchored.isMatch v = true := by
  have hcompile := compile_eq_ofMatcher hp he hs hc hk
  refine ⟨fun hdeep => by rw [hcompile, if_pos hdeep], fun hflat => ?_, fun r hr => ?_⟩
  · rw [if_neg (Nat.not_lt.2 hflat)] at hcompile
    refine ⟨fun hlarge => by rw [hcompile, if_pos hlarge], fun cause hcause => ?_⟩
    rw [hcompile] at hcause
    split at hcause
    · exact (Except.error.inj hcause).symm
    · cases hcause
  · obtain rfl : r = ⟨.named ["x".toList],
        ⟨⟨source (ofMatcher p) .strict, matcherRegex e.regex.bare, []⟩, .strict⟩⟩ := by
      rw [hcompile] at hr
      split at hr
      · cases hr
      · split at hr
        · cases hr
        · exact (Except.ok.inj hr).symm
    refine ⟨rfl, fun w => ?_⟩
    show (matcherRegex e.regex.bare).isMatch ('/' :: w) = true ↔ _
    rw [isMatch_matcherRegex_iff ((assertionFree_bare _).trans ha), matches_bare]
    simp only [isMatch_anchored_iff ha]

/-- A matcher with a group and a class. -/
theorem compile_ofMatcher_class : ∃ r, Route.compile "/:x((a|b)?[d-f]+)".toList .strict = .ok r ∧
    r.keys = .named ["x".toList] ∧ r.pattern.isMatch "/bE/".toList = true := by
  have hp : Accepted true "(a|b)?[d-f]+".toList :=
    .of_reads (.step rfl rfl rfl (.step rfl rfl rfl (.step rfl rfl rfl (.step rfl rfl rfl (.step rfl rfl rfl
      (.step rfl rfl rfl (.step rfl rfl rfl (.step rfl rfl rfl .done)))))))) rfl ⟨_, rfl⟩
  have hk : KeepsClasses (.start true) "(a|b)?[d-f]+".toList :=
    keepsClasses_append (x := "(a|b)?".toList) (y := "[d-f]+".toList) (by decide) (by decide) _
  obtain ⟨e, he, ha, hmatch⟩ : ∃ e, Expression.parse true "(a|b)?[d-f]+".toList = .ok e ∧
      e.regex.assertionFree = true ∧ e.regex.anchored.isMatch "bE".toList = true := ⟨_, rfl, rfl, by decide⟩
  obtain ⟨r, hr⟩ : ∃ r, Route.compile (ofMatcher "(a|b)?[d-f]+".toList) .strict = .ok r := ⟨_, rfl⟩
  obtain ⟨hkeys, h⟩ := (compile_ofMatcher hp he ha (by decide) (by decide) hk).2.2 r hr
  exact ⟨r, hr, hkeys, (h "bE/".toList).2 (.inr ⟨"bE".toList, rfl, hmatch⟩)⟩

/-- Three matchers that are patterns on their own. An escaped parenthesis counts for where the matcher is
closed; the bracket of an inner class ends the whole class for the rewriting, which takes what follows for a
group; and the pattern around a matcher has a size of its own. -/
theorem compile_ofMatcher_escaped :
    (Accepted true "\\)".toList ∧ Route.compile "/:x(\\))".toList .strict =
      .error ⟨"/:x(\\))".toList, .groupUnclosed⟩) ∧
    (Accepted true "[[a](?<)]y>".toList ∧ Route.compile "/:x([[a](?<)]y>)".toList .strict =
      .error ⟨"/:x([[a](?<)]y>)".toList, .classUnclosed⟩) ∧
    (Accepted true "1{327672}".toList ∧ Route.compile "/:x(1{327672})".toList .strict =
      .error ⟨"/:x(1{327672})".toList, .tooLarge⟩) := by
  refine ⟨⟨?_, ?_⟩, ⟨?_, ?_⟩, ?_, ?_⟩
  · exact .of_reads (.step rfl rfl rfl .done) rfl ⟨_, rfl⟩
  · rfl
  · exact .of_reads (.step rfl rfl rfl (.step rfl rfl rfl (.step rfl rfl rfl .done))) rfl ⟨_, rfl⟩
  · rfl
  · exact .of_reads (.step rfl rfl rfl (.step rfl rfl rfl .done)) rfl ⟨_, rfl⟩
  · rfl

end Template

end PathRouter
