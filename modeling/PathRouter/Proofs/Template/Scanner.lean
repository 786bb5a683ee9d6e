/-
The scanner of parameters finds in one pass what the grammar says, and cuts nothing in two. There is one invariant for
each place that it can be in: in the name (`Param.Scanner.run_name`), in parentheses (`run_inMatcher`) and behind both
(`run_behind`). Each says of any text that is left what the scanner will have found at its end.
-/
import PathRouter.Proofs.Template.Grammar
import PathRouter.Template.Scanner

namespace PathRouter.Param

variable {name : Text}

/-! ## The scanner -/

theorem withModifiers_mark (matcher : Option Text) (t : Text) :
    withModifiers name matcher ('?' :: t) = { withModifiers name matcher t with optional := true } := rfl

theorem withModifiers_dot (matcher : Option Text) (t : Text) :
    withModifiers name matcher ('.' :: t) = ⟨name, false, matcher, some ('.' :: t)⟩ := rfl

theorem withModifiers_cons {c : Char} (hmark : c ≠ '?') (hdot : c ≠ '.') (matcher : Option Text) (t : Text) :
    withModifiers name matcher (c :: t) = withModifiers name matcher t := by
  simp [withModifiers, hdot, hmark, Text.has]

namespace Scanner

/-- The scanner in parentheses. -/
def inMatcher (nameEnd start depth : Nat) : Scanner :=
  ⟨.matcher start depth, nameEnd, false, none, none⟩

/-- The scanner past name and matcher, before anything that modifies the parameter but question marks. -/
def behind (nameEnd : Nat) (optional : Bool) (matcher : Option Text) : Scanner :=
  ⟨.modifiers, nameEnd, optional, matcher, none⟩

/-- The scanner when nothing is left of the text. -/
def found (nameEnd : Nat) (optional : Bool) (matcher : Option Text) (tail : Text) : Scanner :=
  ⟨.modifiers, nameEnd, optional || (withModifiers [] none tail).optional, matcher, (withModifiers [] none tail).suffix⟩

variable {body front t outer inside more rest : Text} {c : Char} {s s' : Scanner} {nameEnd depth : Nat}
    {optional : Bool}
  {matcher : Option Text}

/-- Behind a character, the scanner is at the offset that is the length of the text up to there. -/
theorem run_next (h : s.step body (Text.byteLength front) c = some (.next s')) :
    run body (Text.byteLength front) (c :: t) s = run body (Text.byteLength (front ++ [c])) t s' := by
  rw [run, h, Text.byteLength_append, Text.byteLength_cons, Text.byteLength_nil, Nat.add_zero]

theorem run_stop (h : s.step body (Text.byteLength front) c = some (.stop s')) :
    run body (Text.byteLength front) (c :: t) s = some s' := by
  rw [run, h]

/-- Past name and matcher, the scanner finds what modifies the parameter. -/
theorem run_behind (hbody : body = front ++ t) :
    run body (Text.byteLength front) t (behind nameEnd optional matcher) = some (found nameEnd optional matcher t) := by
  induction t generalizing front optional with
  | nil => simp [run, behind, found, withModifiers, Text.has]
  | cons c t ih =>
    have hnext : body = (front ++ [c]) ++ t := by rw [hbody, List.append_assoc, List.singleton_append]
    by_cases hmark : c = '?'
    · subst hmark
      have hstep : step body (Text.byteLength front) '?' (behind nameEnd optional matcher) =
        some (.next (behind nameEnd true matcher)) := rfl
      rw [run_next hstep, ih hnext, found, found, withModifiers_mark, Bool.true_or, Bool.or_true]
    by_cases hdot : c = '.'
    · subst hdot
      have hstep : step body (Text.byteLength front) '.' (behind nameEnd optional matcher) =
          some (.stop (found nameEnd optional matcher ('.' :: t))) := by
        simp [step, behind, found, withModifiers_dot, hbody, Text.from?_append]
      rw [run_stop hstep]
    · have hstep : step body (Text.byteLength front) c (behind nameEnd optional matcher) =
          some (.next (behind nameEnd optional matcher)) := by
        simp [step, behind, hmark, hdot]
      rw [run_next hstep, ih hnext, found, found, withModifiers_cons hmark hdot]

/-- In parentheses, the scanner goes on at the depth that counting says. -/
theorem step_inMatcher (hclose : c ≠ ')' ∨ depth ≠ 0) {offset start : Nat} :
    ∃ d, step body offset c (inMatcher nameEnd start depth) = some (.next (inMatcher nameEnd start d)) ∧
      splitClosed depth (c :: t) = (splitClosed d t).map fun r => (c :: r.1, r.2) := by
  rw [splitClosed.eq_def]
  dsimp only
  by_cases hopen : c = '('
  · exact ⟨depth + 1, by simp [step, inMatcher, hopen], if_pos hopen⟩
  rw [if_neg hopen]
  by_cases hc : c = ')'
  · obtain ⟨d, rfl⟩ := Nat.exists_eq_succ_of_ne_zero (hclose.resolve_left fun h => h hc)
    exact ⟨d, by simp [step, inMatcher, hc], if_pos hc⟩
  · exact ⟨depth, by simp [step, inMatcher, hopen, hc], if_neg hc⟩

/-- In parentheses, the scanner finds where they are closed and what modifies the parameter behind them, or none of
it. -/
theorem run_inMatcher (hbody : body = outer ++ (inside ++ t)) :
    (∀ more rest, splitClosed depth t = some (more, rest) →
      run body (Text.byteLength (outer ++ inside)) t (inMatcher nameEnd (Text.byteLength outer) depth) =
        some (found nameEnd false (some (inside ++ more)) rest)) ∧
    (splitClosed depth t = none → ∃ d,
      run body (Text.byteLength (outer ++ inside)) t (inMatcher nameEnd (Text.byteLength outer) depth) =
        some (inMatcher nameEnd (Text.byteLength outer) d)) := by
  induction t generalizing inside depth with
  | nil => exact ⟨fun more rest h => (by cases h), fun _ => ⟨depth, rfl⟩⟩
  | cons c t ih =>
    have hnext : body = outer ++ ((inside ++ [c]) ++ t) := by
      rw [hbody, List.append_assoc inside, List.singleton_append]
    by_cases hclose : c ≠ ')' ∨ depth ≠ 0
    · obtain ⟨d, hstep, hsplit⟩ := step_inMatcher (t := t) hclose
      obtain ⟨hclosed, hopen⟩ := @ih (inside ++ [c]) d hnext
      rw [run_next hstep, hsplit, List.append_assoc]
      refine ⟨fun more rest h => ?_, fun h => hopen (Option.map_eq_none_iff.1 h)⟩
      obtain ⟨⟨m, r⟩, hm, heq⟩ := Option.map_eq_some_iff.1 h
      cases heq
      rw [hclosed m r hm, List.append_assoc, List.singleton_append]
    · -- This one closes the parentheses that the matcher stands in.
      obtain ⟨rfl, rfl⟩ : c = ')' ∧ depth = 0 := by simpa using hclose
      have hpart : Text.slice? body (Text.byteLength outer) (Text.byteLength (outer ++ inside)) = some inside := by
        rw [hbody]
        exact Text.slice?_append outer inside (')' :: t)
      have hstep : step body (Text.byteLength (outer ++ inside)) ')' (inMatcher nameEnd (Text.byteLength outer) 0) =
          some (.next (behind nameEnd false (some inside))) := by
        rw [step]
        simp only [inMatcher, hpart]
        rfl
      refine ⟨fun more rest h => ?_, fun h => (by cases h)⟩
      cases h
      rw [run_next hstep, run_behind (by rw [hnext]; simp), List.append_nil]

theorem slice?_name {name : Text} (hbody : body = name ++ t) :
    Text.slice? body 0 (Text.byteLength name) = some name := by
  rw [hbody]
  exact Text.slice?_append [] name t

theorem finish_found {name : Text} (hbody : body = name ++ t) (tail : Text) :
    finish body (found (Text.byteLength name) optional matcher tail) =
      some { withModifiers name matcher tail with optional := optional || (withModifiers [] none tail).optional } := by
  rw [finish, found, slice?_name hbody]
  rfl

/-- In the name, the scanner finds the parameter. -/
theorem run_name (hbody : body = front ++ t) (hfront : NameText front) :
    (run body (Text.byteLength front) t (start body)).bind (finish body) = some (parse body) := by
  induction t generalizing front with
  | nil =>
    have hparse : parse (front ++ []) = withModifiers front none [] := parse_plain hfront nofun nofun
    rw [List.append_nil] at hparse
    rw [run, Option.bind_some, finish, start, slice?_name (List.append_nil body).symm, hbody, List.append_nil, hparse]
    rfl
  | cons c t ih =>
    have hnext : body = (front ++ [c]) ++ t := by rw [hbody, List.append_assoc, List.singleton_append]
    by_cases hopen : c = '('
    · subst hopen
      have hstep : step body (Text.byteLength front) '(' (start body) =
          some (.next (inMatcher (Text.byteLength front) (Text.byteLength (front ++ ['('])) 0)) := by
        rw [Text.byteLength_append]
        rfl
      obtain ⟨hclosed, hunclosed⟩ := @run_inMatcher body t (front ++ ['(']) [] (Text.byteLength front) 0 hnext
      rw [List.append_nil] at hclosed hunclosed
      rw [run_next hstep]
      cases hsplit : splitClosed 0 t with
      | some r =>
        rw [hclosed r.1 r.2 hsplit, Option.bind_some, finish_found hbody, hbody, parse_closed hfront hsplit]
        rfl
      | none =>
        obtain ⟨d, hd⟩ := hunclosed hsplit
        have hrest : Text.from? body (Text.byteLength (front ++ ['('])) = some t := by
          rw [hnext]
          exact Text.from?_append _ t
        rw [hd, Option.bind_some, finish, inMatcher]
        simp only [hrest, slice?_name hbody]
        rw [hbody, parse_unclosed hfront hsplit]
        rfl
    by_cases hmark : c = '?'
    · subst hmark
      have hstep : step body (Text.byteLength front) '?' (start body) =
        some (.next (behind (Text.byteLength front) true none)) := rfl
      rw [run_next hstep, run_behind hnext, Option.bind_some, finish_found hbody, hbody,
        parse_plain hfront (fun c hc => by rw [← Option.some.inj hc]; rfl) (fun h => by cases h), withModifiers_mark]
      rfl
    by_cases hdot : c = '.'
    · subst hdot
      have hrest : Text.from? body (Text.byteLength front) = some ('.' :: t) := by
        rw [hbody]
        exact Text.from?_append front _
      have hstep : step body (Text.byteLength front) '.' (start body) =
          some (.stop ⟨.name, Text.byteLength front, false, none, some ('.' :: t)⟩) := by
        simp [step, start, hrest]
      rw [run_stop hstep, Option.bind_some, finish, slice?_name hbody, hbody,
        parse_plain hfront (fun c hc => by rw [← Option.some.inj hc]; rfl) (fun h => by cases h), withModifiers_dot]
      rfl
    · have hstep : step body (Text.byteLength front) c (start body) = some (.next (start body)) := by
        simp [step, start, hopen, hmark, hdot]
      rw [run_next hstep]
      exact ih hnext (List.forall_mem_append.2 ⟨hfront, List.forall_mem_singleton.2 ⟨hopen, hmark, hdot⟩⟩)

end Scanner

theorem scan?_eq (body : Text) : scan? body = some (parse body) :=
  @Scanner.run_name body [] body rfl (List.forall_mem_nil _)

/-- The scanner never cuts inside a character, and finds the parameter that the text is written for; there is no other.
Only parentheses directly behind the name are those of a matcher, so none behind a question mark are. What the suffix
holds behind its dot counts for nothing else, question marks among it. -/
theorem scan?_written (body : Text) :
    scan? body = some (parse body) ∧ (∀ p, Written body p ↔ p = parse body) ∧
    (∀ matcher, (parse body).matcher = some matcher →
      '?' ∉ (parse body).name ∧ ∃ rest, body = (parse body).name ++ '(' :: (matcher ++ rest)) ∧
    ∀ front suffix, (parse body).suffix = some suffix → body = front ++ suffix →
      ∀ ext, parse (front ++ '.' :: ext) = { parse body with suffix := some ('.' :: ext) } := by
  refine ⟨scan?_eq body, fun p => written_iff, fun matcher hmatcher => ?_, fun front suffix hsuffix hbody ext => ?_⟩
  · obtain ⟨hname, tail, hbody, hfollows⟩ := written_iff.2 (rfl : parse body = parse body)
    refine ⟨fun hmark => (hname.text '?' hmark).2.1 rfl, ?_⟩
    rcases hfollows with ⟨-, hnone, -⟩ | ⟨inside, behind, rfl, -, hsome, -⟩ | ⟨rest, rfl, -, hsome, -⟩
    · cases hmatcher.symm.trans hnone
    · cases hmatcher.symm.trans hsome
      exact ⟨')' :: behind, hbody⟩
    · cases hmatcher.symm.trans hsome
      exact ⟨[], by rwa [List.append_nil]⟩
  · obtain ⟨name, tail, heq, hname, hend⟩ := exists_name body
    have hsame : (parse body).name = name := heq ▸ name_parse hname hend
    have hfollows : Follows tail (parse body) := (follows_iff (hsame.symm ▸ hname) hend).2 (by rw [hsame, ← heq])
    obtain ⟨before, rfl, hreplace⟩ := hfollows.replace hsuffix
    obtain rfl : front = name ++ before := List.append_cancel_right (by rw [← hbody, heq, List.append_assoc])
    have hend' : Ends (before ++ '.' :: ext) := by
      intro c hc
      rcases head?_append_dot before suffix ext with h | h
      · rw [h] at hc
        cases hc
        rfl
      · exact hend c (h ▸ hc)
    have hparse := (follows_iff (p := { parse body with suffix := some ('.' :: ext) }) (hsame.symm ▸ hname)
      hend').1 (hreplace ext)
    rw [List.append_assoc, ← hsame]
    exact hparse.symm

/-- Letters of two bytes, nested parentheses, stray text, and a question mark on both sides of the dot. -/
theorem scan?_written_nested : scan? "é((a)b)é?x.ü?".toList =
      some ⟨['é'], true, some "(a)b".toList, some ".ü?".toList⟩ ∧
    parse "é((a)b)é?x.?(".toList = ⟨['é'], true, some "(a)b".toList, some ".?(".toList⟩ := by
  have hparse : parse "é((a)b)é?x.ü?".toList = ⟨['é'], true, some "(a)b".toList, some ".ü?".toList⟩ := by decide
  obtain ⟨hscan, -, -, hsuffix⟩ := scan?_written "é((a)b)é?x.ü?".toList
  rw [hparse] at hscan hsuffix
  exact ⟨hscan, hsuffix "é((a)b)é?x".toList ".ü?".toList rfl rfl "?(".toList⟩

end PathRouter.Param
