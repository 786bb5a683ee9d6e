/-
Links. Injection makes a path of a template as it is written, while a route passes over its empty segments. The
two agree on templates that are spelled like paths (`Template.Spelled`), also where values of optional segments are
missing: the segments fit on the path that is made of them (`Template.Spelled.fits`), and what they denote covers it,
dots in extensions included (`Template.isMatch_inject`). A rigid template that is spelled in another way makes paths
that its route does not match (`Template.exec_inject_rigid`).
-/
import PathRouter.Proofs.Template.Dotted
import PathRouter.Proofs.Template.Modes
import PathRouter.Proofs.Template.Nest

namespace PathRouter

open Regex

/-! ## Two separators in a row -/

namespace Text

variable {sep : Char}

theorem not_double_nil : ¬ [sep, sep] <:+: [] := fun h => by cases List.infix_nil.1 h

/-- Two separators in a row are not in a part without separators. -/
theorem double_append_iff {p t : Text} (h : sep ∉ p) : [sep, sep] <:+: p ++ t ↔ [sep, sep] <:+: t := by
  induction p with
  | nil => rfl
  | cons c p ih =>
    have front : ¬ [sep, sep] <+: c :: (p ++ t) := fun hp => h ((List.cons_prefix_cons.1 hp).1 ▸ List.mem_cons_self)
    rw [List.cons_append, List.infix_cons_iff, or_iff_right front, ih fun hp => h (List.mem_cons_of_mem c hp)]

/-- Behind separators, two are in a row where a part that is not the last one is empty. -/
theorem double_flatMap_iff {f : Text → Text} : ∀ {ps : List Text}, (∀ p ∈ ps, sep ∉ f p) →
    ([sep, sep] <:+: ps.flatMap (sep :: f ·) ↔ ∃ p ∈ ps.dropLast, f p = [])
  | [], _ => ⟨fun h => absurd h not_double_nil, fun ⟨p, hp, _⟩ => by cases hp⟩
  | [p], h => by
    have hp := h p List.mem_cons_self
    have front : ¬ [sep, sep] <+: sep :: f p := fun hp' =>
      hp ((List.cons_prefix_cons.1 hp').2.subset List.mem_cons_self)
    rw [List.flatMap_singleton, List.infix_cons_iff, or_iff_right front, ← List.append_nil (f p), double_append_iff hp]
    exact ⟨fun h => absurd h not_double_nil, fun ⟨q, hq, _⟩ => by cases hq⟩
  | p :: q :: ps, h => by
    have hp := h p List.mem_cons_self
    have front : [sep, sep] <+: sep :: (f p ++ (q :: ps).flatMap (sep :: f ·)) ↔ f p = [] := by
      rw [List.cons_prefix_cons, List.flatMap_cons, List.cons_append]
      cases hf : f p with
      | nil => simp
      | cons c t =>
        have hc : sep ≠ c := fun hc => hp (hf ▸ hc ▸ List.mem_cons_self)
        simp [List.cons_prefix_cons, hc]
    rw [List.flatMap_cons, List.cons_append, List.infix_cons_iff, front, double_append_iff hp,
      double_flatMap_iff fun p' hp' => h p' (List.mem_cons_of_mem p hp'), List.dropLast_cons_cons]
    simp

end Text

/-! ## Templates spelled like paths -/

/-- Optional segments without a suffix whose values are missing. -/
def Segment.Spares (values : Values) : Segment → Prop
  | empty | literal _ => False
  | param p => values.text? p.name = none ∧ p.optional = true ∧ p.suffix = none
  | wildcard o => values.text? Template.wildcardKey = none ∧ o = true

/-- The parameters that have the texts of the values. -/
def Values.params (values : Values) (keys : List Text) : Params where
  entries := keys.map fun key => (key, (values.text? key).getD [])

namespace Template

variable {values : Values}

/-- The template begins with a slash, or with a parameter, which brings one, and has no two slashes in a row. -/
structure Spelled (T : Text) : Prop where
  begins : ∀ c ∈ T.head?, c = '/' ∨ c = ':'
  single : ¬ ['/', '/'] <:+: T

theorem pieces_cons_slash (t : Text) : pieces ('/' :: t) = Text.split '/' t := by
  rw [pieces, Text.split, if_pos rfl]

/-- Behind a slash, the template is its pieces, each with a slash in front. -/
theorem flatMap_pieces (t : Text) : (pieces ('/' :: t)).flatMap ('/' :: ·) = '/' :: t := by
  obtain ⟨p, ps, hp⟩ := List.exists_cons_of_ne_nil (Text.split_ne_nil '/' t)
  rw [pieces_cons_slash, hp, List.flatMap_cons, List.cons_append, Text.append_flatMap_split hp]

theorem inject_cons_slash (t : Text) :
    inject ('/' :: t) values = (pieces ('/' :: t)).flatMap (injectPiece values ['/']) := by
  rw [inject, pieces_cons_slash, Text.split, if_pos rfl]
  rfl

theorem single_iff {t : Text} : ¬ ['/', '/'] <:+: '/' :: t ↔ ∀ p ∈ (pieces ('/' :: t)).dropLast, p ≠ [] := by
  have h := @Text.double_flatMap_iff '/' (fun p => p) (pieces ('/' :: t)) fun p hp => slash_not_mem_piece hp
  rw [flatMap_pieces] at h
  rw [h]
  exact ⟨fun hne p hp he => hne ⟨p, hp, he⟩, fun hall ⟨p, hp, he⟩ => hall p hp he⟩

/-- A template that begins with a parameter is the same with a slash in front. -/
theorem segments_cons_colon (t : Text) : segments ('/' :: ':' :: t) = segments (':' :: t) := by
  obtain ⟨p, ps, -, hs⟩ := @Text.split_cons_of_ne '/' ':' t (by decide)
  rw [segments, segments, pieces_cons_slash, pieces, hs]

theorem inject_cons_colon (t : Text) : inject ('/' :: ':' :: t) values = inject (':' :: t) values := by
  obtain ⟨p, ps, -, hs⟩ := @Text.split_cons_of_ne '/' ':' t (by decide)
  rw [inject_cons_slash, pieces_cons_slash, inject, hs]
  rfl

theorem Spelled.cons_slash {t : Text} (h : Spelled (':' :: t)) : Spelled ('/' :: ':' :: t) := by
  refine ⟨fun c hc => .inl (Option.some.inj hc).symm, ?_⟩
  rw [List.infix_cons_iff]
  rintro (hp | hi)
  · cases (List.cons_prefix_cons.1 (List.cons_prefix_cons.1 hp).2).1
  · exact h.single hi

/-! ## Paths of templates spelled like paths -/

/-- What a piece adds to a path: an empty one leaves it as it is. -/
def part (values : Values) (p : Text) : Text :=
  if p = [] then [] else injectPiece values ['/'] p

/-- Of pieces of which none but the last is empty, the path has the parts, and the slash of an empty one. -/
theorem exists_flatMap_part : ∀ {ps : List Text}, (∀ p ∈ ps.dropLast, p ≠ []) →
    ∃ u, ps.flatMap (injectPiece values ['/']) = ps.flatMap (part values) ++ u ∧ Mode.strict.ends u = true
  | [], _ => ⟨[], rfl, rfl⟩
  | [p], _ => by
    rw [List.flatMap_singleton, List.flatMap_singleton, part]
    by_cases hp : p = []
    · subst hp
      exact ⟨['/'], rfl, rfl⟩
    · rw [if_neg hp]
      exact ⟨[], (List.append_nil _).symm, rfl⟩
  | p :: q :: ps, h => by
    rw [List.dropLast_cons_cons, List.forall_mem_cons] at h
    obtain ⟨u, heq, hu⟩ := exists_flatMap_part h.2
    refine ⟨u, ?_, hu⟩
    rw [List.flatMap_cons, heq, ← List.append_assoc, @List.flatMap_cons _ _ p, part, if_neg h.1]

/-- A template that is spelled like a path makes a path of the parts of its pieces, and perhaps a slash. -/
theorem Spelled.exists_parts {T : Text} (h : Spelled T) (values : Values) :
    ∃ (ps : List Text) (u : Text), segments T = ps.map Segment.parse ∧ inject T values = ps.flatMap (part values) ++ u ∧
      Mode.strict.ends u = true := by
  have slashed : ∀ {t}, Spelled ('/' :: t) → ∃ u,
      inject ('/' :: t) values = (pieces ('/' :: t)).flatMap (part values) ++ u ∧ Mode.strict.ends u = true := by
    intro t h
    rw [inject_cons_slash]
    exact exists_flatMap_part (single_iff.1 h.single)
  cases T with
  | nil => exact ⟨[], [], rfl, rfl, rfl⟩
  | cons c t =>
    rcases h.begins c rfl with rfl | rfl
    · obtain ⟨u, hu⟩ := slashed h
      exact ⟨_, u, rfl, hu⟩
    · obtain ⟨u, hu⟩ := slashed h.cons_slash
      rw [inject_cons_colon] at hu
      exact ⟨_, u, (segments_cons_colon t).symm, hu⟩

/-- A segment takes what its piece makes of values, also if its own value may be missing. -/
theorem takes_part {p : Text} (hs : (Segment.parse p).Plain)
    (h : (Segment.parse p).Accepts values ∨ (Segment.parse p).Spares values) :
    (Segment.parse p).Takes ((Segment.parse p).keys.map values.text?) (part values p) := by
  by_cases hne : p = []
  · subst hne
    exact .empty
  rw [part, if_neg hne]
  rcases h with h | h
  · rw [injectPiece_eq hne h]
    exact Segment.takes_given hs h
  · unfold injectPiece
    cases hp : Segment.parse p with
    | empty | literal =>
      rw [hp] at h
      exact h.elim
    | param q =>
      rw [hp] at h
      obtain ⟨hv, ho, hsuffix⟩ := h
      simp only [Segment.keys, List.map_cons, List.map_nil, hv, ho, hsuffix, if_true, Option.getD_none]
      exact .noValue hsuffix ho
    | wildcard o =>
      rw [hp] at h
      obtain ⟨hv, rfl⟩ := h
      simp only [Segment.keys, List.map_cons, List.map_nil, hv, Option.map_none, Option.getD_none]
      exact .noWild

theorem takes_parts : ∀ {ps : List Text}, (∀ s ∈ ps.map Segment.parse, s.Plain) →
    (∀ s ∈ ps.map Segment.parse, s.Accepts values ∨ s.Spares values) →
    Takes (ps.map Segment.parse) (((ps.map Segment.parse).flatMap Segment.keys).map values.text?)
    (ps.flatMap (part values))
  | [], _, _ => .nil
  | p :: ps, hs, hvalues => by
    rw [List.map_cons, List.forall_mem_cons] at hs hvalues
    rw [List.map_cons, List.flatMap_cons, List.flatMap_cons, List.map_append]
    exact .cons (takes_part hs.1 hvalues.1) (takes_parts hs.2 hvalues.2)

/-- The segments of a template that is spelled like a path fit on the path that it makes of values, with these
values, also where optional ones are missing. -/
theorem Spelled.fits {T : Text} (h : Spelled T) (hT : Plain T)
    (hvalues : ∀ s ∈ segments T, s.Accepts values ∨ s.Spares values) :
    Fits .strict (segments T) ((keys T).map values.text?) (inject T values) := by
  obtain ⟨ps, u, hsegments, hinject, hu⟩ := h.exists_parts values
  rw [keys, hsegments]
  rw [hsegments] at hvalues
  exact ⟨_, u, hinject, takes_parts (hsegments ▸ hT) hvalues, hu⟩

end Template

/-! ## Paths that are matched -/

/-- The expressions have a way over the text, wherever it stands. -/
def Regex.Covers (rs : List Regex) (w : Text) : Prop :=
  ∀ t p, w <+: p.rest t → ∃ q ∈ ways (concatAll rs) t p, q.pos = p.pos + w.length

theorem Regex.covers_nil : Covers [] [] :=
  fun _ p _ => ⟨p, List.mem_singleton_self p, rfl⟩

theorem Regex.Covers.append {rs rs' : List Regex} {w w' : Text} (h : Covers rs w) (h' : Covers rs' w') :
    Covers (rs ++ rs') (w ++ w') := by
  intro t p hp
  obtain ⟨q, hq, hpos⟩ := h t p ((List.prefix_append w w').trans hp)
  have hrest : w' <+: q.rest t := by
    obtain ⟨u, hu⟩ := hp
    rw [Progress.rest, hpos, ← List.drop_drop, ← Progress.rest, ← hu, List.append_assoc, List.drop_left]
    exact List.prefix_append w' u
  obtain ⟨q', hq', hpos'⟩ := h' t q hrest
  refine ⟨q', ?_, by rw [hpos', hpos, List.length_append, Nat.add_assoc]⟩
  rw [ways_concatAll_append]
  exact List.mem_flatMap.2 ⟨q, hq, hq'⟩

/-- The expressions of a plain segment cover what the segment takes. -/
theorem Segment.Takes.covers {s : Segment} {vs : List (Option Text)} {w : Text} (h : s.Takes vs w) (hs : s.Plain)
    (n : Nat) :
    Covers (s.regexes n) w := by
  intro t p hp
  have htakes : (vs, w.length) ∈ s.takes (p.rest t) := (Segment.mem_takes hs).2 ⟨w, h, hp, rfl⟩
  have hways := List.forall₂_iff_get.1 (Template.ways_segment (t := t) hs n p)
  obtain ⟨i, hi, heq⟩ := List.getElem_of_mem htakes
  have hreaches := hways.2 i hi (hways.1 ▸ hi)
  refine ⟨_, List.getElem_mem (hways.1 ▸ hi), hreaches.pos.trans ?_⟩
  rw [List.get_eq_getElem, heq]

/-- A plain segment, or a parameter with an extension that may have more dots in it. -/
def Segment.Dotted (s : Segment) : Prop :=
  s.Plain ∨ ∃ name ext, s = .param ⟨name, false, none, some ('.' :: ext)⟩ ∧ DottedText ext

namespace Template

variable {values : Values}

/-- A segment denotes expressions that cover what its piece makes of values. -/
theorem exists_covers_part {p : Text} (hs : (Segment.parse p).Dotted)
    (h : (Segment.parse p).Accepts values ∨ (Segment.parse p).Spares values) (n : Nat) :
    ∃ rs, (Segment.parse p).Denotes n rs ∧ Covers rs (part values p) := by
  rcases hs with hs | ⟨name, ext, hp, hext⟩
  · exact ⟨_, hs.denotes n, (takes_part hs h).covers hs n⟩
  · have hne : p ≠ [] := by
      rintro rfl
      cases hp
    rw [hp] at h
    obtain ⟨v, hv, hslash⟩ : Segment.Accepts values (.param ⟨name, false, none, some ('.' :: ext)⟩) :=
      h.resolve_right fun hspares => Bool.false_ne_true hspares.2.1
    have hpart : part values p = '/' :: (v ++ '.' :: ext) := by
      rw [part, if_neg hne, injectPiece, hp]
      simp only [hv]
      rfl
    refine ⟨_, hp ▸ Segment.denotes_dotted name hext n, fun t q hq => ?_⟩
    rw [hpart] at hq ⊢
    have hself : Resembles ('.' :: ext) ('.' :: ext) := (Alike.refl _).resembles
    refine ⟨_, mem_ways_valueRegexes.2 ⟨v, _, Values.text?_ne_nil hv, hslash, hself, hq, rfl⟩, ?_⟩
    simp only [Progress.skip_pos, landed_pos, List.length_cons, List.length_append]
    omega

theorem exists_covers_parts : ∀ {ps : List Text}, (∀ s ∈ ps.map Segment.parse, s.Dotted) →
    (∀ s ∈ ps.map Segment.parse, s.Accepts values ∨ s.Spares values) → ∀ n,
    ∃ rs, Denotes (ps.map Segment.parse) n rs ∧ Covers rs (ps.flatMap (part values))
  | [], _, _, _ => ⟨[], .nil, covers_nil⟩
  | p :: ps, hs, hvalues, n => by
    rw [List.map_cons, List.forall_mem_cons] at hs hvalues
    obtain ⟨rs, hrs, hw⟩ := exists_covers_part hs.1 hvalues.1 n
    obtain ⟨rs', hrs', hw'⟩ := exists_covers_parts hs.2 hvalues.2 (n + (Segment.parse p).keys.length)
    exact ⟨rs ++ rs', .cons hrs hrs', hw.append hw'⟩

/-- The path that a template makes of values belongs to the template: if it is spelled like a path, a route of it
matches that path. All required values have to be there, and any optional ones may be missing, but for those in front
of a suffix. -/
theorem isMatch_inject {T : Text} (hT : ∀ s ∈ segments T, s.Dotted) (hspelled : Spelled T)
    (hvalues : ∀ s ∈ segments T, s.Accepts values ∨ s.Spares values) {mode : Mode} {r : Route}
    (hr : Route.compile T mode = .ok r) : r.pattern.isMatch (inject T values) = true := by
  obtain ⟨ps, u, hsegments, hinject, hu⟩ := hspelled.exists_parts values
  rw [hsegments] at hT hvalues
  obtain ⟨rs, hrs, hcovers⟩ := exists_covers_parts hT hvalues 0
  rw [← hsegments] at hrs
  rw [hrs.compile mode] at hr
  split at hr
  · cases hr
  cases hr
  obtain ⟨q, hq, hpos⟩ := hcovers (inject T values) ⟨0, []⟩ (by rw [hinject]; exact List.prefix_append _ u)
  rw [Pattern.isMatch, isMatch_eq, find_append_ending, Option.isSome_map, List.find?_isSome]
  refine ⟨q, hq, ?_⟩
  have hrest : q.rest (inject T values) = u := by
    rw [Progress.rest, hpos, hinject, Nat.zero_add, List.drop_left]
  rw [hrest]
  cases mode with
  | strict => exact hu
  | loose => exact Mode.loose_ends hu

/-- A missing value in front of a given one, which the segment in front takes first and has to give back, an
extension of two parts behind, and a wildcard without a value. -/
theorem isMatch_inject_missing : ∃ r, Route.compile "/a/:x?/:y.tar.gz/*?".toList .strict = .ok r ∧
    r.pattern.isMatch "/a/1.tar.gz".toList = true := by
  have hsegments : segments "/a/:x?/:y.tar.gz/*?".toList = [.literal "a".toList, .param ⟨"x".toList, true, none, none⟩,
      .param ⟨"y".toList, false, none, some ".tar.gz".toList⟩, .wildcard true] := by decide
  have hT : ∀ s ∈ segments "/a/:x?/:y.tar.gz/*?".toList, s.Dotted := by
    rw [hsegments]
    simp only [List.forall_mem_cons, List.not_mem_nil, false_imp_iff, implies_true, and_true]
    refine ⟨.inl (by decide : PlainText "a".toList), .inl ⟨rfl, fun s hs => (by cases hs)⟩,
      .inr ⟨_, _, rfl, ?_⟩, .inl trivial⟩
    exact (by decide : ∀ c ∈ "tar.gz".toList, c = '.' ∨ c ∉ metaChars)
  have hvalues : ∀ s ∈ segments "/a/:x?/:y.tar.gz/*?".toList,
      s.Accepts [("y".toList, .number (.int 1))] ∨ s.Spares [("y".toList, .number (.int 1))] := by
    rw [hsegments]
    simp only [List.forall_mem_cons, List.not_mem_nil, false_imp_iff, implies_true, and_true]
    exact ⟨.inl trivial, .inr ⟨rfl, rfl, rfl⟩, .inl ⟨"1".toList, rfl, by decide⟩, .inr ⟨rfl, rfl⟩⟩
  have hspelled : Spelled "/a/:x?/:y.tar.gz/*?".toList :=
    ⟨fun c hc => .inl (Option.some.inj hc).symm, by simp [List.infix_cons_iff]⟩
  have hinject : inject "/a/:x?/:y.tar.gz/*?".toList [("y".toList, .number (.int 1))] =
      "/a/1.tar.gz".toList := by decide
  obtain ⟨r, hr⟩ : ∃ r, Route.compile "/a/:x?/:y.tar.gz/*?".toList .strict = .ok r := ⟨_, rfl⟩
  have hmatch := isMatch_inject hT hspelled hvalues hr
  rw [hinject] at hmatch
  exact ⟨r, hr, hmatch⟩

/-- A template that is spelled like a path but has no route, so that its path belongs to none. -/
theorem isMatch_inject_tooLarge : Plain ('/' :: List.replicate 400000 'c') ∧
    ('/' :: List.replicate 400000 'c').head? = some '/' ∧ ¬ ['/', '/'] <:+: '/' :: List.replicate 400000 'c' ∧
    (∀ s ∈ segments ('/' :: List.replicate 400000 'c'), s.Accepts []) ∧
    ¬ ∃ r, Route.compile ('/' :: List.replicate 400000 'c') .strict = .ok r := by
  refine ⟨plain_replicate (by decide) (by decide) 399999, rfl, (tidy_replicate (by decide) 399999).single,
    accepts_replicate (by decide) 399999, ?_⟩
  rintro ⟨r, hr⟩
  rw [compile_replicate (by decide) (by decide) (by decide) .strict] at hr
  cases hr

/-! ## Paths that rigid segments take -/

end Template

/-- A segment as it stands between slashes. -/
def Segment.Between : Segment → Prop
  | empty | wildcard _ => True
  | literal text => text ≠ [] ∧ '/' ∉ text
  | param p => ∀ suffix ∈ p.suffix, '/' ∉ suffix

/-- A rigid segment takes nothing, or a part between slashes with the slash in front. -/
theorem Segment.Takes.exists_part {s : Segment} {vs : List (Option Text)} {w : Text} (h : s.Takes vs w) (hs : s.Rigid)
    (hbetween : s.Between) : w = [] ∨ ∃ x, w = '/' :: x ∧ x ≠ [] ∧ '/' ∉ x := by
  cases h with
  | empty | noValue | noWild => exact .inl rfl
  | @literal text w hw =>
    refine .inr ⟨w, rfl, ?_, fun hmem => hbetween.2 (hw.slash_mem hmem)⟩
    rintro rfl
    exact hbetween.1 (List.eq_nil_of_length_eq_zero hw.length)
  | value _ hne hslash => exact .inr ⟨_, rfl, hne, hslash⟩
  | @suffixed p ext v w hsome hne hslash hext =>
    have hfree : '/' ∉ '.' :: ext := hbetween _ hsome
    exact .inr ⟨v ++ '.' :: w, rfl, List.append_ne_nil_of_left_ne_nil hne _, hext.slash_not_mem_suffixed hslash hfree⟩
  | bare _ ho => exact absurd (hs.2.symm.trans ho) Bool.false_ne_true
  | wild => exact hs.elim

namespace Template

variable {values : Values}

theorem between_segments {T : Text} {s : Segment} (hs : s ∈ segments T) : s.Between := by
  cases s with
  | empty | wildcard => trivial
  | literal text =>
    obtain ⟨piece, hmem, hpiece⟩ := List.mem_map.1 hs
    exact ⟨literal_ne_nil hs, Segment.parse_eq_literal hpiece ▸ slash_not_mem_piece hmem⟩
  | param p => exact fun suffix hsuffix => slash_not_mem_suffix hs hsuffix

/-- Rigid segments take parts between slashes, each with a slash in front. -/
theorem Takes.exists_parts {ss : List Segment} {vs : List (Option Text)} {w : Text} (h : Takes ss vs w) :
    (∀ s ∈ ss, s.Rigid) → (∀ s ∈ ss, s.Between) →
      ∃ xs : List Text, w = xs.flatMap ('/' :: ·) ∧ ∀ x ∈ xs, x ≠ [] ∧ '/' ∉ x := by
  induction h with
  | nil => exact fun _ _ => ⟨[], rfl, List.forall_mem_nil _⟩
  | cons hw _ ih =>
    intro hs hbetween
    rw [List.forall_mem_cons] at hs hbetween
    obtain ⟨xs, rfl, hxs⟩ := ih hs.2 hbetween.2
    rcases hw.exists_part hs.1 hbetween.1 with rfl | ⟨x, rfl, hx⟩
    · exact ⟨xs, rfl, hxs⟩
    · exact ⟨x :: xs, rfl, List.forall_mem_cons.2 ⟨hx, hxs⟩⟩

/-- A path on which the segments of a rigid template fit begins with a slash, if with anything, and has no two
slashes in a row. -/
theorem Fits.single {T : Text} (hT : ∀ s ∈ segments T, s.Rigid) {vs : List (Option Text)} {path : Text}
    (h : Fits .strict (segments T) vs path) : AtSlash path ∧ ¬ ['/', '/'] <:+: path := by
  obtain ⟨w, u, rfl, hw, hu⟩ := h
  refine ⟨hw.atSlash (Mode.atSlash_of_ends hu), ?_⟩
  obtain ⟨xs, rfl, hxs⟩ := hw.exists_parts hT fun s hs => between_segments hs
  rcases Mode.strict_ends_iff.1 hu with rfl | rfl
  · rw [List.append_nil, Text.double_flatMap_iff fun x hx => (hxs x hx).2]
    rintro ⟨x, hx, he⟩
    exact (hxs x (List.dropLast_subset _ hx)).1 he
  · have happend : xs.flatMap ('/' :: ·) ++ ['/'] = (xs ++ [[]]).flatMap ('/' :: ·) := by simp
    rw [happend, Text.double_flatMap_iff]
    · rw [List.dropLast_concat]
      rintro ⟨x, hx, he⟩
      exact (hxs x hx).1 he
    · intro x hx
      rcases List.mem_append.1 hx with hx | hx
      · exact (hxs x hx).2
      · rw [List.mem_singleton.1 hx]
        exact List.not_mem_nil

/-! ## Paths of templates spelled in other ways -/

/-- Of a rigid segment, injection makes a part without slashes behind one, empty only if the piece is. -/
theorem exists_injectPiece {p : Text} (hslash : '/' ∉ p) (hs : (Segment.parse p).Rigid)
    (h : (Segment.parse p).Accepts values) :
    ∃ x, injectPiece values ['/'] p = '/' :: x ∧ '/' ∉ x ∧ (x = [] ↔ p = []) := by
  unfold injectPiece
  cases hp : Segment.parse p with
  | empty | literal => exact ⟨p, rfl, hslash, Iff.rfl⟩
  | wildcard =>
    rw [hp] at hs
    exact hs.elim
  | param q =>
    rw [hp] at h
    obtain ⟨v, hv, hfree⟩ := h
    simp only [hv]
    refine ⟨v ++ q.suffix.getD [], rfl, fun hmem => ?_, fun he => ?_, ?_⟩
    · exact (List.mem_append.1 hmem).elim hfree (Segment.slash_not_mem_suffix hp hslash)
    · exact absurd (List.append_eq_nil_iff.1 he).1 (Values.text?_ne_nil hv)
    · rintro rfl
      cases hp

/-- A path that a rigid template makes of values has two slashes in a row where the template has. -/
theorem double_inject_iff {t : Text} (hT : ∀ s ∈ segments ('/' :: t), s.Rigid)
    (hvalues : ∀ s ∈ segments ('/' :: t), s.Accepts values) :
    ['/', '/'] <:+: inject ('/' :: t) values ↔ ['/', '/'] <:+: '/' :: t := by
  have part : ∀ p ∈ pieces ('/' :: t), injectPiece values ['/'] p = '/' :: (injectPiece values ['/'] p).tail ∧
      '/' ∉ (injectPiece values ['/'] p).tail ∧ ((injectPiece values ['/'] p).tail = [] ↔ p = []) := by
    intro p hp
    have hmem : Segment.parse p ∈ segments ('/' :: t) := List.mem_map_of_mem hp
    obtain ⟨x, hx, hfree, hnil⟩ := exists_injectPiece (slash_not_mem_piece hp) (hT _ hmem) (hvalues _ hmem)
    rw [hx]
    exact ⟨rfl, hfree, hnil⟩
  rw [inject_cons_slash, List.flatMap_congr fun p hp => (part p hp).1, Text.double_flatMap_iff fun p hp =>
    (part p hp).2.1]
  rw [← not_iff_not, single_iff]
  constructor
  · intro h p hp he
    exact h ⟨p, hp, (part p (List.dropLast_subset _ hp)).2.2.2 he⟩
  · rintro h ⟨p, hp, he⟩
    exact h p hp ((part p (List.dropLast_subset _ hp)).2.2.1 he)

/-- A rigid template makes a path that begins with a slash and has no two in a row only if it is spelled so. -/
theorem spelled_of_inject {T : Text} (hT : ∀ s ∈ segments T, s.Rigid) (hvalues : ∀ s ∈ segments T, s.Accepts values)
    (hslash : AtSlash (inject T values)) (hsingle : ¬ ['/', '/'] <:+: inject T values) : Spelled T := by
  cases T with
  | nil => exact ⟨fun c hc => (by cases hc), Text.not_double_nil⟩
  | cons c t =>
    by_cases hc : c = '/'
    · subst hc
      exact ⟨fun c hc => .inl (Option.some.inj hc).symm, mt (double_inject_iff hT hvalues).2 hsingle⟩
    by_cases hp : c = ':'
    · subst hp
      rw [← segments_cons_colon] at hT hvalues
      rw [← inject_cons_colon] at hsingle
      refine ⟨fun c hc => .inr (Option.some.inj hc).symm, fun h => hsingle ?_⟩
      exact (double_inject_iff hT hvalues).2 (List.infix_cons h)
    · -- Literal text in front is left without a slash.
      obtain ⟨p, ps, -, hs⟩ := Text.split_cons_of_ne (t := t) hc
      have hmem : c :: p ∈ pieces (c :: t) := by
        rw [pieces, hs]
        exact List.mem_cons_self
      have hrigid : (Segment.parse (c :: p)).Rigid := hT _ (List.mem_map_of_mem hmem)
      have hliteral : Segment.parse (c :: p) = .literal (c :: p) := by
        unfold Segment.parse at hrigid ⊢
        split at hrigid
        · contradiction
        · exact hrigid.elim
        · rename_i heq
          exact absurd (List.cons.inj heq).1 hp
        · rfl
      rw [inject, hs] at hslash
      dsimp only at hslash
      rw [injectPiece, hliteral] at hslash
      exact absurd (hslash c rfl) hc

/-- Rigid segments accept values without slashes. -/
theorem accepts_of_keys {ss : List Segment} (hs : ∀ s ∈ ss, s.Rigid)
    (hvalues : ∀ key ∈ ss.flatMap Segment.keys, ∃ v, values.text? key = some v ∧ '/' ∉ v) : ∀ s ∈ ss,
      s.Accepts values := by
  intro s hmem
  cases s with
  | empty | literal => trivial
  | param p => exact hvalues p.name (List.mem_flatMap.2 ⟨_, hmem, List.mem_singleton_self _⟩)
  | wildcard => exact (hs _ hmem).elim

/-- Rigid segments fit on a path with one list of values only. -/
theorem Fits.unique {T : Text} (hT : ∀ s ∈ segments T, s.Rigid) {mode : Mode} {vs ws : List (Option Text)} {path : Text}
    (h : Fits mode (segments T) vs path) (h' : Fits mode (segments T) ws path) : ws = vs := by
  obtain ⟨w, u, heq, hw, hu⟩ := h
  obtain ⟨w', u', heq', hw', hu'⟩ := h'
  exact (hw'.unique hT (fun p suffix hp => slash_not_mem_suffix hp) hw (heq'.symm.trans heq) (Mode.atSlash_of_ends hu')
    (Mode.atSlash_of_ends hu)).1

/-- A route of a rigid template captures the values in the path made of them if the template is spelled like a path,
and does not match that path otherwise. -/
theorem exec_inject_rigid {T : Text} (hT : ∀ s ∈ segments T, s.Rigid) {r : Route} (hr : Route.compile T .strict = .ok r)
    (hvalues : ∀ key ∈ keys T, ∃ v, values.text? key = some v ∧ '/' ∉ v) :
    (Spelled T → r.exec (inject T values) = some (values.params (keys T))) ∧
    (¬ Spelled T → r.exec (inject T values) = none) := by
  have hplain : Plain T := fun s hs => (hT s hs).plain
  have haccepts := accepts_of_keys hT hvalues
  constructor
  · intro h
    have hfits := h.fits hplain fun s hs => .inl (haccepts s hs)
    refine (exec_eq_some_iff hplain hr).2 ⟨_, ⟨hfits, fun ws hws => .inl (hfits.unique hT hws)⟩,
      (named_texts fun key hkey => ?_).symm⟩
    obtain ⟨v, hv, -⟩ := hvalues key hkey
    exact ⟨v, hv⟩
  · intro h
    rw [← Option.not_isSome_iff_eq_none, isSome_exec_iff hplain hr]
    rintro ⟨vs, hfits⟩
    obtain ⟨hslash, hsingle⟩ := hfits.single hT
    exact h (spelled_of_inject hT haccepts hslash hsingle)

/-- Rigid templates with the same route make paths that the route takes back with the values if they are spelled
like paths. So they are interchangeable for building links if both are, and if neither is. -/
theorem exec_inject_same {T T' : Text} (hT : ∀ s ∈ segments T, s.Rigid) (hT' : ∀ s ∈ segments T', s.Rigid)
    {r r' : Route}
    (hr : Route.compile T .strict = .ok r) (hr' : Route.compile T' .strict = .ok r') (hsame : r.same r' = true)
    (hvalues : ∀ key ∈ keys T, ∃ v, values.text? key = some v ∧ '/' ∉ v) :
    (r.exec (inject T values) = some (values.params (keys T)) ↔ Spelled T) ∧
    (¬ Spelled T → r.exec (inject T values) = none) ∧
    (r'.exec (inject T' values) = some (values.params (keys T)) ↔ Spelled T') ∧
    (¬ Spelled T' → r'.exec (inject T' values) = none) ∧
    ((r.exec (inject T values) = some (values.params (keys T)) ↔
      r'.exec (inject T' values) = some (values.params (keys T))) ↔ (Spelled T ↔ Spelled T')) := by
  have hkeys : keys T = keys T' := by
    have h := (Bool.and_eq_true_iff.1 hsame).1
    rw [keys_of_compile hr, keys_of_compile hr', beq_iff_eq] at h
    exact Keys.named.inj h
  obtain ⟨hspelled, hnone⟩ := exec_inject_rigid hT hr hvalues
  obtain ⟨hspelled', hnone'⟩ := exec_inject_rigid hT' hr' (hkeys ▸ hvalues)
  rw [← hkeys] at hspelled'
  have iff_spelled : ∀ {P : Prop} {o : Option Params} {ps : Params},
      (P → o = some ps) → (¬ P → o = none) → (o = some ps ↔ P) := by
    intro P o ps hsome hnone
    refine ⟨fun ho => ?_, hsome⟩
    by_contra hne
    rw [hnone hne] at ho
    cases ho
  have h := iff_spelled hspelled hnone
  have h' := iff_spelled hspelled' hnone'
  exact ⟨h, hnone, h', hnone', by rw [h, h']⟩

/-- An empty segment between two others, and no slash in front. -/
theorem exec_inject_same_double : ∃ r r', Route.compile "/a/:x.d/".toList .strict = .ok r ∧
    Route.compile "a//:x.d".toList .strict = .ok r' ∧ r.exec "/a/1.d/".toList = some ⟨[("x".toList, "1".toList)]⟩ ∧
    r'.exec "a//1.d".toList = none := by
  have hrigid : ∀ s ∈ [Segment.literal "a".toList, .empty, .param ⟨"x".toList, false, none, some ".d".toList⟩],
      s.Rigid := by
    simp only [List.forall_mem_cons, List.not_mem_nil, false_imp_iff, implies_true, and_true]
    refine ⟨(by decide : PlainText "a".toList), trivial, ⟨rfl, fun s hs => ⟨"d".toList, ?_, by decide⟩⟩, rfl⟩
    exact (Option.some.inj hs).symm
  have hT : ∀ s ∈ segments "/a/:x.d/".toList, s.Rigid :=
    fun s hs => hrigid s ((by decide : segments "/a/:x.d/".toList ⊆ _) hs)
  have hT' : ∀ s ∈ segments "a//:x.d".toList, s.Rigid :=
    fun s hs => hrigid s ((by decide : segments "a//:x.d".toList ⊆ _) hs)
  obtain ⟨r, r', hr, hr', hsame⟩ : ∃ r r', Route.compile "/a/:x.d/".toList .strict = .ok r ∧
      Route.compile "a//:x.d".toList .strict = .ok r' ∧ r.same r' = true := ⟨_, _, rfl, rfl, rfl⟩
  have hvalues : ∀ key ∈ keys "/a/:x.d/".toList,
      ∃ v, Values.text? [("x".toList, .string "1".toList)] key = some v ∧ '/' ∉ v := by
    rw [show keys "/a/:x.d/".toList = ["x".toList] by decide]
    simp only [List.mem_singleton, forall_eq]
    exact ⟨"1".toList, rfl, by decide⟩
  obtain ⟨h, -, -, hnone, -⟩ := exec_inject_same hT hT' hr hr' hsame hvalues
  have hspelled : Spelled "/a/:x.d/".toList :=
    ⟨fun c hc => .inl (Option.some.inj hc).symm, by simp [List.infix_cons_iff]⟩
  have hdouble : ¬ Spelled "a//:x.d".toList := fun h => h.single (by simp [List.infix_cons_iff])
  exact ⟨r, r', hr, hr', h.2 hspelled, hnone hdouble⟩

/-- Two templates with the same route that differ in the slash in front: the path of one has its values
taken back, the path of the other is not matched. -/
theorem exec_inject_same_leading : ∃ r r', Route.compile "/books/:x".toList .strict = .ok r ∧
    Route.compile "books/:x".toList .strict = .ok r' ∧ r.same r' = true ∧
    r.exec (inject "/books/:x".toList [("x".toList, .string "1".toList)]) = some ⟨[("x".toList, "1".toList)]⟩ ∧
    r'.exec (inject "books/:x".toList [("x".toList, .string "1".toList)]) = none :=
  ⟨_, _, rfl, rfl, rfl, by decide, by decide⟩

end Template

end PathRouter
