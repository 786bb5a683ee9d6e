/-
Plain templates: literal segments and suffixes hold no characters with a meaning in pattern text,
and parameters have no matchers of their own. The pattern text of a plain template is read as one
knows it should be: each segment yields the expressions of `Segment.regexes`.
-/
import Mathlib
import PathRouter.Proofs.Regex.Reading
import PathRouter.Proofs.Template.Size
import PathRouter.Template.Source

namespace PathRouter

open Regex

/-- A text whose characters stand for themselves in pattern text. -/
def PlainText (t : Text) : Prop := ∀ c ∈ t, c ∉ metaChars

instance (t : Text) : Decidable (PlainText t) := inferInstanceAs (Decidable (∀ c ∈ t, c ∉ metaChars))

/-- A segment without pattern text of its own. -/
def Segment.Plain : Segment → Prop
  | empty | wildcard _ => True
  | literal text => PlainText text
  | param p => p.matcher = none ∧ ∀ s ∈ p.suffix, ∃ ext, s = '.' :: ext ∧ PlainText ext

/-- A template without pattern text of its own. -/
def Template.Plain (t : Text) : Prop := ∀ s ∈ segments t, s.Plain

theorem Segment.source_param (p : Param) : (param p).source = p.source := rfl

/-! ## The expressions of segments -/

namespace Regex

/-- The characters of a text, each up to case. -/
def letters (t : Text) : List Regex :=
  t.map fun c => .chars (Unicode.sameFold c)

theorem letters_eq (t : Text) : letters t = (t.map Unicode.sameFold).map .chars :=
  (List.map_map ..).symm

/-- The characters other than the slash, as the reader of `[^/]` makes them. -/
def notSlash : CharSet :=
  CharSet.compl (CharSet.anyCase fun c => [ClassPart.flat (CharSet.single '/')].any (·.set c))

/-- The group of a parameter or a wildcard. -/
def captured (index : Nat) (r : Regex) : Regex :=
  .group index (.concat r .empty)

/-- The value of a parameter. -/
def value (index : Nat) : Regex :=
  captured index (.times false 1 none (.chars notSlash))

/-- The value of a wildcard. -/
def wild (index : Nat) : Regex :=
  captured index (.times true 0 none (.chars fun c => c != '\n'))

/-- The expression or nothing, nothing if there is no other way. -/
def optional (r : Regex) : Regex :=
  .times true 0 (some 1) r

/-- A slash with an expression behind it. -/
def behindSlash (r : Regex) : List Regex :=
  letters ['/'] ++ [r]

end Regex

/-- The expressions that the pattern text of a plain segment is read as, behind `n` groups. -/
def Segment.regexes (n : Nat) : Segment → List Regex
  | empty => []
  | literal text => letters ('/' :: text)
  | param p =>
    match p.suffix with
    | none =>
      if p.optional then [Regex.optional (concatAll (behindSlash (value (n + 1))))]
      else behindSlash (value (n + 1))
    | some s =>
      behindSlash (if p.optional then Regex.optional (value (n + 1)) else value (n + 1)) ++ letters s
  | wildcard true => [Regex.optional (concatAll (behindSlash (wild (n + 1))))]
  | wildcard false => behindSlash (wild (n + 1))

/-- Plain text has no groups to be turned into uncounted ones. -/
theorem Template.uncounted_plain {t : Text} (h : PlainText t) : uncounted t = t := by
  unfold uncounted
  induction t with
  | nil => rfl
  | cons c t ih =>
    have hc := h c List.mem_cons_self
    have hp : c ≠ '(' := by rintro rfl; exact hc (by decide)
    have hb : c ≠ '\\' := by rintro rfl; exact hc (by decide)
    have hk : c ≠ '[' := by rintro rfl; exact hc (by decide)
    rw [uncountedFrom, if_neg hp, if_neg hb, if_neg hk, ih fun d hd => h d (List.mem_cons_of_mem c hd)]

/-! ## Reading a segment -/

namespace Regex.Reader

/-- The modes of routes. -/
abbrev routeFlags : Flags := .initial true

variable {n : Nat} {names : List (Nat × Text)} {ps bs : List Piece} {outer : List OpenGroup} {v : Text}

theorem reads_letters : ∀ {t : Text} {ps : List Piece}, PlainText t →
    Reads ⟨routeFlags, n, names, ps, bs, outer⟩ (t ++ v)
      ⟨routeFlags, n, names, ((letters t).map Piece.leaf).reverse ++ ps, bs, outer⟩ v
  | [], _, _ => .done
  | c :: t, ps, h => by
    have step : Reads ⟨routeFlags, n, names, ps, bs, outer⟩ (c :: (t ++ v))
        ⟨routeFlags, n, names, .leaf (.chars (Unicode.sameFold c)) :: ps, bs, outer⟩ (t ++ v) :=
      Reads.add rfl (token_char (h c List.mem_cons_self) _)
    simpa [letters] using step.trans (reads_letters fun d hd => h d (List.mem_cons_of_mem c hd))

theorem reads_value : Reads ⟨routeFlags, n, names, ps, bs, outer⟩ ("([^/]+?)".toList ++ v)
    ⟨routeFlags, n + 1, names, ⟨value (n + 1), 3, false⟩ :: ps, bs, outer⟩ v :=
  .step rfl rfl rfl (.step rfl rfl rfl (.step rfl rfl rfl (.step rfl rfl rfl .done)))

theorem reads_wild : Reads ⟨routeFlags, n, names, ps, bs, outer⟩ ("(.*)".toList ++ v)
    ⟨routeFlags, n + 1, names, ⟨wild (n + 1), 2, false⟩ :: ps, bs, outer⟩ v :=
  .step rfl rfl rfl (.step rfl rfl rfl (.step rfl rfl rfl (.step rfl rfl rfl .done)))

theorem token_question (hv : v.head? ≠ some '?') : token routeFlags '?' v = .ok (.again true 0 (some 1), v) := by
  show Except.ok (againToken 0 (some 1) v) = _
  rw [againToken, readLazy_greedy hv]
  rfl

theorem repetition_optional (r : Regex) : repetition true 0 (some 1) r = optional r := by
  unfold repetition
  rw [if_neg (by decide)]
  split <;> rfl

/-- A piece with a question mark behind it. -/
theorem reads_optional {p : Piece} (hm : p.modes = false) (hv : v.head? ≠ some '?') :
    Reads ⟨routeFlags, n, names, p :: ps, bs, outer⟩ ('?' :: v)
      ⟨routeFlags, n, names, ⟨optional p.regex, 1 + p.height, false⟩ :: ps, bs, outer⟩ v := by
  refine .step rfl (token_question hv) ?_ .done
  rw [← repetition_optional]
  exact if_neg (by rw [hm]; exact Bool.false_ne_true)

/-- A group around pieces that is not counted, with a question mark behind it. -/
theorem reads_optional_group {m : Nat} {q : List Piece} {x : Text}
    (hx : ∀ w, Reads ⟨routeFlags, n, names, [], [], ⟨none, routeFlags, ps, bs⟩ :: outer⟩ (x ++ w)
      ⟨routeFlags, m, names, q, [], ⟨none, routeFlags, ps, bs⟩ :: outer⟩ w) (hv : v.head? ≠ some '?') :
    Reads ⟨routeFlags, n, names, ps, bs, outer⟩ ("(?:".toList ++ (x ++ (")?".toList ++ v)))
      ⟨routeFlags, m, names, ⟨optional (Piece.concat q).regex, 1 + (1 + (Piece.concat q).height), false⟩ :: ps,
        bs, outer⟩ v := by
  have close : Reads ⟨routeFlags, m, names, q, [], ⟨none, routeFlags, ps, bs⟩ :: outer⟩ (')' :: '?' :: v)
      ⟨routeFlags, m, names, ⟨(Piece.concat q).regex, 1 + (Piece.concat q).height, false⟩ :: ps, bs, outer⟩
        ('?' :: v) :=
    .step rfl rfl rfl .done
  exact .step rfl rfl rfl ((hx _).trans (close.trans (reads_optional rfl hv)))

/-- A plain segment is read as its expressions, and nests little. -/
theorem reads_segment {s : Segment} (hs : s.Plain) (hv : v.head? ≠ some '?') :
    ∃ qs, Reads ⟨routeFlags, n, names, ps, bs, outer⟩ (s.source ++ v)
        ⟨routeFlags, n + s.keys.length, names, qs ++ ps, bs, outer⟩ v ∧
      qs.reverse.map (·.regex) = s.regexes n ∧ ∀ q ∈ qs, q.height ≤ 6 := by
  have slash : ∀ {n ps bs outer w}, Reads ⟨routeFlags, n, names, ps, bs, outer⟩ ('/' :: w)
      ⟨routeFlags, n, names, .leaf (.chars (Unicode.sameFold '/')) :: ps, bs, outer⟩ w :=
    .step rfl rfl rfl .done
  have leaves : ∀ {t : Text}, ∀ q ∈ ((letters t).map Piece.leaf).reverse, q.height ≤ 6 := by
    intro t q hq
    obtain ⟨r, -, rfl⟩ := List.mem_map.1 (List.mem_reverse.1 hq)
    exact Nat.zero_le 6
  have regexes : ∀ t, ((letters t).map Piece.leaf).map (·.regex) = letters t := by
    intro t
    rw [List.map_map]
    exact List.map_id _
  cases s with
  | empty => exact ⟨[], .done, rfl, List.forall_mem_nil _⟩
  | literal text =>
    have ht : PlainText ('/' :: text) := List.forall_mem_cons.2 ⟨by decide, hs⟩
    exact ⟨_, reads_letters ht, by rw [List.reverse_reverse, regexes]; rfl, leaves⟩
  | wildcard o =>
    cases o with
    | false => exact ⟨[_, _], slash.trans reads_wild, rfl, by simp [Piece.leaf]⟩
    | true =>
      refine ⟨[_], reads_optional_group (q := [⟨wild (n + 1), 2, false⟩, .leaf (.chars (Unicode.sameFold '/'))])
        (x := "/(.*)".toList) (fun w => slash.trans reads_wild) hv, rfl, ?_⟩
      simp [Piece.concat, Piece.leaf]
  | param p =>
    obtain ⟨name, optional, matcher, suffix⟩ := p
    obtain ⟨rfl, hsuffix⟩ := hs
    cases suffix with
    | none =>
      cases optional with
      | false => exact ⟨[_, _], slash.trans reads_value, rfl, by simp [Piece.leaf]⟩
      | true =>
        refine ⟨[_], reads_optional_group (q := [⟨value (n + 1), 3, false⟩, .leaf (.chars (Unicode.sameFold '/'))])
          (x := "/([^/]+?)".toList) (fun w => slash.trans reads_value) hv, rfl, ?_⟩
        simp [Piece.concat, Piece.leaf]
    | some s =>
      obtain ⟨ext, rfl, hext⟩ := hsuffix s rfl
      have tail : ∀ {p : Piece} {m : Nat},
          Reads ⟨routeFlags, m, names, p :: .leaf (.chars (Unicode.sameFold '/')) :: ps, bs, outer⟩
          ("\\.".toList ++ (Template.uncounted ext ++ v))
            ⟨routeFlags, m, names, (((letters ('.' :: ext)).map Piece.leaf).reverse ++
            [p, .leaf (.chars (Unicode.sameFold '/'))]) ++ ps, bs, outer⟩ v := by
        intro p m
        have dot : Reads ⟨routeFlags, m, names, p :: .leaf (.chars (Unicode.sameFold '/')) :: ps, bs, outer⟩
            ("\\.".toList ++ (ext ++ v)) ⟨routeFlags, m, names, .leaf (.chars (Unicode.sameFold '.')) :: p ::
              .leaf (.chars (Unicode.sameFold '/')) :: ps, bs, outer⟩ (ext ++ v) :=
          .step rfl rfl rfl .done
        rw [Template.uncounted_plain hext]
        simpa [letters] using dot.trans (reads_letters hext)
      have heights : ∀ {p : Piece}, p.height ≤ 6 → ∀ q ∈ ((letters ('.' :: ext)).map Piece.leaf).reverse ++
          [p, .leaf (.chars (Unicode.sameFold '/'))], q.height ≤ 6 := by
        intro p hp q hq
        rcases List.mem_append.1 hq with hq | hq
        · exact leaves q hq
        · rcases List.mem_cons.1 hq with rfl | hq
          · exact hp
          · rw [List.mem_singleton.1 hq]
            exact Nat.zero_le 6
      have source : ∀ o, (Segment.param ⟨name, o, none, some ('.' :: ext)⟩).source ++ v =
          '/' :: ("([^/]+?)".toList ++ ((if o then ['?'] else []) ++
            ("\\.".toList ++ (Template.uncounted ext ++ v)))) := by
        intro o
        cases o <;> simp [Segment.source_param, Param.source, Template.anySegment]
      rw [source]
      cases optional with
      | false =>
        refine ⟨_, slash.trans (reads_value.trans tail), ?_, heights (show 3 ≤ 6 by decide)⟩
        simp [Segment.regexes, behindSlash, letters, Piece.leaf, Function.comp_def]
      | true =>
        have dot : ∀ {w : Text}, ("\\.".toList ++ w).head? ≠ some '?' := fun h => by cases h
        refine ⟨_, slash.trans (reads_value.trans ((reads_optional rfl dot).trans tail)), ?_,
          heights (show 4 ≤ 6 by decide)⟩
        simp [Segment.regexes, behindSlash, letters, Piece.leaf, Function.comp_def]

end Regex.Reader

/-! ## The size of a template -/

theorem Regex.leastSize_concatAll : ∀ rs : List Regex, (concatAll rs).leastSize = (rs.map Regex.leastSize).sum
  | [] => rfl
  | r :: rs => by rw [concatAll, Regex.leastSize, leastSize_concatAll rs, List.map_cons, List.sum_cons]

/-- Each character set takes one state. -/
theorem Regex.leastSize_chars : ∀ sets : List CharSet,
    ((sets.map Regex.chars).map Regex.leastSize).sum = 32 * sets.length
  | [] => rfl
  | s :: sets => by
    rw [List.map_cons, List.map_cons, List.sum_cons, leastSize_chars sets, List.length_cons, Nat.mul_succ,
      Nat.add_comm]
    rfl

theorem Segment.leastSize_regexes (n : Nat) (s : Segment) : ((s.regexes n).map Regex.leastSize).sum = s.leastSize := by
  have letters : ∀ t, ((letters t).map Regex.leastSize).sum = 32 * t.length := by
    intro t
    rw [letters_eq, leastSize_chars, List.length_map]
  cases s with
  | empty => rfl
  | literal text => exact letters _
  | wildcard o => cases o <;> rfl
  | param p =>
    obtain ⟨name, optional, matcher, suffix⟩ := p
    cases suffix with
    | none => cases optional <;> rfl
    | some s =>
      cases optional <;> simp only [regexes, behindSlash, List.map_append, List.sum_append, letters, leastSize] <;> rfl

/-! ## The expressions that segments denote -/

open Regex.Reader in
/-- Behind `n` groups, the segment denotes the expressions: its pattern text is read as these, and nests little. -/
structure Segment.Denotes (s : Segment) (n : Nat) (rs : List Regex) : Prop where
  reads (ps : List Piece) (v : Text) : v.head? ≠ some '?' → ∃ qs, Reads ⟨routeFlags, n, [], ps, [], []⟩ (s.source ++ v)
    ⟨routeFlags, n + s.keys.length, [], qs ++ ps, [], []⟩ v ∧ qs.reverse.map (·.regex) = rs ∧ ∀ q ∈ qs, q.height ≤ 6
  leastSize : (rs.map Regex.leastSize).sum = s.leastSize

open Regex.Reader in
theorem Segment.Plain.denotes {s : Segment} (hs : s.Plain) (n : Nat) : s.Denotes n (s.regexes n) :=
  ⟨fun _ _ hv => reads_segment hs hv, s.leastSize_regexes n⟩

/-- Behind `n` groups, the segments denote the expressions, those of each behind the ones before. -/
inductive Template.Denotes : List Segment → Nat → List Regex → Prop
  | nil {n : Nat} : Denotes [] n []
  | cons {s : Segment} {ss : List Segment} {n : Nat} {rs rs' : List Regex} :
      s.Denotes n rs → Denotes ss (n + s.keys.length) rs' → Denotes (s :: ss) n (rs ++ rs')

/-! ## Reading a template -/

namespace Template

/-- The expressions of segments behind `n` groups. -/
def regexes (n : Nat) : List Segment → List Regex
  | [] => []
  | s :: ss => s.regexes n ++ regexes (n + s.keys.length) ss

/-- The expressions of an ending behind `n` groups. -/
def Mode.regexes (n : Nat) : Mode → List Regex
  | .strict => [Regex.optional (.chars (Unicode.sameFold '/')), .assert .textEnd]
  | .loose => [.group (n + 1) (.alt (concatAll (letters ['/'])) (concatAll [.assert .textEnd]))]

theorem Mode.leastSize_regexes (n : Nat) (mode : Mode) :
    ((mode.regexes n).map Regex.leastSize).sum = if mode = .loose then 200 else 136 := by
  cases mode <;> rfl

/-- The expression that the pattern text of a plain template is read as. -/
def regex (t : Text) (mode : Mode) : Regex :=
  concatAll (.assert .textStart :: (regexes 0 (segments t) ++ mode.regexes (keys t).length))

theorem head?_source_append {c : Char} (hs : c ≠ '/') (hp : c ≠ '(') {s : Segment} {v : Text} (hv : v.head? ≠ some c) :
    (s.source ++ v).head? ≠ some c := by
  cases s with
  | empty => exact hv
  | literal => exact fun h => hs (Option.some.inj h).symm
  | wildcard o =>
    cases o with
    | false => exact fun h => hs (Option.some.inj h).symm
    | true => exact fun h => hp (Option.some.inj h).symm
  | param p =>
    rw [Segment.source_param, Param.source]
    cases p.suffix with
    | none =>
      cases p.optional with
      | false => exact fun h => hs (Option.some.inj h).symm
      | true => exact fun h => hp (Option.some.inj h).symm
    | some s => exact fun h => hs (Option.some.inj h).symm

theorem head?_sources_append {c : Char} (hs : c ≠ '/') (hp : c ≠ '(') {v : Text} (hv : v.head? ≠ some c) :
    ∀ ss : List Segment, (ss.flatMap Segment.source ++ v).head? ≠ some c
  | [] => hv
  | s :: ss => by
    rw [List.flatMap_cons, List.append_assoc]
    exact head?_source_append hs hp (head?_sources_append hs hp hv ss)

open Regex.Reader in
/-- Segments are read as the expressions that they denote, and nest little. -/
theorem Denotes.reads {ss : List Segment} {n : Nat} {rs : List Regex} (h : Denotes ss n rs) {v : Text}
    (hv : v.head? ≠ some '?') :
    ∀ ps : List Piece, ∃ qs, Reads ⟨routeFlags, n, [], ps, [], []⟩ (ss.flatMap Segment.source ++ v)
      ⟨routeFlags, n + (ss.flatMap Segment.keys).length, [], qs ++ ps, [], []⟩ v ∧ qs.reverse.map (·.regex) = rs ∧
        ∀ q ∈ qs, q.height ≤ 6 := by
  induction h with
  | nil => exact fun ps => ⟨[], .done, rfl, List.forall_mem_nil _⟩
  | @cons s ss n rs rs' hs _ ih =>
    intro ps
    obtain ⟨qs, hqs, hr, hh⟩ := hs.reads ps (ss.flatMap Segment.source ++ v)
      (head?_sources_append (by decide) (by decide) hv ss)
    obtain ⟨qs', hqs', hr', hh'⟩ := ih (qs ++ ps)
    refine ⟨qs' ++ qs, ?_, ?_, fun q hq => (List.mem_append.1 hq).elim (hh' q) (hh q)⟩
    · rw [List.flatMap_cons, List.flatMap_cons, List.append_assoc, List.append_assoc,
        List.length_append, ← Nat.add_assoc]
      exact hqs.trans hqs'
    · rw [List.reverse_append, List.map_append, hr, hr']

theorem Denotes.leastSize {ss : List Segment} {n : Nat} {rs : List Regex} (h : Denotes ss n rs) :
    (rs.map Regex.leastSize).sum = (ss.map Segment.leastSize).sum := by
  induction h with
  | nil => rfl
  | cons hs _ ih => rw [List.map_append, List.sum_append, hs.leastSize, ih, List.map_cons, List.sum_cons]

/-- Plain segments denote their expressions. -/
theorem denotes_regexes : ∀ {ss : List Segment} {n : Nat}, (∀ s ∈ ss, s.Plain) → Denotes ss n (regexes n ss)
  | [], _, _ => .nil
  | s :: _, n, h =>
    .cons ((h s List.mem_cons_self).denotes n) (denotes_regexes fun s' hs' => h s' (List.mem_cons_of_mem s hs'))

open Regex.Reader in
theorem reads_ending (mode : Mode) (n : Nat) (ps : List Piece) :
    ∃ qs, Reads ⟨routeFlags, n, [], ps, [], []⟩ mode.ending ⟨routeFlags, n + if mode = .loose then 1 else 0, [],
      qs ++ ps, [], []⟩ [] ∧
      qs.reverse.map (·.regex) = mode.regexes n ∧ ∀ q ∈ qs, q.height ≤ 6 := by
  cases mode with
  | strict =>
    exact ⟨[_, _], .step rfl rfl rfl (.step rfl rfl rfl (.step rfl rfl rfl .done)), rfl, by simp [Piece.leaf]⟩
  | loose =>
    exact ⟨[⟨.group (n + 1) (.alt (concatAll (letters ['/'])) (concatAll [.assert .textEnd])), 2, false⟩],
      .step rfl rfl rfl (.step rfl rfl rfl (.step rfl rfl rfl (.step rfl rfl rfl (.step rfl rfl rfl .done)))),
      rfl, by simp⟩

theorem foldl_max_le {k : Nat} : ∀ {l : List Nat} {a : Nat}, a ≤ k → (∀ x ∈ l, x ≤ k) → l.foldl max a ≤ k
  | [], _, ha, _ => ha
  | x :: l, a, ha, h => by
    rw [List.foldl_cons]
    exact foldl_max_le (Nat.max_le.2 ⟨ha, h x List.mem_cons_self⟩) fun y hy => h y (List.mem_cons_of_mem x hy)

theorem height_concat_le {k : Nat} {ps : List Piece} (h : ∀ p ∈ ps, p.height ≤ k) :
    (Piece.concat ps).height ≤ k + 1 := by
  match ps with
  | [] => exact Nat.zero_le _
  | [p] => exact Nat.le_succ_of_le (h p List.mem_cons_self)
  | p :: q :: ps =>
    have hmax : ((p :: q :: ps).map (·.height)).foldl max 0 ≤ k :=
      foldl_max_le (Nat.zero_le k) (List.forall_mem_map.2 h)
    show 1 + _ ≤ k + 1
    omega

open Regex.Reader in
/-- Text that is read as pieces that nest little is an expression, unless that is too large. -/
theorem parse_pieces {t : Text} {n : Nat} {ps : List Piece}
    (h : Reads (.start true) t ⟨routeFlags, n, [], ps, [], []⟩ [])
    (hheight : ∀ p ∈ ps, p.height ≤ 6) : Expression.parse true t =
      if maxSize < frameSize + (concatAll (ps.reverse.map (·.regex))).leastSize then .error .tooLarge
      else .ok ⟨t, concatAll (ps.reverse.map (·.regex)), []⟩ := by
  have hbody : Reader.body ⟨routeFlags, n, [], ps, [], []⟩ = Piece.concat ps := rfl
  have hdeep := height_concat_le hheight
  rw [h.parse, finish_eq rfl, hbody, regex_concat, if_neg (by rw [maxHeight]; omega)]
  split <;> rfl

open Regex.Reader in
/-- A template is read as the expressions that its segments denote, with the ending behind, unless that is too large. -/
theorem Denotes.parse {T : Text} {rs : List Regex} (h : Denotes (segments T) 0 rs) (mode : Mode) :
    Expression.parse true (source T mode) = if maxSize < Template.leastSize T mode then .error .tooLarge
      else .ok ⟨source T mode, concatAll (.assert .textStart :: (rs ++ mode.regexes (keys T).length)), []⟩ := by
  have caret : Reads (.start true) (source T mode) ⟨routeFlags, 0, [], [.leaf (.assert .textStart)], [], []⟩
      ((segments T).flatMap Segment.source ++ mode.ending) :=
    .step rfl rfl rfl .done
  have hend : mode.ending.head? ≠ some '?' := by cases mode <;> exact fun h => by cases h
  obtain ⟨qs, hqs, hr, hh⟩ := h.reads hend [.leaf (.assert .textStart)]
  obtain ⟨qs', hqs', hr', hh'⟩ := reads_ending mode (0 + (keys T).length) (qs ++ [.leaf (.assert .textStart)])
  have hregex : (qs' ++ (qs ++ [Piece.leaf (.assert .textStart)])).reverse.map (·.regex) =
      .assert .textStart :: (rs ++ mode.regexes (keys T).length) := by
    rw [← hr, ← Nat.zero_add (keys T).length, ← hr']
    simp [Piece.leaf]
  have hheight : ∀ p ∈ qs' ++ (qs ++ [Piece.leaf (.assert .textStart)]), p.height ≤ 6 := by
    intro p hp
    rcases List.mem_append.1 hp with hp | hp
    · exact hh' p hp
    · rcases List.mem_append.1 hp with hp | hp
      · exact hh p hp
      · rw [List.mem_singleton.1 hp]
        exact Nat.zero_le 6
  have hsize : frameSize + (concatAll (.assert .textStart :: (rs ++ mode.regexes (keys T).length))).leastSize =
      Template.leastSize T mode := by
    have hcaret : Regex.leastSize (.assert .textStart) = 32 := rfl
    rw [leastSize_concatAll, List.map_cons, List.sum_cons, List.map_append, List.sum_append, h.leastSize,
      mode.leastSize_regexes, hcaret, Template.leastSize, frameSize]
    split <;> omega
  rw [parse_pieces (caret.trans (hqs.trans hqs')) hheight, hregex, hsize]

end Template

end PathRouter
