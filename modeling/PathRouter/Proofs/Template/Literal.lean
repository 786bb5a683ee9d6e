/-
Literal templates in ASCII. A route of such a template compares a path with what the template spells (`exec_spelling`),
up to the case folding of Unicode. For ASCII text that is the case of ASCII letters and a little more: the long s stands
for `s`, and the Kelvin sign for `k` (`alike_ascii_iff`). In the path, the case of ASCII letters never counts.
-/
import PathRouter.Proofs.Template.Fits
import PathRouter.Proofs.Unicode.AsciiCase

namespace PathRouter

open Regex

/-! ## Texts up to the case of ASCII letters -/

/-- Texts that differ at most in the case of ASCII letters. -/
def SameAscii (s t : Text) : Prop := List.Forall₂ (fun c d => Unicode.sameAscii c d = true) s t

instance (s t : Text) : Decidable (SameAscii s t) := inferInstanceAs (Decidable (List.Forall₂ _ s t))

/-- The second character stands for the first one: it differs at most in the case of an ASCII letter, or it is a long s
in place of `s`, or the Kelvin sign in place of `k`. -/
def Imitates (c d : Char) : Prop :=
  Unicode.sameAscii c d = true ∨ (c.toLower = 's' ∧ d = '\u017F') ∨ (c.toLower = 'k' ∧ d = '\u212A')

instance : DecidableRel Imitates := fun c d =>
  inferInstanceAs (Decidable (Unicode.sameAscii c d = true ∨ (c.toLower = 's' ∧ d = '\u017F') ∨
    (c.toLower = 'k' ∧ d = '\u212A')))

theorem alike_ascii_iff : ∀ {s t : Text}, (∀ c ∈ s, c.toNat < 128) → (Alike s t ↔ List.Forall₂ Imitates s t)
  | [], t, _ => by rw [Alike, List.forall₂_nil_left_iff, List.forall₂_nil_left_iff]
  | c :: s, [], _ => by rw [Alike, List.forall₂_nil_right_iff, List.forall₂_nil_right_iff]
  | c :: s, d :: t, h => by
    rw [Alike, List.forall₂_cons, List.forall₂_cons]
    exact and_congr (Unicode.sameFold_ascii_iff (h c List.mem_cons_self))
      (alike_ascii_iff fun c' hc' => h c' (List.mem_cons_of_mem c hc'))

/-- What stands for ASCII text differs from it in nothing but case, unless it has one of the two other letters. -/
theorem sameAscii_iff_of_imitates {s t : Text} (hs : ∀ c ∈ s, c.toNat < 128) (h : List.Forall₂ Imitates s t) :
    SameAscii s t ↔ '\u017F' ∉ t ∧ '\u212A' ∉ t := by
  induction h with
  | nil => simp [SameAscii]
  | @cons c d s t hcd _ ih =>
    have hc := hs c List.mem_cons_self
    have hcase : Unicode.sameAscii c d = true ↔ '\u017F' ≠ d ∧ '\u212A' ≠ d := by
      constructor
      · intro hcd
        -- The two letters are not ASCII, so they are the same as no other character.
        have other : ∀ {e : Char}, ¬ e.toNat < 128 → e ≠ d := by
          rintro e he rfl
          rcases Unicode.eq_or_ascii_of_sameAscii hcd with rfl | ⟨-, hd⟩
          · exact he hc
          · exact he hd
        exact ⟨other (by decide), other (by decide)⟩
      · rintro ⟨hlongS, hkelvin⟩
        rcases hcd with hcd | ⟨-, rfl⟩ | ⟨-, rfl⟩
        · exact hcd
        · exact absurd rfl hlongS
        · exact absurd rfl hkelvin
    rw [SameAscii, List.forall₂_cons, hcase, ← SameAscii, ih fun c' hc' => hs c' (List.mem_cons_of_mem c hc'),
      List.mem_cons, List.mem_cons, not_or, not_or]
    tauto

/-! ## Paths up to the case of ASCII letters -/

theorem sameAscii_slash {c d : Char} (h : Unicode.sameAscii c d = true) : c = '/' ↔ d = '/' := by
  rw [← sameFold_slash, ← sameFold_slash, Unicode.sameFold_congr h]

namespace SameAscii

variable {t u : Text}

theorem take (h : SameAscii t u) (n : Nat) : SameAscii (t.take n) (u.take n) := List.forall₂_take n h

theorem drop (h : SameAscii t u) (n : Nat) : SameAscii (t.drop n) (u.drop n) := List.forall₂_drop n h

theorem byteLength (h : SameAscii t u) : Text.byteLength t = Text.byteLength u := by
  induction h with
  | nil => rfl
  | cons hcd _ ih => rw [Text.byteLength_cons, Text.byteLength_cons, ih, Unicode.utf8Size_eq_of_sameAscii hcd]

theorem startsLike (h : SameAscii t u) (s : Text) : PathRouter.startsLike s t = PathRouter.startsLike s u := by
  induction h generalizing s with
  | nil => rfl
  | cons hcd _ ih =>
    cases s with
    | nil => rfl
    | cons e s => rw [PathRouter.startsLike, PathRouter.startsLike, ih, Unicode.sameFold_congr hcd]

theorem ends (h : SameAscii t u) (mode : Template.Mode) : mode.ends t = mode.ends u := by
  cases h with
  | nil => rfl
  | cons hcd htu =>
    have hslash := sameAscii_slash hcd
    have hlength := htu.length_eq
    rw [Bool.eq_iff_iff]
    cases mode with
    | strict => simp [Template.Mode.strict_ends_iff, hslash, ← List.length_eq_zero_iff, hlength]
    | loose => simp [Template.Mode.ends, hslash]

end SameAscii

/-! ## Literal templates -/

/-- A segment of ASCII text that stands for itself in pattern text, or an empty one. -/
def Segment.Ascii : Segment → Prop
  | empty => True
  | literal text => PlainText text ∧ ∀ c ∈ text, c.toNat < 128
  | param _ | wildcard _ => False

/-- What a segment without a value spells on a path. -/
def Segment.spelling : Segment → Text
  | literal text => '/' :: text
  | empty | param _ | wildcard _ => []

namespace Template

/-- What a literal template spells on a path: its segments but for the empty ones, each behind a slash. -/
def spelling (T : Text) : Text := (segments T).flatMap Segment.spelling

variable {ss : List Segment}

theorem regexes_ascii : ∀ {ss : List Segment} (n : Nat), (∀ s ∈ ss, s.Ascii) →
    regexes n ss = letters (ss.flatMap Segment.spelling)
  | [], _, _ => rfl
  | s :: ss, n, h => by
    have hs : s.regexes n = letters s.spelling := by
      cases s with
      | empty | literal => rfl
      | param | wildcard => exact (h _ List.mem_cons_self).elim
    rw [regexes, hs, regexes_ascii _ fun s' hs' => h s' (List.mem_cons_of_mem s hs'), List.flatMap_cons, letters,
      letters, letters,
      List.map_append]

theorem keys_ascii (h : ∀ s ∈ ss, s.Ascii) : ss.flatMap Segment.keys = [] := by
  rw [List.flatMap_eq_nil_iff]
  intro s hs
  cases s with
  | empty | literal => rfl
  | param | wildcard => exact (h _ hs).elim

theorem plain_ascii (h : ∀ s ∈ ss, s.Ascii) : ∀ s ∈ ss, s.Plain := by
  intro s hs
  cases s with
  | empty => trivial
  | literal => exact (h _ hs).1
  | param | wildcard => exact (h _ hs).elim

theorem spelling_ascii (h : ∀ s ∈ ss, s.Ascii) : ∀ c ∈ ss.flatMap Segment.spelling, c.toNat < 128 := by
  intro c hc
  obtain ⟨s, hs, hc⟩ := List.mem_flatMap.1 hc
  cases s with
  | empty => cases hc
  | literal text =>
    rcases List.mem_cons.1 hc with rfl | hc
    · decide
    · exact (h _ hs).2 c hc
  | param | wildcard => exact (h _ hs).elim

variable {T : Text} {mode : Mode} {r : Route}

/-- The route of a literal template finds what the template spells at the start of the path, and nothing else. -/
theorem exec_spelling (hT : ∀ s ∈ segments T, s.Ascii) (hr : Route.compile T mode = .ok r) (path : Text) :
    r.pattern.exec path = if startsLike (spelling T) path && mode.ends (path.drop (spelling T).length) then
      some (mode.captures 0 [] path ⟨(spelling T).length, []⟩) else none := by
  have hkeys : keys T = [] := keys_ascii hT
  rw [compile_eq (plain_ascii hT)] at hr
  split at hr
  · cases hr
  cases hr
  have hcount : Pattern.groupCount ⟨⟨source T mode, regex T mode, []⟩, mode.tail⟩ = (keys T).length := by
    rw [Pattern.groupCount, groupCount_regex]
    cases mode <;> rfl
  rw [exec_captures rfl rfl hcount, hkeys, regexes_ascii 0 hT, ways_letters, ← spelling]
  have hrest : ∀ n, Progress.rest ⟨n, []⟩ path = path.drop n := fun _ => rfl
  have hskip : (Progress.skip ⟨0, []⟩ (spelling T).length) = ⟨(spelling T).length, []⟩ := by
    rw [Progress.skip, Nat.zero_add]
  rw [hrest, List.drop_zero]
  cases startsLike (spelling T) path with
  | false => rfl
  | true =>
    rw [if_pos rfl, hskip, List.find?_singleton, hrest, Bool.true_and]
    cases mode.ends (path.drop (spelling T).length) <;> rfl

theorem startsLike_ends_iff {s path : Text} : (startsLike s path && mode.ends (path.drop s.length)) = true ↔
    ∃ w u, path = w ++ u ∧ Alike s w ∧ mode.ends u = true := by
  rw [Bool.and_eq_true, startsLike_iff]
  constructor
  · rintro ⟨⟨w, hw, u, rfl⟩, hend⟩
    rw [hw.length, List.drop_left] at hend
    exact ⟨w, u, rfl, hw, hend⟩
  · rintro ⟨w, u, rfl, hw, hend⟩
    rw [hw.length, List.drop_left]
    exact ⟨⟨w, hw, List.prefix_append w u⟩, hend⟩

theorem startsLike_ends_congr {path path' : Text} (h : SameAscii path path') (s : Text) :
    (startsLike s path && mode.ends (path.drop s.length)) =
      (startsLike s path' && mode.ends (path'.drop s.length)) := by
  rw [h.startsLike s, (h.drop s.length).ends mode]

/-- What a route reports that ends behind a part of the path: that part, with the rest if the route is strict. -/
theorem matched_captures {n : Nat} {names : List (Nat × Text)} {w u : Text} (hend : mode.ends u = true) :
    (mode.captures n names (w ++ u) ⟨w.length, []⟩).matched = w ∨
      mode = .strict ∧ (mode.captures n names (w ++ u) ⟨w.length, []⟩).matched = w ++ ['/'] := by
  cases mode with
  | loose => exact .inl (List.take_left' rfl)
  | strict =>
    have hall : (Mode.strict.captures n names (w ++ u) ⟨w.length, []⟩).matched = w ++ u := List.take_length
    rw [hall]
    rcases Mode.strict_ends_iff.1 hend with rfl | rfl
    · exact .inl (List.append_nil w)
    · exact .inr ⟨rfl, rfl⟩

theorem offset_captures_congr {n k : Nat} {names : List (Nat × Text)} {path path' : Text} (h : SameAscii path path') :
    (mode.captures n names path ⟨k, []⟩).offset = (mode.captures n names path' ⟨k, []⟩).offset := by
  cases mode with
  | loose => exact (h.take k).byteLength
  | strict =>
    show Text.byteLength (path.take path.length) = Text.byteLength (path'.take path'.length)
    rw [List.take_length, List.take_length, h.byteLength]

/-- A route of a literal template in ASCII matches what stands for the text that the template spells, where it may end.
What it reports is that part, with the slash behind it if the route is strict: it differs from what the template spells
at most in the case of ASCII letters, unless it has a long s or a Kelvin sign. In the path, the case of ASCII letters
does not count. -/
theorem exec_literal {T : Text} (hT : ∀ s ∈ segments T, s.Ascii) {mode : Mode} {r : Route}
    (hr : Route.compile T mode = .ok r) (path : Text) :
    ((r.pattern.exec path).isSome ↔
      ∃ w u, path = w ++ u ∧ List.Forall₂ Imitates (spelling T) w ∧ mode.ends u = true) ∧
    ∀ c, r.pattern.exec path = some c →
      (∃ w, (c.matched = w ∨ (mode = .strict ∧ c.matched = w ++ ['/'])) ∧ List.Forall₂ Imitates (spelling T) w ∧
        (SameAscii (spelling T) w ↔ '\u017F' ∉ w ∧ '\u212A' ∉ w)) ∧
      ∀ path', SameAscii path path' → ∃ c', r.pattern.exec path' = some c' ∧ c'.offset = c.offset := by
  have hascii : ∀ c ∈ spelling T, c.toNat < 128 := spelling_ascii hT
  have hexec := exec_spelling hT hr
  have himitates : ∀ {w}, Alike (spelling T) w ↔ List.Forall₂ Imitates (spelling T) w := alike_ascii_iff hascii
  have hfound : (r.pattern.exec path).isSome ↔
      ∃ w u, path = w ++ u ∧ Alike (spelling T) w ∧ mode.ends u = true := by
    rw [hexec, Option.isSome_ite, startsLike_ends_iff]
  constructor
  · simpa only [himitates] using hfound
  intro c hc
  obtain ⟨w, u, rfl, hw, hend⟩ := hfound.1 (by rw [hc]; rfl)
  have hfits := startsLike_ends_iff.2 ⟨w, u, rfl, hw, hend⟩
  rw [hexec, if_pos hfits, Option.some.injEq] at hc
  subst hc
  constructor
  · rw [hw.length]
    exact ⟨w, matched_captures hend, himitates.1 hw, sameAscii_iff_of_imitates hascii (himitates.1 hw)⟩
  · intro path' hpath
    rw [startsLike_ends_congr hpath] at hfits
    rw [hexec, if_pos hfits]
    exact ⟨_, rfl, (offset_captures_congr hpath).symm⟩

/-- A long s in the path stands for `s`, and the rest differs in the case of letters. -/
theorem exec_literal_desk : ∃ r c, Route.compile "/desk//Top".toList .loose = .ok r ∧
    r.pattern.exec "/DE\u017Fk/tOP/x".toList = some c ∧ c.matched = "/DE\u017Fk/tOP".toList ∧
    ¬ SameAscii "/desk/Top".toList c.matched ∧ ∃ c', r.pattern.exec "/de\u017FK/top/X".toList = some c' ∧
    c'.offset = c.offset := by
  have hsegments : segments "/desk//Top".toList = [.literal "desk".toList, .empty, .literal "Top".toList] := by decide
  have hT : ∀ s ∈ segments "/desk//Top".toList, s.Ascii := by
    rw [hsegments]
    simp only [List.forall_mem_cons, List.not_mem_nil, false_imp_iff, implies_true, and_true]
    exact ⟨⟨by decide, by decide⟩, trivial, ⟨by decide, by decide⟩⟩
  obtain ⟨r, hr⟩ : ∃ r, Route.compile "/desk//Top".toList .loose = .ok r := ⟨_, rfl⟩
  obtain ⟨c, hc, hmatched⟩ : ∃ c, r.pattern.exec "/DE\u017Fk/tOP/x".toList = some c ∧
      c.matched = "/DE\u017Fk/tOP".toList := by
    rw [exec_spelling hT hr]
    exact ⟨_, rfl, by decide⟩
  obtain ⟨⟨w, hw | ⟨hstrict, -⟩, -, hsame⟩, hcase⟩ := (exec_literal hT hr "/DE\u017Fk/tOP/x".toList).2 c hc
  · obtain ⟨c', hc', hoffset⟩ := hcase "/de\u017FK/top/X".toList (by decide)
    have hspelling : spelling "/desk//Top".toList = "/desk/Top".toList := by decide
    rw [hspelling, ← hw] at hsame
    refine ⟨r, c, hr, hc, hmatched, fun h => (hsame.1 h).1 ?_, c', hc', hoffset⟩
    rw [hmatched]
    decide
  · cases hstrict

/-- The Kelvin sign is matched by `k`, and differs from it in more than the case of an ASCII letter. -/
theorem exec_literal_kelvin : segments "/k".toList = [.literal "k".toList] ∧ (Segment.literal "k".toList).Ascii ∧
    ∃ r c, Route.compile "/k".toList .strict = .ok r ∧ r.pattern.exec "/\u212A".toList = some c ∧
      ∀ w, c.matched = w ∨ c.matched = w ++ ['/'] → ¬ SameAscii "/k".toList w := by
  have hsegments : segments "/k".toList = [.literal "k".toList] := by decide
  have hk : (Segment.literal "k".toList).Ascii := ⟨by decide, by decide⟩
  have hT : ∀ s ∈ segments "/k".toList, s.Ascii := by
    rw [hsegments]
    exact List.forall_mem_singleton.2 hk
  obtain ⟨r, hr⟩ : ∃ r, Route.compile "/k".toList .strict = .ok r := ⟨_, rfl⟩
  obtain ⟨c, hc, hmatched⟩ : ∃ c, r.pattern.exec "/\u212A".toList = some c ∧ c.matched = "/\u212A".toList := by
    rw [exec_spelling hT hr, if_pos (by decide +kernel)]
    exact ⟨_, rfl, by decide⟩
  refine ⟨hsegments, hk, r, c, hr, hc, ?_⟩
  rintro w (h | h)
  · rw [← h, hmatched]
    decide
  · rw [hmatched] at h
    have hlast := congrArg List.getLast? h
    rw [List.getLast?_concat] at hlast
    exact absurd hlast (by decide)

end Template

end PathRouter
