/-
Extensions with dots in them. Only the first dot of an extension is escaped in the pattern text, and a later one
stands for any character but a line feed (`Resembles`). The ways of a value with an extension take what resembles
the extension behind the value (`Regex.mem_ways_valueRegexes`).
-/
import PathRouter.Proofs.Template.Fits
import PathRouter.Proofs.Template.Uncounted

namespace PathRouter

open Regex

/-! ## What resembles an extension -/

/-- The characters that stand where a character of an extension does, behind the first dot. -/
def standsFor (c : Char) : CharSet :=
  if c = '.' then (· != '\n') else Unicode.sameFold c

/-- Whether a text is taken for an extension: both begin with a dot, and the characters behind stand for each other. -/
def Resembles (e w : Text) : Prop :=
  ∃ ext u, e = '.' :: ext ∧ w = '.' :: u ∧ List.Forall₂ (fun c d => standsFor c d = true) ext u

theorem Resembles.length {e w : Text} (h : Resembles e w) : w.length = e.length := by
  obtain ⟨ext, u, rfl, rfl, hu⟩ := h
  rw [List.length_cons, List.length_cons, hu.length_eq]

/-- An extension resembles itself, up to case. -/
theorem Alike.resembles {ext w : Text} (h : Alike ('.' :: ext) w) : Resembles ('.' :: ext) w := by
  obtain ⟨u, rfl, hu⟩ := (alike_cons_low (by decide) (by decide)).1 h
  refine ⟨ext, u, rfl, rfl, hu.imp fun c d hd => ?_⟩
  by_cases hc : c = '.'
  · subst hc
    rw [sameFold_dot.1 hd]
    rfl
  · rw [standsFor, if_neg hc]
    exact hd

/-- Behind a single dot, only the extension itself resembles it, up to case. -/
theorem Resembles.alike {ext w : Text} (h : Resembles ('.' :: ext) w) (hdot : '.' ∉ ext) : Alike ('.' :: ext) w := by
  obtain ⟨_, u, he, rfl, hu⟩ := h
  cases he
  refine .cons (Unicode.sameFold_refl '.') ?_
  induction hu with
  | nil => exact .nil
  | @cons c d ext u hd _ ih =>
    have hc : c ≠ '.' := fun hc => hdot (hc ▸ List.mem_cons_self)
    rw [standsFor, if_neg hc] at hd
    exact .cons hd (ih fun hmem => hdot (List.mem_cons_of_mem c hmem))

/-- The characters of a text stand for themselves in pattern text, but for dots. -/
def DottedText (t : Text) : Prop := ∀ c ∈ t, c = '.' ∨ c ∉ metaChars

theorem Template.uncounted_dotted {t : Text} (h : DottedText t) : uncounted t = t := by
  have happend : uncounted (t ++ []) = t ++ uncounted [] := by
    refine uncounted_append (fun c hc => ?_) []
    refine ⟨?_, ?_, ?_⟩ <;> rintro rfl <;> rcases h _ hc with h | h <;> revert h <;> decide
  rw [List.append_nil] at happend
  rw [happend]
  exact List.append_nil t

namespace Regex

/-- The character sets that an extension is read as, without and with its first dot. -/
def stands (ext : Text) : List CharSet :=
  Unicode.sameFold '.' :: ext.map standsFor

/-- The expressions of a value behind a slash, and of an extension behind it. -/
def valueRegexes (n : Nat) (ext : Text) : List Regex :=
  behindSlash (value (n + 1)) ++ (stands ext).map .chars

/-- Character sets take the texts with a member of each. -/
theorem mem_ways_chars {t : Text} {q : Progress} : ∀ {sets : List CharSet} {p : Progress},
    q ∈ ways (concatAll (sets.map .chars)) t p ↔
      ∃ w, List.Forall₂ (fun s c => s c = true) sets w ∧ w <+: p.rest t ∧ q = p.skip w.length
  | [], p => by
    rw [List.map_nil, concatAll, ways_empty, List.mem_singleton]
    constructor
    · rintro rfl
      exact ⟨[], .nil, List.nil_prefix, rfl⟩
    · rintro ⟨w, hw, -, rfl⟩
      cases hw
      rfl
  | s :: sets, p => by
    rw [List.map_cons, concatAll, ways_concat, List.mem_flatMap]
    cases hr : p.rest t with
    | nil =>
      rw [ways_chars_nil hr]
      constructor
      · rintro ⟨_, hq, -⟩
        cases hq
      · rintro ⟨w, hw, hp, -⟩
        rw [List.prefix_nil.1 hp] at hw
        cases hw
    | cons c u =>
      rw [ways_chars_cons hr]
      constructor
      · rintro ⟨p', hp', hq⟩
        split at hp'
        · rename_i hc
          obtain rfl := List.mem_singleton.1 hp'
          obtain ⟨w, hw, hp, rfl⟩ := mem_ways_chars.1 hq
          rw [Progress.rest_skip_cons hr] at hp
          refine ⟨c :: w, .cons hc hw, List.cons_prefix_cons.2 ⟨rfl, hp⟩, ?_⟩
          rw [Progress.skip_skip, List.length_cons, Nat.add_comm]
        · cases hp'
      · rintro ⟨w, hw, hp, rfl⟩
        cases hw with
        | @cons _ d _ w hd hw =>
          obtain ⟨rfl, hp⟩ := List.cons_prefix_cons.1 hp
          refine ⟨p.skip 1, by rw [if_pos hd]; exact List.mem_singleton_self _, mem_ways_chars.2 ⟨w, hw, ?_, ?_⟩⟩
          · rwa [Progress.rest_skip_cons hr]
          · rw [Progress.skip_skip, List.length_cons, Nat.add_comm]

theorem forall₂_stands {ext w : Text} :
    List.Forall₂ (fun s c => s c = true) (stands ext) w ↔ Resembles ('.' :: ext) w := by
  rw [stands, List.forall₂_cons_left_iff]
  constructor
  · rintro ⟨d, u, hd, hu, rfl⟩
    rw [List.forall₂_map_left_iff] at hu
    exact ⟨ext, u, rfl, by rw [sameFold_dot.1 hd], hu⟩
  · rintro ⟨_, u, he, rfl, hu⟩
    cases he
    exact ⟨'.', u, Unicode.sameFold_refl '.', List.forall₂_map_left_iff.2 hu, rfl⟩

/-- The ways of a value with an extension take it behind a slash, and what resembles the extension behind it. -/
theorem mem_ways_valueRegexes {n : Nat} {ext t : Text} {p q : Progress} :
    q ∈ ways (concatAll (valueRegexes n ext)) t p ↔
    ∃ v w, v ≠ [] ∧ '/' ∉ v ∧ Resembles ('.' :: ext) w ∧ '/' :: (v ++ w) <+: p.rest t ∧
      q = (landed (n + 1) p (some v, v.length + 1)).skip w.length := by
  rw [valueRegexes, ways_concatAll_append, ways_behindSlash fun q => ways_value (n + 1)]
  simp only [List.mem_flatMap, List.mem_map]
  constructor
  · rintro ⟨_, ⟨⟨_, k⟩, hk, rfl⟩, hq⟩
    obtain ⟨u, j, hrest, rfl, hv⟩ := Segment.mem_afterSlash.1 hk
    obtain ⟨v, rfl, rfl, hne, hslash, u, rfl⟩ := Segment.mem_values.1 hv
    obtain ⟨w, hw, hp, rfl⟩ := mem_ways_chars.1 hq
    rw [rest_landed, hrest, List.drop_succ_cons, List.drop_left] at hp
    rw [hrest]
    exact ⟨v, w, hne, hslash, forall₂_stands.1 hw,
      List.cons_prefix_cons.2 ⟨rfl, (List.prefix_append_right_inj v).2 hp⟩, rfl⟩
  · rintro ⟨v, w, hne, hslash, hw, ⟨u, hu⟩, rfl⟩
    have hrest : p.rest t = '/' :: (v ++ (w ++ u)) := by
      rw [← hu, List.cons_append, List.append_assoc]
    refine ⟨_, ⟨(some v, v.length + 1), ?_, rfl⟩, mem_ways_chars.2 ⟨w, forall₂_stands.2 hw, ?_, rfl⟩⟩
    · have hvalue := Segment.mem_values.2 ⟨v, rfl, rfl, hne, hslash, List.prefix_append v (w ++ u)⟩
      rw [hrest]
      exact Segment.mem_afterSlash.2 ⟨_, v.length, rfl, rfl, hvalue⟩
    · rw [rest_landed, hrest, List.drop_succ_cons, List.drop_left]
      exact List.prefix_append w u

end Regex

/-! ## Reading an extension -/

open Regex.Reader

namespace Regex.Reader

variable {n : Nat} {names : List (Nat × Text)} {ps bs : List Piece} {outer : List OpenGroup} {v : Text}

/-- Behind its first dot, an extension is read character by character, dots as they are. -/
theorem reads_standsFor : ∀ {ext : Text} {ps : List Piece}, DottedText ext →
    Reads ⟨routeFlags, n, names, ps, bs, outer⟩ (ext ++ v)
      ⟨routeFlags, n, names, (ext.map fun c => Piece.leaf (.chars (standsFor c))).reverse ++ ps, bs, outer⟩ v
  | [], _, _ => .done
  | c :: ext, ps, h => by
    have step : Reads ⟨routeFlags, n, names, ps, bs, outer⟩ (c :: (ext ++ v))
        ⟨routeFlags, n, names, .leaf (.chars (standsFor c)) :: ps, bs, outer⟩ (ext ++ v) := by
      by_cases hc : c = '.'
      · subst hc
        exact .step rfl rfl rfl .done
      · rw [standsFor, if_neg hc]
        exact Reads.add rfl (token_char ((h c List.mem_cons_self).resolve_left hc) _)
    simpa using step.trans (reads_standsFor fun d hd => h d (List.mem_cons_of_mem c hd))

end Regex.Reader

/-- A required parameter with an extension is read as its value and the characters of the extension. -/
theorem Segment.denotes_dotted (name : Text) {ext : Text} (h : DottedText ext) (n : Nat) :
    (param ⟨name, false, none, some ('.' :: ext)⟩).Denotes n (valueRegexes n ext) := by
  constructor
  · intro ps v _
    have hsource : (param ⟨name, false, none, some ('.' :: ext)⟩).source ++ v =
        '/' :: ("([^/]+?)".toList ++ ('\\' :: '.' :: (ext ++ v))) := by
      rw [source_param, Param.source]
      show "/(".toList ++ "[^/]+?".toList ++ ")".toList ++ "\\.".toList ++ Template.uncounted ext ++ v = _
      rw [Template.uncounted_dotted h]
      simp
    have front : Reads ⟨routeFlags, n, [], ps, [], []⟩ ('/' :: ("([^/]+?)".toList ++ ('\\' :: '.' :: (ext ++ v))))
        ⟨routeFlags, n + 1, [], [.leaf (.chars (Unicode.sameFold '.')), ⟨value (n + 1), 3, false⟩,
          .leaf (.chars (Unicode.sameFold '/'))] ++ ps, [], []⟩ (ext ++ v) :=
      .step rfl rfl rfl (reads_value.trans (.step rfl rfl rfl .done))
    rw [hsource]
    refine ⟨(ext.map fun c => Piece.leaf (.chars (standsFor c))).reverse ++ [.leaf (.chars (Unicode.sameFold '.')),
      ⟨value (n + 1), 3, false⟩, .leaf (.chars (Unicode.sameFold '/'))], ?_, ?_, fun q hq => ?_⟩
    · rw [List.append_assoc]
      exact front.trans (reads_standsFor h)
    · simp [valueRegexes, stands, behindSlash, letters, Piece.leaf, Function.comp_def]
    · have hfront : ∀ q ∈ [Piece.leaf (.chars (Unicode.sameFold '.')), ⟨value (n + 1), 3, false⟩,
          .leaf (.chars (Unicode.sameFold '/'))], q.height ≤ 6 := by
        simp [Piece.leaf]
      rcases List.mem_append.1 hq with hq | hq
      · obtain ⟨c, -, rfl⟩ := List.mem_map.1 (List.mem_reverse.1 hq)
        exact Nat.zero_le 6
      · exact hfront q hq
  · rw [valueRegexes, List.map_append, List.sum_append, leastSize_chars, stands]
    simp [behindSlash, letters, value, captured, Regex.leastSize, Regex.leastFork, Segment.leastSize]

end PathRouter
