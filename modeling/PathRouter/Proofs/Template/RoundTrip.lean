/-
Injection and matching are inverse. On the path that a plain template makes of values, the values come
before all others that fit (`Template.preferred_given`), so a route of the template captures them
again; a loose route does so with more path behind.
-/
import PathRouter.Proofs.Template.Fits
import PathRouter.Template.Inject

namespace PathRouter

open Regex

/-! ## Texts of present values -/

theorem Decimal.digitsOf_ne_nil (n : Nat) : digitsOf n ≠ [] := Nat.toDigits_ne_nil

namespace Json

theorem Number.intText_ne_nil (n : Int) : intText n ≠ [] := by
  rw [intText]
  split
  · exact List.cons_ne_nil _ _
  · exact Decimal.digitsOf_ne_nil _

theorem Number.decimalText_ne_nil (r : PlainRange) (d : Decimal) : decimalText r d ≠ [] := by
  rw [decimalText]
  split
  · rw [plainText]
    split
    · simp
    · split <;> simp
  · simp [exponentText]

theorem Number.text_ne_nil (n : Number) : n.text ≠ [] := by
  cases n with
  | int n => exact intText_ne_nil n
  | float negative m =>
    cases negative with
    | true => exact List.cons_ne_nil _ _
    | false =>
      show (if m.significand = 0 then "0.0".toList else _) ≠ []
      split
      · decide
      · exact decimalText_ne_nil _ _

theorem text_array_ne_nil (items : List Json) : (array items).text ≠ [] := by
  cases items with
  | nil => decide
  | cons item items => rw [text]; exact List.cons_ne_nil _ _

theorem text_object_ne_nil (members : List (Text × Json)) : (object members).text ≠ [] := by
  cases members with
  | nil => decide
  | cons member members => rw [text]; exact List.cons_ne_nil _ _

/-- The text of a present value is not empty. -/
theorem presentText?_ne_nil {v : Json} {t : Text} (h : v.presentText? = some t) : t ≠ [] := by
  unfold presentText? at h
  cases v with
  | null => cases h
  | bool b =>
    cases b with
    | false => cases h
    | true => cases h; decide
  | number n =>
    dsimp only at h
    split at h
    · cases h
    · cases h
      exact n.text_ne_nil
  | string s =>
    cases s with
    | nil => cases h
    | cons => cases h; exact List.cons_ne_nil _ _
  | array items => cases h; exact text_array_ne_nil items
  | object members => cases h; exact text_object_ne_nil members

end Json

theorem Values.text?_ne_nil {values : Values} {name v : Text} (h : values.text? name = some v) : v ≠ [] := by
  obtain ⟨value, -, hv⟩ := Option.bind_eq_some_iff.1 h
  exact Json.presentText?_ne_nil hv

/-! ## Pieces of tidy templates -/

/-- The template begins with a slash, does not end in one, and has no two in a row. -/
structure Template.Tidy (T : Text) : Prop where
  begins : T.head? = some '/'
  single : ¬ ['/', '/'] <:+: T
  ends : T.getLast? ≠ some '/'

namespace Text

variable {sep : Char}

theorem split_cons_of_ne {c : Char} {t : Text} (h : c ≠ sep) :
    ∃ p ps, split sep t = p :: ps ∧ split sep (c :: t) = (c :: p) :: ps := by
  obtain ⟨p, ps, hp⟩ := List.exists_cons_of_ne_nil (split_ne_nil sep t)
  exact ⟨p, ps, hp, by rw [split, if_neg h, hp]⟩

/-- No piece has the separator in it. -/
theorem not_mem_of_mem_split : ∀ {t p : Text}, p ∈ split sep t → sep ∉ p
  | [], p, h => by
    rw [List.mem_singleton.1 h]
    exact List.not_mem_nil
  | c :: t, p, h => by
    by_cases hc : c = sep
    · rw [split, if_pos hc] at h
      rcases List.mem_cons.1 h with rfl | h
      · exact List.not_mem_nil
      · exact not_mem_of_mem_split h
    · obtain ⟨q, ps, hq, hs⟩ := split_cons_of_ne (t := t) hc
      rw [hs] at h
      rcases List.mem_cons.1 h with rfl | h
      · exact List.not_mem_cons_of_ne_of_not_mem (Ne.symm hc) (not_mem_of_mem_split (hq ▸ List.mem_cons_self))
      · exact not_mem_of_mem_split (hq ▸ List.mem_cons_of_mem q h)

/-- Pieces behind a separator are not empty if no other separator follows at once and none is last. -/
theorem ne_nil_of_mem_tail_split : ∀ {t : Text}, ¬ [sep, sep] <:+: t → t.getLast? ≠ some sep →
    ∀ p ∈ (split sep t).tail, p ≠ []
  | [], _, _, p, hp => by cases hp
  | c :: t, hsingle, hends, p, hp => by
    have hsingle' : ¬ [sep, sep] <:+: t := fun h => hsingle (h.trans (List.infix_cons (List.infix_refl t)))
    have ih : t ≠ [] → ∀ p ∈ (split sep t).tail, p ≠ [] := fun hne =>
      ne_nil_of_mem_tail_split hsingle' fun h => hends (by rw [List.getLast?_cons, h]; rfl)
    by_cases hc : c = sep
    · subst hc
      rw [split, if_pos rfl, List.tail_cons] at hp
      cases t with
      | nil => exact absurd rfl hends
      | cons d t =>
        have hd : d ≠ c := by
          rintro rfl
          exact hsingle (List.IsPrefix.isInfix ⟨t, rfl⟩)
        obtain ⟨q, ps, -, hs⟩ := split_cons_of_ne (t := t) hd
        rw [hs] at hp ih
        rcases List.mem_cons.1 hp with rfl | hp
        · exact List.cons_ne_nil d q
        · exact ih (List.cons_ne_nil d t) p hp
    · obtain ⟨q, ps, hq, hs⟩ := split_cons_of_ne (t := t) hc
      rw [hs, List.tail_cons] at hp
      cases t with
      | nil =>
        cases hq
        cases hp
      | cons d t => exact ih (List.cons_ne_nil d t) p (by rw [hq]; exact hp)

end Text

namespace Template

/-- The pieces of a tidy template are those behind its slashes, and none is empty. -/
theorem Tidy.split_eq {T : Text} (h : Tidy T) :
    Text.split '/' T = [] :: pieces T ∧ ∀ p ∈ pieces T, p ≠ [] := by
  obtain ⟨t, rfl⟩ : ∃ t, T = '/' :: t := by
    cases T with
    | nil => cases h.begins
    | cons c t => exact ⟨t, by rw [Option.some.inj h.begins]⟩
  have hs : Text.split '/' ('/' :: t) = [] :: Text.split '/' t := by rw [Text.split, if_pos rfl]
  have hp : pieces ('/' :: t) = Text.split '/' t := by rw [pieces, hs]
  refine ⟨by rw [hs, hp], fun p hmem => ?_⟩
  have := Text.ne_nil_of_mem_tail_split h.single h.ends p
  rw [hs, List.tail_cons, ← hp] at this
  exact this hmem

end Template

/-! ## The path made of values -/

/-- The values hold a text for the key of the segment that it can take. -/
def Segment.Accepts (values : Values) : Segment → Prop
  | empty | literal _ => True
  | param p => ∃ v, values.text? p.name = some v ∧ '/' ∉ v
  | wildcard _ => ∃ v, values.text? Template.wildcardKey = some v ∧ '\n' ∉ v

/-- The part of a path that a segment makes of values. -/
def Segment.given (values : Values) : Segment → Text
  | empty => []
  | literal text => '/' :: text
  | param p => '/' :: (values.text? p.name).getD [] ++ p.suffix.getD []
  | wildcard _ => '/' :: (values.text? Template.wildcardKey).getD []

/-- No segment stands behind a wildcard. -/
def Template.WildLast : List Segment → Prop
  | [] => True
  | .wildcard _ :: ss => ss = []
  | _ :: ss => WildLast ss

namespace Segment

theorem parse_eq_empty {piece : Text} (h : parse piece = empty) : piece = [] := by
  unfold parse at h
  split at h
  · rfl
  · cases h
  · cases h
  · cases h

theorem parse_eq_literal {piece text : Text} (h : parse piece = literal text) : piece = text := by
  unfold parse at h
  split at h
  · cases h
  · cases h
  · cases h
  · exact literal.inj h

theorem slash_not_mem_suffix {piece : Text} {p : Param} (h : parse piece = param p) (hslash : '/' ∉ piece) :
    '/' ∉ p.suffix.getD [] := by
  cases hs : p.suffix with
  | none => exact List.not_mem_nil
  | some s => exact fun hmem => hslash ((suffix_of_parse h hs).subset hmem)

end Segment

namespace Template

variable {values : Values}

theorem injectPiece_eq {piece : Text} (hne : piece ≠ []) (h : (Segment.parse piece).Accepts values) :
    injectPiece values ['/'] piece = (Segment.parse piece).given values := by
  unfold injectPiece
  cases hs : Segment.parse piece with
  | empty => exact absurd (Segment.parse_eq_empty hs) hne
  | literal text =>
    rw [Segment.parse_eq_literal hs]
    rfl
  | wildcard o =>
    rw [hs] at h
    obtain ⟨v, hv, -⟩ := h
    simp only [Segment.given, hv, Option.map_some, Option.getD_some]
  | param p =>
    rw [hs] at h
    obtain ⟨v, hv, -⟩ := h
    simp only [Segment.given, hv, Option.getD_some]

/-- Injection goes through a tidy template segment by segment. -/
theorem inject_eq {T : Text} (hT : Tidy T) (hvalues : ∀ s ∈ segments T, s.Accepts values) :
    inject T values = (segments T).flatMap (Segment.given values) := by
  obtain ⟨hsplit, hne⟩ := hT.split_eq
  rw [inject, hsplit]
  show [] ++ (pieces T).flatMap (injectPiece values ['/']) = ((pieces T).map Segment.parse).flatMap
    (Segment.given values)
  rw [List.nil_append, List.flatMap_map]
  exact List.flatMap_congr fun p hp => injectPiece_eq (hne p hp) (hvalues _ (List.mem_map_of_mem hp))

theorem slash_not_mem_piece {T piece : Text} (h : piece ∈ pieces T) : '/' ∉ piece := by
  unfold pieces at h
  split at h
  · rename_i heq
    exact Text.not_mem_of_mem_split (heq ▸ List.mem_cons_of_mem _ h)
  · exact Text.not_mem_of_mem_split h

/-- Suffixes hold no slash. -/
theorem slash_not_mem_suffix {T : Text} {p : Param} (hp : .param p ∈ segments T) {s : Text} (hs : p.suffix = some s) :
    '/' ∉ s := by
  obtain ⟨piece, hmem, hpiece⟩ := List.mem_map.1 hp
  have hsuffix := Segment.slash_not_mem_suffix hpiece (slash_not_mem_piece hmem)
  rwa [hs] at hsuffix

end Template

/-! ## The given values are preferred -/

theorem Alike.refl (t : Text) : Alike t t := by
  rw [Alike, List.forall₂_same]
  exact fun c _ => Unicode.sameFold_refl c

/-- The text is empty or begins with a slash. -/
def AtSlash (t : Text) : Prop := ∀ c ∈ t.head?, c = '/'

theorem atSlash_nil : AtSlash [] := fun _ h => by cases h

theorem atSlash_cons (t : Text) : AtSlash ('/' :: t) := fun _ h => (Option.some.inj h).symm

theorem Template.Mode.atSlash_of_ends {mode : Mode} {t : Text} (h : mode.ends t = true) : AtSlash t := by
  cases t with
  | nil => exact atSlash_nil
  | cons c t =>
    cases mode with
    | strict =>
      have : c = '/' ∧ t = [] := by simpa [ends] using h
      exact this.1 ▸ atSlash_cons t
    | loose =>
      have : c = '/' := by simpa [ends] using h
      exact this ▸ atSlash_cons t

/-- A text without a slash does not go beyond a place at a slash. -/
theorem length_le_of_atSlash {a b x y : Text} (h : a ++ x = b ++ y) (hb : '/' ∉ b) (hx : AtSlash x) :
    b.length ≤ a.length := by
  rcases List.append_eq_append_iff.1 h with ⟨c, rfl, rfl⟩ | ⟨c, rfl, rfl⟩
  · cases c with
    | nil => simp
    | cons d c =>
      have hd : d = '/' := hx d rfl
      exact absurd (List.mem_append_right a (hd ▸ List.mem_cons_self)) hb
  · simp

namespace Segment

variable {values : Values} {s : Segment} {vs : List (Option Text)} {w x y : Text}

/-- A segment takes the part of a path that it makes of values. -/
theorem takes_given (hs : s.Plain) (h : s.Accepts values) : s.Takes (s.keys.map values.text?) (s.given values) := by
  cases s with
  | empty => exact .empty
  | literal text => exact .literal (.refl text)
  | wildcard o =>
    obtain ⟨v, hv, hn⟩ := h
    simp only [keys, given, List.map_cons, List.map_nil, hv, Option.getD_some]
    exact .wild hn
  | param p =>
    obtain ⟨v, hv, hslash⟩ := h
    have hne := Values.text?_ne_nil hv
    simp only [keys, given, List.map_cons, List.map_nil, hv, Option.getD_some]
    cases hsuffix : p.suffix with
    | none =>
      rw [Option.getD_none, List.append_nil]
      exact .value hsuffix hne hslash
    | some suffix =>
      obtain ⟨ext, rfl, -⟩ := hs.2 suffix hsuffix
      exact .suffixed hsuffix hne hslash (.refl ext)

theorem Takes.atSlash (h : s.Takes vs w) (hx : AtSlash x) : AtSlash (w ++ x) := by
  cases h with
  | empty | noValue | noWild => exact hx
  | literal | value | suffixed | bare | wild => exact atSlash_cons _

/-- Of a path that goes on with other segments or ends, a parameter takes the given value, or one that
it does not prefer. -/
theorem param_eq_or_prefers {p : Param} (hsuffix : ∀ suffix, p.suffix = some suffix → '/' ∉ suffix)
    {v : Text} (hslash : '/' ∉ v) (hw : (param p).Takes vs w) (heq : w ++ x = '/' :: v ++ p.suffix.getD [] ++ y)
    (hx : AtSlash x) (hy : AtSlash y) :
    (vs = [some v] ∧ w = '/' :: v ++ p.suffix.getD []) ∨ ∃ v', vs = [v'] ∧ (param p).Prefers (some v) v' := by
  cases hw with
  | noValue | bare => exact .inr ⟨none, rfl, trivial⟩
  | @value _ v' hnone hne hslash' =>
    rw [hnone, Option.getD_none, List.append_nil] at heq ⊢
    have heq : v' ++ x = v ++ y := (List.cons.inj heq).2
    have hlen := Nat.le_antisymm (length_le_of_atSlash heq.symm hslash' hy) (length_le_of_atSlash heq hslash hx)
    rw [(List.append_inj heq hlen).1]
    exact .inl ⟨rfl, rfl⟩
  | @suffixed _ ext v' w' hsome hne hslash' hext =>
    rw [hsome, Option.getD_some] at heq ⊢
    have heq : (v' ++ '.' :: w') ++ x = (v ++ '.' :: ext) ++ y := (List.cons.inj heq).2
    have hfree : '/' ∉ v ++ '.' :: ext := fun h => by
      rcases List.mem_append.1 h with h | h
      · exact hslash h
      · exact hsuffix _ hsome h
    -- Both suffixes are as long, and the value taken does not end before the given one.
    have hle := length_le_of_atSlash heq hfree hx
    have hlen := hext.length
    simp only [List.length_append, List.length_cons] at hle
    by_cases hlt : v.length < v'.length
    · exact .inr ⟨some v', rfl, hlt⟩
    · rw [List.append_assoc, List.append_assoc] at heq
      obtain ⟨rfl, htail⟩ := List.append_inj heq (by omega)
      rw [(List.append_inj htail (congrArg (· + 1) hlen.symm)).1]
      exact .inl ⟨rfl, rfl⟩

/-- Of a path that goes on with other segments or ends, a segment takes what it makes of the given
values, or has a value that it does not prefer. A wildcard takes everything, so nothing may follow it. -/
theorem given_eq_or_prefers (hs : s.Plain) (hsuffix : ∀ p suffix, s = param p → p.suffix = some suffix → '/' ∉ suffix)
    (hvalues : s.Accepts values) (hw : s.Takes vs w) (heq : w ++ x = s.given values ++ y) (hx : AtSlash x)
    (hy : AtSlash y)
    (hwild : ∀ o, s = wildcard o → y = []) :
    (vs = s.keys.map values.text? ∧ w = s.given values) ∨
      ∃ v v', s.keys.map values.text? = [v] ∧ vs = [v'] ∧ s.Prefers v v' := by
  cases s with
  | empty =>
    cases hw
    exact .inl ⟨rfl, rfl⟩
  | literal text =>
    cases hw with
    | @literal _ w' hw' =>
      have heq : w' ++ x = text ++ y := (List.cons.inj heq).2
      rw [(List.append_inj heq hw'.length.symm).1]
      exact .inl ⟨rfl, rfl⟩
  | wildcard o =>
    obtain ⟨v, hv, -⟩ := hvalues
    simp only [keys, given, List.map_cons, List.map_nil, hv, Option.getD_some] at heq ⊢
    rw [hwild o rfl, List.append_nil] at heq
    cases hw with
    | noWild => exact .inr ⟨some v, none, rfl, rfl, trivial⟩
    | @wild _ v' _ =>
      have heq : v' ++ x = v := (List.cons.inj heq).2
      cases x with
      | nil => exact .inl (by rw [← heq, List.append_nil]; exact ⟨rfl, rfl⟩)
      | cons c x =>
        refine .inr ⟨some v, some v', rfl, rfl, ?_⟩
        show v'.length < v.length
        rw [← heq, List.length_append, List.length_cons]
        omega
  | param p =>
    obtain ⟨v, hv, hslash⟩ := hvalues
    simp only [keys, given, List.map_cons, List.map_nil, hv, Option.getD_some] at heq ⊢
    rcases param_eq_or_prefers (hsuffix p · rfl) hslash hw heq hx hy with h | ⟨v', h, hp⟩
    · exact .inl h
    · exact .inr ⟨some v, v', rfl, h, hp⟩

end Segment

namespace Template

variable {values : Values}

/-- Segments take the path that they make of values. -/
theorem takes_given : ∀ {ss : List Segment}, (∀ s ∈ ss, s.Plain) → (∀ s ∈ ss, s.Accepts values) →
    Takes ss ((ss.flatMap Segment.keys).map values.text?) (ss.flatMap (Segment.given values))
  | [], _, _ => .nil
  | s :: ss, hs, hvalues => by
    rw [List.flatMap_cons, List.flatMap_cons, List.map_append]
    exact .cons (Segment.takes_given (hs s List.mem_cons_self) (hvalues s List.mem_cons_self))
      (takes_given (fun s' h => hs s' (List.mem_cons_of_mem s h)) fun s' h => hvalues s' (List.mem_cons_of_mem s h))

theorem Takes.atSlash {ss : List Segment} {vs : List (Option Text)} {w x : Text} (h : Takes ss vs w) (hx : AtSlash x) :
    AtSlash (w ++ x) := by
  induction h with
  | nil => exact hx
  | cons hs _ ih =>
    rw [List.append_assoc]
    exact hs.atSlash ih

theorem WildLast.tail {s : Segment} {ss : List Segment} (h : WildLast (s :: ss)) : WildLast ss := by
  cases s with
  | wildcard o =>
    cases (show ss = [] from h)
    trivial
  | empty | literal | param => exact h

theorem Prefers.later {s : Segment} {ss : List Segment} {us vs ws : List (Option Text)}
    (hlen : us.length = s.keys.length)
    (h : Prefers ss vs ws) : Prefers (s :: ss) (us ++ vs) (us ++ ws) := by
  cases s with
  | empty | literal =>
    rw [List.eq_nil_of_length_eq_zero hlen]
    exact h
  | param | wildcard =>
    obtain ⟨v, rfl⟩ := List.length_eq_one_iff.1 hlen
    exact .inr ⟨rfl, h⟩

theorem Prefers.first {s : Segment} {ss : List Segment} {v w : Option Text} {vs ws : List (Option Text)}
    (hk : s.keys.length = 1) (h : s.Prefers v w) : Prefers (s :: ss) (v :: vs) (w :: ws) := by
  cases s with
  | empty | literal => cases hk
  | param | wildcard => exact .inl h

/-- On the path made of values, with more behind it if no wildcard takes that, segments take these
values or do not prefer what they take. -/
theorem given_eq_or_prefers {x rest : Text} (hx : AtSlash x) :
    ∀ {ss : List Segment} {vs : List (Option Text)} {w : Text},
    (∀ s ∈ ss, s.Plain) → (∀ p suffix, .param p ∈ ss → p.suffix = some suffix → '/' ∉ suffix) →
    (∀ s ∈ ss, s.Accepts values) → WildLast ss → AtSlash rest → ((∃ o, .wildcard o ∈ ss) → rest = []) →
    Takes ss vs w → w ++ x = ss.flatMap (Segment.given values) ++ rest →
    (vs = (ss.flatMap Segment.keys).map values.text? ∧ w = ss.flatMap (Segment.given values)) ∨
      Prefers ss ((ss.flatMap Segment.keys).map values.text?) vs
  | [], vs, w, _, _, _, _, _, _, hw, _ => by
    cases hw
    exact .inl ⟨rfl, rfl⟩
  | s :: ss, _, _, hs, hsuffix, hvalues, hlast, hrest, hwild, hw, heq => by
    cases hw with
    | @cons _ _ vs ws w w' hw hw' =>
      have hs' : ∀ s' ∈ ss, s'.Plain := fun s' h => hs s' (List.mem_cons_of_mem s h)
      have hvalues' : ∀ s' ∈ ss, s'.Accepts values := fun s' h => hvalues s' (List.mem_cons_of_mem s h)
      rw [List.flatMap_cons, List.flatMap_cons, List.map_append]
      rw [List.flatMap_cons, List.append_assoc, List.append_assoc] at heq
      have hnone : ∀ o, s = .wildcard o → ss.flatMap (Segment.given values) ++ rest = [] := by
        rintro o rfl
        rw [show ss = [] from hlast, hwild ⟨o, List.mem_cons_self⟩]
        rfl
      rcases Segment.given_eq_or_prefers (hs s List.mem_cons_self)
        (fun p suffix h => hsuffix p suffix (h ▸ List.mem_cons_self))
          (hvalues s List.mem_cons_self) hw heq (hw'.atSlash hx)
        ((takes_given hs' hvalues').atSlash hrest) hnone with ⟨rfl, rfl⟩ | ⟨v, v', hv, rfl, hp⟩
      · rcases given_eq_or_prefers hx hs' (fun p suffix h => hsuffix p suffix (List.mem_cons_of_mem s h))
          hvalues' hlast.tail
          hrest (fun ⟨o, h⟩ => hwild ⟨o, List.mem_cons_of_mem s h⟩) hw'
            (List.append_cancel_left heq) with ⟨rfl, rfl⟩ | h
        · exact .inl ⟨rfl, rfl⟩
        · exact .inr (h.later (by rw [List.length_map]))
      · rw [hv]
        exact .inr (.first (by simpa using congrArg List.length hv) hp)

/-- The first way to spread over the path made of values takes these values, also with more behind. -/
theorem find?_given {T : Text} (hT : Plain T) (htidy : Tidy T) (hlast : WildLast (segments T))
    (hvalues : ∀ s ∈ segments T, s.Accepts values) {mode : Mode} {rest : Text} (hrest : mode.ends rest = true)
    (hwild : (∃ o, .wildcard o ∈ segments T) → rest = []) :
    ((spread (segments T) (inject T values ++ rest)).find? fun x => mode.ends ((inject T values ++ rest).drop x.2)) =
      some ((keys T).map values.text?, (inject T values).length) := by
  rw [inject_eq htidy hvalues, find?_eq_some_iff_of_pairwise Prefers.asymm (pairwise_spread _ _)]
  refine ⟨⟨?_, ?_⟩, ?_⟩
  · exact (mem_spread hT).2 ⟨_, takes_given hT hvalues, List.prefix_append _ _, rfl⟩
  · rw [List.drop_left]
    exact hrest
  · rintro ⟨vs, k⟩ hmem hends
    obtain ⟨w, hw, ⟨x, hx⟩, rfl⟩ := (mem_spread hT).1 hmem
    rw [← hx, List.drop_left] at hends
    rcases given_eq_or_prefers (Mode.atSlash_of_ends hends) hT
      (fun p suffix hp => slash_not_mem_suffix hp) hvalues hlast
      (Mode.atSlash_of_ends hrest) hwild hw hx with ⟨rfl, rfl⟩ | h
    · exact .inl rfl
    · exact .inr h

theorem exists_text_of_accepts {s : Segment} (h : s.Accepts values) {key : Text} (hk : key ∈ s.keys) :
    ∃ v, values.text? key = some v := by
  cases s with
  | empty | literal => cases hk
  | param | wildcard =>
    obtain ⟨v, hv, -⟩ := h
    rw [List.mem_singleton.1 hk]
    exact ⟨v, hv⟩

/-- Keys with present values are all named. -/
theorem named_texts : ∀ {keys : List Text}, (∀ key ∈ keys, ∃ v, values.text? key = some v) →
    named keys (keys.map values.text?) = keys.map fun key => (key, (values.text? key).getD [])
  | [], _ => rfl
  | key :: keys, h => by
    obtain ⟨v, hv⟩ := h key List.mem_cons_self
    obtain ⟨c, t, rfl⟩ := List.exists_cons_of_ne_nil (Values.text?_ne_nil hv)
    have ih := named_texts fun k hk => h k (List.mem_cons_of_mem key hk)
    rw [named] at ih ⊢
    rw [List.map_cons, List.zip_cons_cons, List.filterMap_cons, hv, List.map_cons, ih, hv]
    rfl

/-- A route of a template captures the values in the path made of them. -/
theorem exec_given {T : Text} (hT : Plain T) (htidy : Tidy T) (hlast : WildLast (segments T))
    (hvalues : ∀ s ∈ segments T, s.Accepts values) {mode : Mode} {r : Route} (hr : Route.compile T mode = .ok r) :
    r.exec (inject T values) = some ⟨(keys T).map fun key => (key, (values.text? key).getD [])⟩ := by
  have hkeys : ∀ key ∈ keys T, ∃ v, values.text? key = some v := by
    intro key hkey
    obtain ⟨s, hs, hk⟩ := List.mem_flatMap.1 hkey
    exact exists_text_of_accepts (hvalues s hs) hk
  have hfind := find?_given hT htidy hlast hvalues (Mode.ends_nil mode) fun _ => rfl
  rw [List.append_nil] at hfind
  rw [exec_params hT hr, hfind, Option.map_some, named_texts hkeys]

/-- Injection and matching are inverse for a tidy plain template with no segment behind a wildcard: a route
of it captures the given values in the path made of them. A loose route captures them with more path behind
as well, and ends where the path made of them ends. -/
theorem exec_inject {T : Text} (hT : Plain T) (htidy : Tidy T) (hlast : WildLast (segments T))
    (hvalues : ∀ s ∈ segments T, s.Accepts values) {mode : Mode} {r : Route} (hr : Route.compile T mode = .ok r) :
    r.exec (inject T values) = some ⟨(keys T).map fun key => (key, (values.text? key).getD [])⟩ ∧
    (mode = .loose → (∀ o, .wildcard o ∉ segments T) → ∀ rest, rest.head? = some '/' →
      ∃ c c', r.pattern.exec (inject T values) = some c ∧ r.pattern.exec (inject T values ++ rest) = some c' ∧
        c.groups = (keys T).map values.text? ∧ c'.groups = c.groups ∧
        c'.offset = Text.byteLength (inject T values)) := by
  refine ⟨exec_given hT htidy hlast hvalues hr, ?_⟩
  rintro rfl hwild rest hrest
  have captures : ∀ rest : Text, Mode.loose.ends rest = true → ∃ c, r.pattern.exec (inject T values ++ rest) = some c ∧
      c.groups = (keys T).map values.text? ∧ c.stop = (inject T values).length := by
    intro rest hends
    have heq := exec_eq hT hr (inject T values ++ rest)
    rw [find?_given hT htidy hlast hvalues hends fun ⟨o, ho⟩ => absurd ho (hwild o)] at heq
    obtain ⟨c, hc, heq⟩ := Option.map_eq_some_iff.1 heq
    obtain ⟨hgroups, hstop⟩ := Prod.mk.inj heq
    exact ⟨c, hc, hgroups, hstop⟩
  obtain ⟨c, hc, hgroups, -⟩ := captures [] (Mode.ends_nil .loose)
  obtain ⟨c', hc', hgroups', hstop⟩ := captures rest (by simp [Mode.ends, hrest])
  rw [List.append_nil] at hc
  refine ⟨c, c', hc, hc', hgroups, hgroups'.trans hgroups.symm, ?_⟩
  obtain ⟨m, -, rfl⟩ := Option.map_eq_some_iff.1 hc'
  rw [Captures.offset, hstop, List.take_left]

/-- A value that has the suffix in it is captured again, and a path that goes on is left behind. -/
theorem exec_inject_text : ∃ r, Route.compile "/:dir?/:name.txt".toList .loose = .ok r ∧
    r.exec "/a/b.txt.txt".toList = some ⟨[("dir".toList, "a".toList), ("name".toList, "b.txt".toList)]⟩ ∧
    ∃ c, r.pattern.exec "/a/b.txt.txt/c".toList = some c ∧ c.groups = [some "a".toList, some "b.txt".toList] ∧
    c.offset = 12 := by
  have hsegments : segments "/:dir?/:name.txt".toList = [.param ⟨"dir".toList, true, none, none⟩,
      .param ⟨"name".toList, false, none, some ".txt".toList⟩] := by decide
  have hT : Plain "/:dir?/:name.txt".toList := by
    rw [Plain, hsegments]
    simp only [List.forall_mem_cons, List.not_mem_nil, false_imp_iff, implies_true, and_true]
    exact ⟨⟨rfl, fun s hs => (by cases hs)⟩, rfl, fun s hs => ⟨"txt".toList, (Option.some.inj hs).symm, by decide⟩⟩
  have hvalues : ∀ s ∈ segments "/:dir?/:name.txt".toList,
      s.Accepts [("dir".toList, .string "a".toList), ("name".toList, .string "b.txt".toList)] := by
    rw [hsegments]
    simp only [List.forall_mem_cons, List.not_mem_nil, false_imp_iff, implies_true, and_true]
    exact ⟨⟨"a".toList, rfl, by decide⟩, "b.txt".toList, rfl, by decide⟩
  have hwild : ∀ o, .wildcard o ∉ segments "/:dir?/:name.txt".toList := by
    intro o
    rw [hsegments]
    simp
  have hinject : inject "/:dir?/:name.txt".toList
      [("dir".toList, .string "a".toList), ("name".toList, .string "b.txt".toList)] = "/a/b.txt.txt".toList := by decide
  have hkeys : keys "/:dir?/:name.txt".toList = ["dir".toList, "name".toList] := by decide
  have htidy : Tidy "/:dir?/:name.txt".toList := ⟨rfl, by simp [List.infix_cons_iff], by decide⟩
  obtain ⟨r, hr⟩ : ∃ r, Route.compile "/:dir?/:name.txt".toList .loose = .ok r := ⟨_, rfl⟩
  obtain ⟨hexec, hloose⟩ := exec_inject hT htidy (by rw [hsegments]; trivial) hvalues hr
  obtain ⟨_, c, -, hc, hgroups, hsame, hoffset⟩ := hloose rfl hwild "/c".toList rfl
  rw [hinject, hkeys] at hexec
  rw [hinject] at hc hoffset
  exact ⟨r, hr, hexec, c, hc, by rw [hsame, hgroups, hkeys]; rfl, hoffset⟩

theorem tidy_replicate {c : Char} (hc : c ≠ '/') (n : Nat) : Tidy ('/' :: List.replicate (n + 1) c) := by
  refine ⟨rfl, fun h => ?_, fun h => ?_⟩
  · have hcount := h.sublist.count_le '/'
    have hzero : (List.replicate (n + 1) c).count '/' = 0 := by rw [List.count_replicate, if_neg (by simpa using hc)]
    simp [hzero] at hcount
  · rw [List.getLast?_cons, List.getLast?_replicate] at h
    exact hc (Option.some.inj h)

theorem accepts_replicate {c : Char} (hc : c ≠ '/' ∧ c ≠ '*' ∧ c ≠ ':') (n : Nat) :
    ∀ s ∈ segments ('/' :: List.replicate (n + 1) c), s.Accepts values := by
  rw [segments_replicate hc]
  simp only [List.mem_singleton, forall_eq]
  trivial

/-- A tidy plain template without a route to recover values with. -/
theorem inject_tooLarge : Plain ('/' :: List.replicate 400000 'b') ∧ Tidy ('/' :: List.replicate 400000 'b') ∧
    (∀ s ∈ segments ('/' :: List.replicate 400000 'b'), s.Accepts []) ∧
    Route.compile ('/' :: List.replicate 400000 'b') .strict = .error ⟨'/' :: List.replicate 400000 'b', .tooLarge⟩ :=
  ⟨plain_replicate (by decide) (by decide) 399999, tidy_replicate (by decide) 399999,
    accepts_replicate (by decide) 399999, compile_replicate (by decide) (by decide) (by decide) .strict⟩

end Template

end PathRouter
