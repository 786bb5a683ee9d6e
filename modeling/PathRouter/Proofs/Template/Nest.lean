/-
Prefixes that are stripped agree with joined templates. A rigid prefix, one without wildcards and
optional parameters, can end in only one place of a path (`Template.Takes.unique`), so the ways to
spread a joined template over a path are those of the prefix up to there with those of the inner
template behind (`Template.find?_spread_append`). This is what the layer of a nested router relies on.
-/
import PathRouter.Prefix
import PathRouter.Proofs.Template.Join
import PathRouter.Proofs.Uri

namespace PathRouter

open Regex

/-! ## Rigid segments -/

/-- A plain segment that takes the part of a path up to the next slash, and always has its value. -/
def Segment.Rigid : Segment → Prop
  | empty => True
  | literal text => PlainText text
  | param p => (param p).Plain ∧ p.optional = false
  | wildcard _ => False

theorem Segment.Rigid.plain {s : Segment} (h : s.Rigid) : s.Plain := by
  cases s with
  | empty => trivial
  | literal text => exact h
  | param p => exact h.1
  | wildcard o => exact h.elim

/-- Texts without a slash that end at a slash are the same if the same text begins with them. -/
theorem eq_of_atSlash {a b x y : Text} (h : a ++ x = b ++ y) (ha : '/' ∉ a) (hb : '/' ∉ b) (hx : AtSlash x)
    (hy : AtSlash y) : a = b := by
  have hle := length_le_of_atSlash h hb hx
  have hge := length_le_of_atSlash h.symm ha hy
  exact (List.append_inj h (Nat.le_antisymm hge hle)).1

/-- A rigid segment takes one part of a path only, with one value, if what is left is at a slash. -/
theorem Segment.Takes.unique {s : Segment} (hs : s.Rigid)
    (hsuffix : ∀ p suffix, s = param p → p.suffix = some suffix → '/' ∉ suffix) {vs vs' : List (Option Text)}
    {w w' x x' : Text} (hw : s.Takes vs w) (hw' : s.Takes vs' w') (heq : w ++ x = w' ++ x') (hx : AtSlash x)
    (hx' : AtSlash x') : vs = vs' ∧ w = w' := by
  cases s with
  | empty =>
    cases hw
    cases hw'
    exact ⟨rfl, rfl⟩
  | literal text =>
    cases hw with
    | literal ha =>
      cases hw' with
      | literal ha' =>
        have hlen := ha.length.symm.trans ha'.length
        exact ⟨rfl, (List.append_inj heq (congrArg (· + 1) hlen)).1⟩
  | wildcard o => exact hs.elim
  | param p =>
    have hrequired : p.optional ≠ true := by
      rw [hs.2]
      exact Bool.false_ne_true
    cases hw with
    | noValue _ ho | bare _ ho => exact absurd ho hrequired
    | value hnone _ hslash =>
      cases hw' with
      | noValue _ ho | bare _ ho => exact absurd ho hrequired
      | suffixed hsome =>
        rw [hnone] at hsome
        cases hsome
      | value _ _ hslash' =>
        obtain rfl := eq_of_atSlash (List.cons.inj heq).2 hslash hslash' hx hx'
        exact ⟨rfl, rfl⟩
    | @suffixed _ ext v u hsome _ hslash hext =>
      cases hw' with
      | noValue _ ho | bare _ ho => exact absurd ho hrequired
      | value hnone =>
        rw [hnone] at hsome
        cases hsome
      | @suffixed _ ext' v' u' hsome' _ hslash' hext' =>
        obtain rfl : ext = ext' := by
          rw [hsome] at hsome'
          cases hsome'
          rfl
        -- What stands for the suffix has no slash either, so the values end at the same place.
        have hfree : '/' ∉ '.' :: ext := hsuffix p _ rfl hsome
        have hvu : v ++ '.' :: u = v' ++ '.' :: u' :=
          eq_of_atSlash (List.cons.inj heq).2 (hext.slash_not_mem_suffixed hslash hfree)
            (hext'.slash_not_mem_suffixed hslash' hfree) hx hx'
        have hlen : ('.' :: u).length = ('.' :: u').length := congrArg (· + 1) (hext.length.symm.trans hext'.length)
        obtain ⟨rfl, -⟩ := List.append_inj' hvu hlen
        exact ⟨rfl, congrArg ('/' :: ·) hvu⟩

namespace Template

/-- Rigid segments take one part of a path only, with one list of values, if what is left is at a slash. -/
theorem Takes.unique : ∀ {ss : List Segment} {vs vs' : List (Option Text)} {w w' x x' : Text}, (∀ s ∈ ss, s.Rigid) →
    (∀ p suffix, .param p ∈ ss → p.suffix = some suffix → '/' ∉ suffix) → Takes ss vs w → Takes ss vs' w' →
    w ++ x = w' ++ x' → AtSlash x → AtSlash x' → vs = vs' ∧ w = w'
  | [], _, _, _, _, _, _, _, _, hw, hw', _, _, _ => by
    cases hw
    cases hw'
    exact ⟨rfl, rfl⟩
  | s :: ss, _, _, _, _, x, x', hs, hsuffix, hw, hw', heq, hx, hx' => by
    cases hw with
    | @cons _ _ us us₁ a a₁ ha ha₁ =>
      cases hw' with
      | @cons _ _ vs vs₁ b b₁ hb hb₁ =>
        rw [List.append_assoc, List.append_assoc] at heq
        obtain ⟨rfl, rfl⟩ := ha.unique (hs s List.mem_cons_self)
          (fun p suffix h => hsuffix p suffix (h ▸ List.mem_cons_self)) hb heq (ha₁.atSlash hx) (hb₁.atSlash hx')
        obtain ⟨rfl, rfl⟩ := Takes.unique (fun s' h => hs s' (List.mem_cons_of_mem s h))
          (fun p suffix h => hsuffix p suffix (List.mem_cons_of_mem s h)) ha₁ hb₁ (List.append_cancel_left heq) hx hx'
        exact ⟨rfl, rfl⟩

/-! ## Spreading a joined template -/

theorem spread_append (ss ss' : List Segment) : ∀ t, spread (ss ++ ss') t =
    (spread ss t).flatMap fun x => (spread ss' (t.drop x.2)).map fun y => (x.1 ++ y.1, x.2 + y.2) := by
  induction ss with
  | nil =>
    intro t
    simp [spread]
  | cons s ss ih =>
    intro t
    rw [List.cons_append, spread, spread, List.flatMap_assoc]
    refine List.flatMap_congr fun r _ => ?_
    rw [ih, List.map_flatMap, List.flatMap_map]
    refine List.flatMap_congr fun x _ => ?_
    rw [List.map_map, List.drop_drop]
    refine List.map_congr_left fun y _ => ?_
    simp [Nat.add_assoc]

theorem Mode.loose_ends_iff {t : Text} : Mode.loose.ends t = true ↔ AtSlash t := by
  refine ⟨atSlash_of_ends, fun h => ?_⟩
  cases t with
  | nil => rfl
  | cons c t =>
    rw [h c rfl]
    rfl

/-- Where only one member of a list has a property, and nothing comes of the others, the first member that
something comes of is that one. -/
theorem findSome?_eq_bind_find? {α β : Type} {f : α → Bool} {g : α → Option β} {l : List α}
    (hg : ∀ a ∈ l, f a = false → g a = none) (hunique : ∀ a ∈ l, ∀ b ∈ l, f a = true → f b = true → a = b) :
    l.findSome? g = (l.find? f).bind g := by
  induction l with
  | nil => rfl
  | cons a l ih =>
    have ih := ih (fun b hb => hg b (List.mem_cons_of_mem a hb))
      fun b hb c hc => hunique b (List.mem_cons_of_mem a hb) c (List.mem_cons_of_mem a hc)
    rw [List.findSome?_cons, List.find?_cons]
    cases hf : f a with
    | false =>
      rw [hg a List.mem_cons_self hf]
      exact ih
    | true =>
      rw [Option.bind_some]
      cases hga : g a with
      | some b => rfl
      | none =>
        refine List.findSome?_eq_none_iff.2 fun b hb => ?_
        cases hfb : f b with
        | false => exact hg b (List.mem_cons_of_mem a hb) hfb
        | true => rw [← hunique a List.mem_cons_self b (List.mem_cons_of_mem a hb) hf hfb, hga]

variable {front back : List Segment}

/-- If segments spread over a text up to where a route may end, the text is at a slash. -/
theorem atSlash_of_mem_spread (hback : ∀ s ∈ back, s.Plain) {mode : Mode} {t : Text} {y : List (Option Text) × Nat}
    (hy : y ∈ spread back t) (hends : mode.ends (t.drop y.2) = true) : AtSlash t := by
  obtain ⟨w, hw, ⟨u, rfl⟩, hlen⟩ := (mem_spread hback).1 (show (y.1, y.2) ∈ spread back t from hy)
  rw [hlen, List.drop_left] at hends
  exact hw.atSlash (Mode.atSlash_of_ends hends)

/-- Segments behind rigid ones: the rigid ones go to the place where a loose route ends, and the others go
on from there to where the route ends. -/
theorem find?_spread_append (hfront : ∀ s ∈ front, s.Rigid)
    (hsuffix : ∀ p suffix, .param p ∈ front → p.suffix = some suffix → '/' ∉ suffix) (hback : ∀ s ∈ back, s.Plain)
    (mode : Mode) (path : Text) :
    ((spread (front ++ back) path).find? fun z => mode.ends (path.drop z.2)) =
      ((spread front path).find? fun x => Mode.loose.ends (path.drop x.2)).bind fun x =>
        ((spread back (path.drop x.2)).find? fun y => mode.ends ((path.drop x.2).drop y.2)).map fun y =>
          (x.1 ++ y.1, x.2 + y.2) := by
  have hplain : ∀ s ∈ front, s.Plain := fun s hs => (hfront s hs).plain
  have hinner : ∀ x : List (Option Text) × Nat,
      (((spread back (path.drop x.2)).map fun y => (x.1 ++ y.1, x.2 + y.2)).find? fun z => mode.ends (path.drop z.2)) =
        ((spread back (path.drop x.2)).find? fun y => mode.ends ((path.drop x.2).drop y.2)).map fun y =>
          (x.1 ++ y.1, x.2 + y.2) := by
    intro x
    rw [List.find?_map]
    simp only [Function.comp_def, List.drop_drop]
  rw [spread_append, List.find?_flatMap]
  simp only [hinner]
  refine findSome?_eq_bind_find? (fun x _ hx => ?_) (fun x hx x' hx' h h' => ?_)
  · rw [Option.map_eq_none_iff, List.find?_eq_none]
    intro y hy hends
    have hslash := atSlash_of_mem_spread hback hy hends
    rw [Mode.loose_ends_iff.2 hslash] at hx
    cases hx
  · obtain ⟨w, hw, ⟨u, hu⟩, hlen⟩ := (mem_spread hplain).1 (show (x.1, x.2) ∈ spread front path from hx)
    obtain ⟨w', hw', ⟨u', hu'⟩, hlen'⟩ := (mem_spread hplain).1 (show (x'.1, x'.2) ∈ spread front path from hx')
    rw [← hu, hlen, List.drop_left, Mode.loose_ends_iff] at h
    rw [← hu', hlen', List.drop_left, Mode.loose_ends_iff] at h'
    obtain ⟨hvs, rfl⟩ := hw.unique hfront hsuffix hw' (hu.trans hu'.symm) h h'
    exact Prod.ext hvs (hlen.trans hlen'.symm)

end Template

/-! ## What is left behind a prefix -/

/-- Of a text with at most one character, a segment takes no value but an empty one. -/
theorem Segment.Takes.getD_eq_nil {s : Segment} {vs : List (Option Text)} {w : Text} (h : s.Takes vs w)
    (hw : w.length ≤ 1) :
    ∀ v ∈ vs, v.getD [] = [] := by
  have short : ∀ {v u : Text}, ('/' :: v ++ u).length ≤ 1 → v = [] ∧ u = [] := by
    intro v u hle
    simp only [List.cons_append, List.length_cons, List.length_append] at hle
    exact ⟨List.eq_nil_of_length_eq_zero (by omega), List.eq_nil_of_length_eq_zero (by omega)⟩
  intro x hx
  cases h with
  | empty | literal => cases hx
  | noValue | noWild | bare =>
    rw [List.mem_singleton.1 hx]
    rfl
  | @value _ v _ hne =>
    rw [← List.append_nil ('/' :: v)] at hw
    exact absurd (short hw).1 hne
  | suffixed _ hne => exact absurd (short hw).1 hne
  | @wild _ v =>
    rw [← List.append_nil ('/' :: v)] at hw
    rw [List.mem_singleton.1 hx, Option.getD_some]
    exact (short hw).1

/-- A rigid segment that is not empty takes some part of a path. -/
theorem Segment.Takes.ne_nil {s : Segment} (hs : s.Rigid) (hne : s ≠ .empty) {vs : List (Option Text)} {w : Text}
    (h : s.Takes vs w) : w ≠ [] := by
  cases h with
  | empty => exact absurd rfl hne
  | literal | value | suffixed | bare | wild => exact List.cons_ne_nil _ _
  | noValue _ ho =>
    rw [hs.2] at ho
    cases ho
  | noWild => exact hs.elim

namespace Template

/-- Of a text with at most one character, segments take no values but empty ones. -/
theorem Takes.getD_eq_nil {ss : List Segment} {vs : List (Option Text)} {w : Text} (h : Takes ss vs w) :
    w.length ≤ 1 → ∀ v ∈ vs, v.getD [] = [] := by
  induction h with
  | nil => exact fun _ => List.forall_mem_nil _
  | cons hs _ ih =>
    intro hw
    rw [List.length_append] at hw
    exact List.forall_mem_append.2 ⟨hs.getD_eq_nil (by omega), ih (by omega)⟩

theorem Takes.ne_nil {ss : List Segment} {vs : List (Option Text)} {w : Text} (h : Takes ss vs w) :
    (∀ s ∈ ss, s.Rigid) → (∃ s ∈ ss, s ≠ .empty) → w ≠ [] := by
  induction h with
  | nil =>
    rintro - ⟨s, hs, -⟩
    cases hs
  | @cons s ss vs ws t u hs _ ih =>
    rintro hrigid ⟨s', hs', hne⟩ hnil
    obtain ⟨ht, hu⟩ := List.append_eq_nil_iff.1 hnil
    rcases List.mem_cons.1 hs' with rfl | hs'
    · exact hs.ne_nil (hrigid s' List.mem_cons_self) hne ht
    · exact ih (fun s'' h => hrigid s'' (List.mem_cons_of_mem s h)) ⟨s', hs', hne⟩ hu

/-- Values that are all empty are not named. -/
theorem named_eq_nil {keys : List Text} {vs : List (Option Text)} (h : ∀ v ∈ vs, v.getD [] = []) :
    named keys vs = [] := by
  unfold named
  rw [List.filterMap_eq_nil_iff]
  rintro ⟨key, v⟩ hmem
  have hv := h v (List.of_mem_zip hmem).2
  cases v with
  | none => rfl
  | some v =>
    rw [Option.getD_some] at hv
    rw [hv]
    rfl

theorem named_append {ks ks' : List Text} {vs vs' : List (Option Text)} (h : ks.length = vs.length) :
    named (ks ++ ks') (vs ++ vs') = named ks vs ++ named ks' vs' := by
  rw [named, List.zip_append h, List.filterMap_append]
  rfl

/-- The text with a slash in front, unless there is one. -/
def slashed (t : Text) : Text :=
  if t.head? = some '/' then t else '/' :: t

/-- What the loose route of a plain template leaves of a path. -/
theorem remainder?_eq {T : Text} (hT : Plain T) {r : Route} (hr : Route.compile T .loose = .ok r) (path : Text) :
    r.pattern.remainder? path =
      ((spread (segments T) path).find? fun x => Mode.loose.ends (path.drop x.2)).map fun x =>
        slashed (path.drop x.2) := by
  have hexec := exec_eq hT hr path
  unfold Pattern.remainder?
  cases hc : r.pattern.exec path with
  | none =>
    rw [hc] at hexec
    rw [Option.map_eq_none_iff.1 hexec.symm]
    rfl
  | some c =>
    rw [hc] at hexec
    obtain ⟨x, hx, heq⟩ := Option.map_eq_some_iff.1 hexec.symm
    have hstop : x.2 = c.stop := (Prod.mk.inj heq).2
    have hpath : c.path = path := by
      obtain ⟨m, -, rfl⟩ := Option.map_eq_some_iff.1 hc
      rfl
    rw [hx, Option.map_some, Option.map_some, Captures.rest, hpath, ← hstop]
    rfl

/-- Segments that spread over what is left of a path do so with a slash in front as well, and name the
same values. -/
theorem find?_slashed {ss : List Segment} (hs : ∀ s ∈ ss, s.Plain) {t : Text} (ht : AtSlash t) (keys : List Text)
    {y : List (Option Text) × Nat} (hy : ((spread ss t).find? fun y => Mode.strict.ends (t.drop y.2)) = some y) :
    ∃ y', ((spread ss (slashed t)).find? fun y => Mode.strict.ends ((slashed t).drop y.2)) = some y' ∧
      named keys y'.1 = named keys y.1 := by
  cases t with
  | cons c t =>
    have hslashed : slashed (c :: t) = c :: t := if_pos (congrArg some (ht c rfl))
    rw [hslashed]
    exact ⟨y, hy, rfl⟩
  | nil =>
    -- Nothing is left, so nothing is taken, and of the slash alone only an empty value could be.
    have unnamed : ∀ {t : Text} {z : List (Option Text) × Nat}, z ∈ spread ss t → t.length ≤ 1 →
        named keys z.1 = [] := by
      intro t z hz hlen
      obtain ⟨w, hw, hp, -⟩ := (mem_spread hs).1 (show (z.1, z.2) ∈ spread ss t from hz)
      exact named_eq_nil (hw.getD_eq_nil (hp.length_le.trans hlen))
    have hmem := List.mem_of_find?_eq_some hy
    obtain ⟨w, hw, hp, hlen⟩ := (mem_spread hs).1 (show (y.1, y.2) ∈ spread ss [] from hmem)
    rw [List.prefix_nil] at hp
    subst hp
    have hmem' : (y.1, 0) ∈ spread ss ['/'] := (mem_spread hs).2 ⟨[], hw, List.nil_prefix, rfl⟩
    obtain ⟨y', hy'⟩ := Option.isSome_iff_exists.1
      ((List.find?_isSome (p := fun y : List (Option Text) × Nat => Mode.strict.ends (['/'].drop y.2))).2
        ⟨_, hmem', rfl⟩)
    refine ⟨y', hy', ?_⟩
    rw [unnamed (List.mem_of_find?_eq_some hy') (Nat.le_refl 1), unnamed hmem (Nat.zero_le 1)]

/-! ## Sizes of joined templates -/

theorem leastSize_loose (t : Text) : leastSize t .loose = leastSize t .strict + 64 := rfl

theorem literal_ne_nil {t text : Text} (h : .literal text ∈ segments t) : text ≠ [] := by
  obtain ⟨piece, -, hpiece⟩ := List.mem_map.1 h
  rw [← Segment.parse_eq_literal hpiece]
  rintro rfl
  cases hpiece

/-- A template with a segment that is not empty has a slash and a character besides its ending. -/
theorem le_leastSize {t : Text} (h : ∃ s ∈ segments t, s ≠ .empty) : 360 ≤ leastSize t .strict := by
  obtain ⟨s, hs, hne⟩ := h
  have hle : s.leastSize ≤ ((segments t).map Segment.leastSize).sum := by
    obtain ⟨before, behind, hsplit⟩ := List.append_of_mem hs
    rw [hsplit, List.map_append, List.sum_append, List.map_cons, List.sum_cons]
    omega
  have htwo : 64 ≤ s.leastSize := by
    cases s with
    | empty => exact absurd rfl hne
    | literal text =>
      have := List.length_pos_of_ne_nil (literal_ne_nil hs)
      simp only [Segment.leastSize]
      omega
    | param | wildcard => simp only [Segment.leastSize]; omega
  simp only [leastSize, reduceCtorEq, if_false]
  omega

/-! ## Routes behind a prefix -/

/-- A path is cut behind a prefix where the joined route ends the prefix: the loose route of the prefix matches the
path and captures what the joined one captures for the prefix, and the route of the template behind matches the rest
and captures there what the joined one captures for the template. A URI with the path gets the rest as its path. -/
structure Cut (front back : Text) (outer inner : Route) (path : Text) (c : Captures) (rest : Text) : Prop where
  before : outer.exec path = some ⟨named (keys front) (c.groups.take (keys front).length)⟩
  remainder : outer.pattern.remainder? path = some rest
  behind : inner.exec rest = some ⟨named (keys back) (c.groups.drop (keys front).length)⟩
  strip (u : Uri) : u.WellFormed → u.path = path → outer.pattern.strip? u = some { u with path := rest }

/-- A prefix that is stripped agrees with the joined template: a path that the route of a plain template behind a rigid
prefix matches is cut behind the prefix. The template has a route of its own, and the prefix has a loose route if the
template has any segment. -/
theorem exec_join {front back : Text} (hfront : ∀ s ∈ segments front, s.Rigid)
    (hsome : ∃ s ∈ segments front, s ≠ .empty)
    (hback : Plain back) {joined : Route} (hjoined : Route.compile (join front back) .strict = .ok joined) {path : Text}
    {c : Captures} (hc : joined.pattern.exec path = some c) :
    joined.exec path = some ⟨named (keys front) (c.groups.take (keys front).length) ++
      named (keys back) (c.groups.drop (keys front).length)⟩ ∧
    ((∃ s ∈ segments back, s ≠ .empty) → ∃ outer, Route.compile front .loose = .ok outer) ∧
    ∃ inner, Route.compile back .strict = .ok inner ∧
      ∀ outer, Route.compile front .loose = .ok outer → ∃ rest, Cut front back outer inner path c rest := by
  have hfront' : Plain front := fun s hs => (hfront s hs).plain
  have hplain : Plain (join front back) := forall_segment_join trivial hfront' hback
  -- The sizes of all three patterns follow from the one of the joined template.
  have hsize := leastSize_of_compile hplain hjoined
  have hsum := leastSize_join front back
  have hsize_front := le_leastSize hsome
  obtain ⟨inner, hinner⟩ : ∃ inner, Route.compile back .strict = .ok inner := exists_compile hback (by omega)
  -- The first way to spread the joined template is the one of the prefix with the one of what is behind.
  obtain ⟨z, hz, hgroups⟩ := Option.map_eq_some_iff.1 ((exec_eq hplain hjoined path).symm.trans (congrArg _ hc))
  have hfind := find?_spread_append hfront (fun p suffix hp => slash_not_mem_suffix hp) hback .strict path
  rw [← spread_join, hz] at hfind
  obtain ⟨x, hx, hbind⟩ := Option.bind_eq_some_iff.1 hfind.symm
  obtain ⟨y, hy, hxy⟩ := Option.map_eq_some_iff.1 hbind
  have hlen : x.1.length = (keys front).length := length_of_mem_spread (List.mem_of_find?_eq_some hx)
  have hvalues : c.groups = x.1 ++ y.1 := by rw [← (Prod.mk.inj hgroups).1, ← hxy]
  have htake : c.groups.take (keys front).length = x.1 := by rw [hvalues, ← hlen, List.take_left]
  have hdrop : c.groups.drop (keys front).length = y.1 := by rw [hvalues, ← hlen, List.drop_left]
  refine ⟨?_, fun h => exists_compile hfront' ?_, inner, hinner, fun outer houter => ?_⟩
  · rw [htake, hdrop, exec_params hplain hjoined, hz, ← hxy, Option.map_some, keys_join, named_append hlen.symm]
  · have hsize_back := le_leastSize h
    rw [leastSize_loose]
    omega
  · have hends := List.find?_some hx
    have hslash := Mode.loose_ends_iff.1 hends
    obtain ⟨y', hy', hnamed⟩ := find?_slashed hback hslash (keys back) hy
    have hrest : outer.pattern.remainder? path = some (slashed (path.drop x.2)) := by
      rw [remainder?_eq hfront' houter, hx]
      rfl
    refine ⟨_, ?_, hrest, ?_, fun u hu hpath => ?_⟩
    · rw [htake, exec_params hfront' houter, hx]
      rfl
    · rw [hdrop, exec_params hback hinner, hy', Option.map_some, hnamed]
    · obtain ⟨w, hw, hp, -⟩ := (mem_spread hfront').1 (show (x.1, x.2) ∈ spread (segments front) path from
        List.mem_of_find?_eq_some hx)
      have hne : path ≠ [] := by
        rintro rfl
        exact hw.ne_nil hfront hsome (List.prefix_nil.1 hp)
      rw [Pattern.strip?, hpath, hrest, Option.bind_some, hu.withPath?_eq (hpath ▸ hne)]

end Template

/-! ## Fixed prefixes -/

/-- A literal segment without pattern text of its own. -/
def Segment.Fixed : Segment → Prop
  | literal text => PlainText text
  | _ => False

theorem Segment.Fixed.rigid {s : Segment} (h : s.Fixed) : s.Rigid := by
  cases s with
  | literal text => exact h
  | empty | param | wildcard => exact h.elim

/-- No value is needed for a fixed segment. -/
theorem Segment.Fixed.accepts {s : Segment} (h : s.Fixed) (values : Values) : s.Accepts values := by
  cases s with
  | literal text => trivial
  | empty | param | wildcard => exact h.elim

/-- A text is its pieces with the separators between them. -/
theorem Text.append_flatMap_split {sep : Char} : ∀ {t p : Text} {ps : List Text}, split sep t = p :: ps →
    p ++ ps.flatMap (sep :: ·) = t
  | [], p, ps, h => by
    cases h
    rfl
  | c :: t, p, ps, h => by
    obtain ⟨q, qs, hq⟩ := List.exists_cons_of_ne_nil (split_ne_nil sep t)
    have ih := append_flatMap_split hq
    by_cases hc : c = sep
    · rw [split, if_pos hc, hq] at h
      cases h
      rw [List.nil_append, List.flatMap_cons, List.cons_append, ih, hc]
    · rw [split, if_neg hc, hq] at h
      cases h
      rw [List.cons_append, ih]

namespace Template

/-- Fixed segments have no keys. -/
theorem keys_fixed {ss : List Segment} (h : ∀ s ∈ ss, s.Fixed) : ss.flatMap Segment.keys = [] := by
  rw [List.flatMap_eq_nil_iff]
  intro s hs
  have hfixed := h s hs
  cases s with
  | literal text => rfl
  | empty | param | wildcard => exact hfixed.elim

theorem wildLast_fixed : ∀ {ss : List Segment}, (∀ s ∈ ss, s.Fixed) → WildLast ss
  | [], _ => trivial
  | s :: ss, h => by
    have ih := wildLast_fixed fun s' h' => h s' (List.mem_cons_of_mem s h')
    have hfixed := h s List.mem_cons_self
    cases s with
    | literal text => exact ih
    | empty | param | wildcard => exact hfixed.elim

section Fixed

variable {front back : Text} (htidy : Tidy front) (hfixed : ∀ s ∈ segments front, s.Fixed)

include htidy hfixed

/-- A tidy prefix of fixed segments is the path that injection makes of it. -/
theorem inject_fixed (values : Values) : inject front values = front := by
  have hgiven : (segments front).flatMap (Segment.given values) = (pieces front).flatMap ('/' :: ·) := by
    rw [segments, List.flatMap_map]
    refine List.flatMap_congr fun piece hpiece => ?_
    have h := hfixed _ (List.mem_map_of_mem hpiece)
    cases hparse : Segment.parse piece with
    | literal text =>
      rw [Segment.parse_eq_literal hparse]
      rfl
    | empty | param | wildcard =>
      rw [hparse] at h
      exact h.elim
  rw [inject_eq htidy fun s hs => (hfixed s hs).accepts values, hgiven]
  exact Text.append_flatMap_split htidy.split_eq.1

/-- Of a path that begins with a tidy prefix of fixed segments, these take the prefix. -/
theorem find?_fixed (rest : Text) :
    ((spread (segments front) (front ++ '/' :: rest)).find? fun x =>
      Mode.loose.ends ((front ++ '/' :: rest).drop x.2)) = some ([], front.length) := by
  have hplain : Plain front := fun s hs => (hfixed s hs).rigid.plain
  have haccepts : ∀ s ∈ segments front, s.Accepts ([] : Values) := fun s hs => (hfixed s hs).accepts []
  have hends : Mode.loose.ends ('/' :: rest) = true := Mode.loose_ends_iff.2 (atSlash_cons rest)
  have hnone : (∃ o, .wildcard o ∈ segments front) → '/' :: rest = [] := by
    rintro ⟨o, ho⟩
    exact (hfixed _ ho).elim
  have h := find?_given hplain htidy (wildLast_fixed hfixed) haccepts hends hnone
  rw [inject_fixed htidy hfixed, keys, keys_fixed hfixed] at h
  exact h

/-- A plain template behind a tidy prefix of fixed segments captures what it captures alone. -/
theorem exec_join_fixed (hback : Plain back) {joined inner : Route}
    (hjoined : Route.compile (join front back) .strict = .ok joined) (hinner : Route.compile back .strict = .ok inner)
    (rest : Text) : joined.exec (front ++ '/' :: rest) = inner.exec ('/' :: rest) := by
  have hrigid : ∀ s ∈ segments front, s.Rigid := fun s hs => (hfixed s hs).rigid
  have hplain : Plain (join front back) := forall_segment_join trivial (fun s hs => (hrigid s hs).plain) hback
  have hkeys : keys (join front back) = keys back := by
    rw [keys_join, keys, keys_fixed hfixed, List.nil_append]
  rw [exec_params hplain hjoined, exec_params hback hinner, spread_join,
    find?_spread_append hrigid (fun p suffix hp => slash_not_mem_suffix hp) hback, find?_fixed htidy hfixed,
    Option.bind_some, List.drop_left, Option.map_map, hkeys]
  rfl

/-- The loose route of a tidy prefix of fixed segments strips it. -/
theorem strip?_fixed {outer : Route} (houter : Route.compile front .loose = .ok outer) {u : Uri} (hu : u.WellFormed)
    {rest : Text} (hpath : u.path = front ++ '/' :: rest) :
    outer.pattern.strip? u = some { u with path := '/' :: rest } := by
  have hplain : Plain front := fun s hs => (hfixed s hs).rigid.plain
  have hrest : outer.pattern.remainder? u.path = some ('/' :: rest) := by
    rw [hpath, remainder?_eq hplain houter, find?_fixed htidy hfixed, Option.map_some, List.drop_left]
    rfl
  have hne : u.path ≠ [] := by
    rw [hpath]
    exact List.append_ne_nil_of_right_ne_nil _ (List.cons_ne_nil _ _)
  rw [Pattern.strip?, hrest, Option.bind_some, hu.withPath?_eq hne]

end Fixed

end Template

end PathRouter
