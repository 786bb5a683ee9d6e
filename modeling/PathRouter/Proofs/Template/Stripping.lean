/-
Prefixes one behind the other. Joining is associative (`Template.join_assoc`), and what it does to a template that
is joined depends on its leading slashes only (`Template.join_inj`). To strip a joined prefix is to strip the one and
then the other (`Template.strip?_join`): a rigid prefix leaves a path that begins with a slash, or nothing of it, and
of nothing no prefix can be stripped.
-/
import PathRouter.Proofs.Template.Nest

namespace PathRouter

/-- A URI with a prefix stripped, or as it is where there is nothing to strip. -/
def Pattern.stripped (p : Pattern) (u : Uri) : Uri :=
  (p.strip? u).getD u

/-! ## Trimmed texts -/

namespace Text

variable {sep c : Char}

theorem trimStart_cons_self (t : Text) : trimStart sep (sep :: t) = trimStart sep t :=
  List.dropWhile_cons_of_pos (beq_self_eq_true sep)

theorem trimStart_cons_of_ne (hc : c ≠ sep) (t : Text) : trimStart sep (c :: t) = c :: t :=
  List.dropWhile_cons_of_neg (by simpa using hc)

theorem trimStart_trimStart (t : Text) : trimStart sep (trimStart sep t) = trimStart sep t := by
  induction t with
  | nil => rfl
  | cons c t ih =>
    by_cases hc : c = sep
    · rw [hc, trimStart_cons_self, ih]
    · rw [trimStart_cons_of_ne hc, trimStart_cons_of_ne hc]

theorem trimStart_append (t u : Text) :
    trimStart sep (t ++ u) = if trimStart sep t = [] then trimStart sep u else trimStart sep t ++ u := by
  unfold trimStart
  rw [List.dropWhile_append]
  simp only [List.isEmpty_iff]

theorem trimEnd_trimEnd (t : Text) : trimEnd sep (trimEnd sep t) = trimEnd sep t := by
  unfold trimEnd
  rw [List.reverse_reverse, trimStart_trimStart]

theorem trimEnd_append (t u : Text) :
    trimEnd sep (t ++ u) = if trimEnd sep u = [] then trimEnd sep t else t ++ trimEnd sep u := by
  unfold trimEnd
  rw [List.reverse_append, trimStart_append]
  simp only [List.reverse_eq_nil_iff]
  split
  · rfl
  · rw [List.reverse_append, List.reverse_reverse]

/-- Nothing is left of a text that is trimmed at one end if nothing is left of it at the other end. -/
theorem trimEnd_eq_nil {t : Text} : trimEnd sep t = [] ↔ trimStart sep t = [] := by
  simp [trimEnd, trimStart, List.dropWhile_eq_nil_iff]

/-- It does not matter which end is trimmed first. -/
theorem trimEnd_trimStart {t : Text} : trimEnd sep (trimStart sep t) = trimStart sep (trimEnd sep t) := by
  induction t with
  | nil => rfl
  | cons c t ih =>
    have hsplit : trimEnd sep (c :: t) = if trimEnd sep t = [] then trimEnd sep [c] else c :: trimEnd sep t :=
      trimEnd_append [c] t
    by_cases hc : c = sep
    · subst hc
      rw [trimStart_cons_self, ih, hsplit]
      split
      · rename_i h
        have hself : trimEnd c [c] = [] := trimEnd_eq_nil.2 (trimStart_cons_self [])
        rw [h, hself]
      · exact (trimStart_cons_self _).symm
    · have hself : trimEnd sep [c] = [c] := by
        show (trimStart sep [c]).reverse = [c]
        rw [trimStart_cons_of_ne hc]
        rfl
      rw [trimStart_cons_of_ne hc, hsplit, hself]
      split <;> exact (trimStart_cons_of_ne hc _).symm

end Text

namespace Template

/-! ## Joined templates -/

/-- A template as it stands behind another one: with exactly one slash in front, or empty if it has slashes only. -/
def headed (back : Text) : Text :=
  if Text.trimStart '/' back = [] then [] else '/' :: Text.trimStart '/' back

theorem headed_of_eq_nil {back : Text} (h : Text.trimStart '/' back = []) : headed back = [] :=
  if_pos h

theorem headed_of_ne_nil {back : Text} (h : Text.trimStart '/' back ≠ []) :
    headed back = '/' :: Text.trimStart '/' back :=
  if_neg h

theorem join_eq (front back : Text) : join front back = Text.trimEnd '/' front ++ headed back := by
  unfold join
  split
  · rename_i h
    rw [headed_of_eq_nil h, List.append_nil]
  · rename_i h
    rw [headed_of_ne_nil h]

theorem trimStart_headed (back : Text) : Text.trimStart '/' (headed back) = Text.trimStart '/' back := by
  by_cases h : Text.trimStart '/' back = []
  · rw [headed_of_eq_nil h, h]
    rfl
  · rw [headed_of_ne_nil h, Text.trimStart_cons_self, Text.trimStart_trimStart]

/-- What a template is behind another one depends on its leading slashes only. -/
theorem headed_inj {back back' : Text} :
    headed back = headed back' ↔ Text.trimStart '/' back = Text.trimStart '/' back' := by
  constructor
  · intro h
    rw [← trimStart_headed, h, trimStart_headed]
  · intro h
    unfold headed
    rw [h]

theorem trimEnd_headed (back : Text) : Text.trimEnd '/' (headed back) = headed (Text.trimEnd '/' back) := by
  have hstart : Text.trimStart '/' (Text.trimEnd '/' back) = Text.trimEnd '/' (Text.trimStart '/' back) :=
    Text.trimEnd_trimStart.symm
  by_cases h : Text.trimStart '/' back = []
  · rw [headed_of_eq_nil h, headed_of_eq_nil (by rw [hstart, h]; rfl)]
    rfl
  · have hne : Text.trimEnd '/' (Text.trimStart '/' back) ≠ [] := by
      rwa [ne_eq, Text.trimEnd_eq_nil, Text.trimStart_trimStart]
    rw [headed_of_ne_nil h, headed_of_ne_nil (hstart ▸ hne), hstart]
    exact (Text.trimEnd_append ['/'] _).trans (if_neg hne)

theorem headed_append_headed (front back : Text) : headed (front ++ headed back) = headed front ++ headed back := by
  have hstart := @Text.trimStart_append '/' front (headed back)
  by_cases h : Text.trimStart '/' front = []
  · rw [if_pos h, trimStart_headed] at hstart
    rw [headed_of_eq_nil h, List.nil_append, headed_inj, hstart]
  · rw [if_neg h] at hstart
    have hne : Text.trimStart '/' (front ++ headed back) ≠ [] := by
      rw [hstart]
      exact List.append_ne_nil_of_left_ne_nil h _
    rw [headed_of_ne_nil hne, hstart, headed_of_ne_nil h, List.cons_append]

/-- It does not matter which of three templates are joined first. -/
theorem join_assoc (front middle back : Text) : join (join front middle) back = join front (join middle back) := by
  have hfront : Text.trimEnd '/' (Text.trimEnd '/' front ++ headed middle) =
      Text.trimEnd '/' front ++ headed (Text.trimEnd '/' middle) := by
    rw [Text.trimEnd_append, Text.trimEnd_trimEnd, ← trimEnd_headed]
    split
    · rename_i h
      rw [h, List.append_nil]
    · rfl
  rw [join_eq (join front middle), join_eq front middle, hfront, join_eq front, join_eq middle back,
    headed_append_headed,
    List.append_assoc]

/-- What a template becomes behind a prefix depends on its leading slashes only. -/
theorem join_inj {front back back' : Text} :
    join front back = join front back' ↔ Text.trimStart '/' back = Text.trimStart '/' back' := by
  rw [join_eq, join_eq, List.append_cancel_left_eq, headed_inj]

/-! ## Prefixes that can be stripped -/

/-- A prefix of rigid segments that are not all empty. -/
structure Nestable (front : Text) : Prop where
  rigid : ∀ s ∈ segments front, s.Rigid
  solid : ∃ s ∈ segments front, s ≠ .empty

theorem exists_solid_iff {ss : List Segment} : (∃ s ∈ ss, s ≠ .empty) ↔ solid ss ≠ [] := by
  simp [solid, List.filter_eq_nil_iff]

namespace Nestable

variable {front back : Text}

theorem plain (h : Nestable front) : Plain front :=
  fun s hs => (h.rigid s hs).plain

theorem join (h : Nestable front) (h' : Nestable back) : Nestable (join front back) where
  rigid := forall_segment_join trivial h.rigid h'.rigid
  solid := by
    rw [exists_solid_iff, solid_join]
    exact List.append_ne_nil_of_left_ne_nil (exists_solid_iff.1 h.solid) _

end Nestable

end Template

/-- A rigid segment takes more of a path than a slash, unless it is empty. -/
theorem Segment.Takes.two_le {s : Segment} (hs : s.Rigid) (hne : s ≠ .empty) (htext : s ≠ .literal [])
    {vs : List (Option Text)} {w : Text} (h : s.Takes vs w) : 2 ≤ w.length := by
  have cons {t : Text} (ht : t ≠ []) : 2 ≤ ('/' :: t).length := by
    have hpos := List.length_pos_of_ne_nil ht
    rw [List.length_cons]
    omega
  cases h with
  | empty => exact absurd rfl hne
  | @literal text t ht =>
    refine cons fun hnil => htext ?_
    subst hnil
    rw [List.eq_nil_of_length_eq_zero ht.length]
  | value _ hv => exact cons hv
  | suffixed => exact cons (List.append_ne_nil_of_right_ne_nil _ (List.cons_ne_nil _ _))
  | bare => exact cons (List.cons_ne_nil _ _)
  | noValue _ ho =>
    rw [hs.2] at ho
    cases ho
  | wild | noWild => exact hs.elim

namespace Template

/-- A prefix that can be stripped takes more of a path than a slash. -/
theorem Nestable.two_le {front : Text} (h : Nestable front) {vs : List (Option Text)} {w : Text}
    (hw : Takes (segments front) vs w) : 2 ≤ w.length := by
  have htext : .literal [] ∉ segments front := fun hmem => literal_ne_nil hmem rfl
  obtain ⟨hrigid, s, hs, hne⟩ := h
  generalize segments front = ss at hw htext hrigid hs
  induction hw with
  | nil => cases hs
  | @cons s' ss vs ws t u ht _ ih =>
    rw [List.length_append]
    rcases List.mem_cons.1 hs with rfl | hs
    · have hle := ht.two_le (hrigid s List.mem_cons_self) hne fun h => htext (h ▸ List.mem_cons_self)
      omega
    · have hle := ih (fun h => htext (List.mem_cons_of_mem s' h)) (fun s h => hrigid s (List.mem_cons_of_mem s' h)) hs
      omega

/-! ## Sizes of joined prefixes -/

theorem leastSize_le_join (front back : Text) (mode : Mode) :
    leastSize front mode ≤ leastSize (join front back) mode ∧
    leastSize back mode ≤ leastSize (join front back) mode := by
  have hsum := leastSize_join front back
  have hone : ∀ t, 296 ≤ leastSize t .strict := fun t => Nat.le_add_left 296 _
  have hfront := hone front
  have hback := hone back
  cases mode with
  | strict => omega
  | loose =>
    simp only [leastSize_loose]
    omega

/-- A prefix has a route if the joined one has, and so has what is behind it. -/
theorem exists_compile_of_join {front back : Text} (hfront : Plain front) (hback : Plain back) {mode : Mode}
    {joined : Route}
    (h : Route.compile (join front back) mode = .ok joined) :
    (∃ r, Route.compile front mode = .ok r) ∧ ∃ r, Route.compile back mode = .ok r := by
  have hsize := leastSize_of_compile (forall_segment_join trivial hfront hback) h
  obtain ⟨hle, hle'⟩ := leastSize_le_join front back mode
  exact ⟨exists_compile hfront (hle.trans hsize), exists_compile hback (hle'.trans hsize)⟩

/-! ## Stripping a joined prefix -/

section Stripping

variable {front back : Text} {outer inner joined : Route}

/-- Of nothing but a slash, no prefix can be stripped. -/
theorem Nestable.remainder?_short (h : Nestable front) (houter : Route.compile front .loose = .ok outer) {path : Text}
    (hpath : path.length ≤ 1) : outer.pattern.remainder? path = none := by
  rw [remainder?_eq h.plain houter, Option.map_eq_none_iff, List.find?_eq_none]
  intro x hx
  obtain ⟨w, hw, hprefix, -⟩ := (mem_spread h.plain).1 (show (x.1, x.2) ∈ spread (segments front) path from hx)
  have hle := h.two_le hw
  have hle' := hprefix.length_le
  omega

/-- What a joined prefix leaves of a path is what its second part leaves of what the first one leaves. -/
theorem remainder?_join (hfront : Nestable front) (hback : Nestable back)
    (houter : Route.compile front .loose = .ok outer) (hinner : Route.compile back .loose = .ok inner)
    (hjoined : Route.compile (join front back) .loose = .ok joined) (path : Text) :
    joined.pattern.remainder? path = (outer.pattern.remainder? path).bind inner.pattern.remainder? := by
  rw [remainder?_eq (hfront.join hback).plain hjoined, spread_join,
    find?_spread_append hfront.rigid (fun p suffix hp => slash_not_mem_suffix hp) hback.plain,
    remainder?_eq hfront.plain houter]
  cases hx : (spread (segments front) path).find? fun x => Mode.loose.ends (path.drop x.2) with
  | none => rfl
  | some x =>
    have hends := List.find?_some hx
    have hslash := Mode.loose_ends_iff.1 hends
    have hdrop : ∀ y : List (Option Text) × Nat, (path.drop x.2).drop y.2 = path.drop (x.2 + y.2) :=
      fun y => List.drop_drop
    simp only [Option.bind_some, Option.map_some, Option.map_map, Function.comp_def, ← hdrop]
    generalize path.drop x.2 = rest at hslash
    rw [← remainder?_eq hback.plain hinner]
    cases rest with
    | nil =>
      have hnil : inner.pattern.remainder? [] = none := hback.remainder?_short hinner (Nat.zero_le 1)
      have hslash : inner.pattern.remainder? (slashed []) = none := hback.remainder?_short hinner (Nat.le_refl 1)
      rw [hnil, hslash]
    | cons c rest =>
      have hslashed : slashed (c :: rest) = c :: rest := if_pos (congrArg some (hslash c rfl))
      rw [hslashed]

/-- What is left of a path becomes the path of the URI, if that has a place for one. -/
theorem strip?_eq (p : Pattern) (u : Uri) : p.strip? u =
    if u.scheme.isNone && u.authority.isSome then none else (p.remainder? u.path).map fun path => { u with path } := by
  unfold Pattern.strip? Uri.withPath?
  split
  · exact Option.bind_fun_none _
  · cases p.remainder? u.path <;> rfl

/-- To strip a joined prefix is to strip its first part and then its second one. -/
theorem strip?_join (hfront : Nestable front) (hback : Nestable back)
    (houter : Route.compile front .loose = .ok outer) (hinner : Route.compile back .loose = .ok inner)
    (hjoined : Route.compile (join front back) .loose = .ok joined) (u : Uri) :
    joined.pattern.strip? u = (outer.pattern.strip? u).bind inner.pattern.strip? := by
  rw [strip?_eq, strip?_eq, remainder?_join hfront hback houter hinner hjoined]
  split
  · rfl
  · rename_i hplace
    cases outer.pattern.remainder? u.path with
    | none => rfl
    | some rest => rw [Option.bind_some, Option.map_some, Option.bind_some, strip?_eq, if_neg hplace]

/-- A path that a joined prefix matches is stripped of its first part and then of its second one, unless the URI has no
place for a path. -/
theorem stripped_join (hfront : Nestable front) (hback : Nestable back)
    (houter : Route.compile front .loose = .ok outer) (hinner : Route.compile back .loose = .ok inner)
    (hjoined : Route.compile (join front back) .loose = .ok joined) {u : Uri}
    (h : (joined.pattern.remainder? u.path).isSome = true) :
    joined.pattern.stripped u = inner.pattern.stripped (outer.pattern.stripped u) := by
  by_cases hplace : (u.scheme.isNone && u.authority.isSome) = true
  · have hnone : ∀ p : Pattern, p.stripped u = u := by
      intro p
      unfold Pattern.stripped
      rw [strip?_eq, if_pos hplace]
      rfl
    rw [hnone, hnone, hnone]
  · have hstrip := strip?_join hfront hback houter hinner hjoined u
    obtain ⟨u₂, hu₂⟩ : ∃ u₂, joined.pattern.strip? u = some u₂ := by
      obtain ⟨rest, hrest⟩ := Option.isSome_iff_exists.1 h
      exact ⟨_, by rw [strip?_eq, if_neg hplace, hrest]; rfl⟩
    obtain ⟨u₁, hu₁, hinner'⟩ := Option.bind_eq_some_iff.1 (hstrip.symm.trans hu₂)
    unfold Pattern.stripped
    rw [hu₂, hu₁, Option.getD_some, Option.getD_some, hinner', Option.getD_some]

end Stripping

end Template

end PathRouter
