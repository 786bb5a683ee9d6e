/-
The segments of templates one behind the other: but for empty ones, those of the first template and
behind them those of the second one (`Template.solid_join`). Empty segments take nothing from a path
and have no key, so they count for nothing in what follows from the segments.
-/
import PathRouter.Proofs.Template.RoundTrip
import PathRouter.Template.Join

namespace PathRouter

namespace Text

variable {sep : Char}

/-- The pieces on both sides of a separator. -/
theorem split_append_cons (t u : Text) : split sep (t ++ sep :: u) = split sep t ++ split sep u := by
  induction t with
  | nil =>
    show split sep (sep :: u) = [] :: split sep u
    rw [split, if_pos rfl]
  | cons c t ih =>
    rw [List.cons_append]
    by_cases hc : c = sep
    · rw [split, if_pos hc, ih, split, if_pos hc]
      rfl
    · obtain ⟨p, ps, hp, hs⟩ := split_cons_of_ne (t := t) hc
      rw [split, if_neg hc, ih, hp, hs]
      rfl

/-- The pieces that are not empty. -/
def words (sep : Char) (t : Text) : List Text :=
  (split sep t).filter (· != [])

theorem words_append_cons (t u : Text) : words sep (t ++ sep :: u) = words sep t ++ words sep u := by
  rw [words, split_append_cons, List.filter_append]
  rfl

@[simp] theorem words_nil : words sep [] = [] := rfl

@[simp] theorem words_cons_self (t : Text) : words sep (sep :: t) = words sep t :=
  words_append_cons [] t

/-- Leading separators make no words. -/
theorem words_trimStart : ∀ t : Text, words sep (trimStart sep t) = words sep t
  | [] => rfl
  | c :: t => by
    have ih := words_trimStart t
    unfold trimStart at ih ⊢
    rw [List.dropWhile_cons]
    by_cases hc : c = sep
    · subst hc
      rw [if_pos (beq_self_eq_true c), words_cons_self]
      exact ih
    · rw [if_neg (by simpa using hc)]

theorem words_append_replicate (t : Text) : ∀ n, words sep (t ++ List.replicate n sep) = words sep t
  | 0 => by rw [List.replicate_zero, List.append_nil]
  | n + 1 => by
    have hnil : words sep (List.replicate n sep) = [] := words_append_replicate [] n
    rw [List.replicate_succ, words_append_cons, hnil, List.append_nil]

/-- A text is the text without its trailing separators, with separators behind. -/
theorem trimEnd_append_replicate (t : Text) : ∃ n, t = trimEnd sep t ++ List.replicate n sep := by
  have hsplit := List.takeWhile_append_dropWhile (p := (· == sep)) (l := t.reverse)
  have hall : t.reverse.takeWhile (· == sep) = List.replicate (t.reverse.takeWhile (· == sep)).length sep := by
    rw [List.eq_replicate_iff]
    exact ⟨rfl, fun c hc => by simpa using List.mem_takeWhile_imp hc⟩
  have heq := congrArg List.reverse hsplit
  rw [hall, List.reverse_append, List.reverse_replicate, List.reverse_reverse] at heq
  exact ⟨_, heq.symm⟩

/-- Trailing separators make no words. -/
theorem words_trimEnd (t : Text) : words sep (trimEnd sep t) = words sep t := by
  obtain ⟨n, hn⟩ : ∃ n, t = trimEnd sep t ++ List.replicate n sep := trimEnd_append_replicate t
  have hwords : words sep (trimEnd sep t ++ List.replicate n sep) = words sep (trimEnd sep t) :=
    words_append_replicate _ n
  rw [← hn] at hwords
  exact hwords.symm

end Text

namespace Template

/-- The segments that are not empty. -/
def solid (ss : List Segment) : List Segment :=
  ss.filter (· != .empty)

theorem solid_map_parse (ps : List Text) : solid (ps.map Segment.parse) = (ps.filter (· != [])).map Segment.parse := by
  have empty : ∀ p : Text, (Segment.parse p != .empty) = (p != []) := by
    intro p
    cases p with
    | nil => rfl
    | cons c p =>
      have hne : Segment.parse (c :: p) ≠ .empty := fun h => List.cons_ne_nil c p (Segment.parse_eq_empty h)
      rw [bne_iff_ne.2 hne, bne_iff_ne.2 (List.cons_ne_nil c p)]
  rw [solid, List.filter_map]
  congr 1
  exact List.filter_congr fun p _ => empty p

theorem solid_segments (t : Text) : solid (segments t) = (Text.words '/' t).map Segment.parse := by
  rw [segments, solid_map_parse, Text.words, pieces]
  congr 1
  split
  · rename_i h
    rw [h]
    rfl
  · rfl

theorem words_join (front back : Text) :
    Text.words '/' (join front back) = Text.words '/' front ++ Text.words '/' back := by
  have hback : Text.words '/' (Text.trimStart '/' back) = Text.words '/' back := Text.words_trimStart back
  unfold join
  split
  · rename_i h
    rw [h, Text.words_nil] at hback
    rw [Text.words_trimEnd, ← hback, List.append_nil]
  · rw [Text.words_append_cons, Text.words_trimEnd, hback]

/-- The segments of a template behind a prefix. -/
theorem solid_join (front back : Text) :
    solid (segments (join front back)) = solid (segments front) ++ solid (segments back) := by
  rw [solid_segments, words_join, List.map_append, ← solid_segments, ← solid_segments]

/-! ## Empty segments count for nothing -/

theorem solid_cons (s : Segment) (ss : List Segment) :
    solid (s :: ss) = if s = .empty then solid ss else s :: solid ss := by
  unfold solid
  rw [List.filter_cons]
  by_cases hs : s = .empty <;> simp [hs]

/-- What the empty segment adds nothing to is made of the other segments. -/
theorem flatMap_solid {α : Type} {f : Segment → List α} (hf : f .empty = []) (ss : List Segment) :
    (solid ss).flatMap f = ss.flatMap f := by
  induction ss with
  | nil => rfl
  | cons s ss ih =>
    rw [solid_cons, List.flatMap_cons]
    split
    · rename_i hs
      rw [ih, hs, hf, List.nil_append]
    · rw [List.flatMap_cons, ih]

theorem flatMap_segments_join {α : Type} {f : Segment → List α} (hf : f .empty = []) (front back : Text) :
    (segments (join front back)).flatMap f = (segments front).flatMap f ++ (segments back).flatMap f := by
  rw [← flatMap_solid hf, solid_join, List.flatMap_append, flatMap_solid hf, flatMap_solid hf]

theorem spread_solid (ss : List Segment) : ∀ t, spread (solid ss) t = spread ss t := by
  induction ss with
  | nil => exact fun t => rfl
  | cons s ss ih =>
    intro t
    rw [solid_cons]
    split
    · rename_i hs
      simp [hs, spread, Segment.takes, ih]
    · rw [spread, spread]
      simp only [ih]

/-- The keys of a template behind a prefix. -/
theorem keys_join (front back : Text) : keys (join front back) = keys front ++ keys back :=
  flatMap_segments_join rfl front back

/-- The pattern text of a template behind a prefix, which begins only once. -/
theorem body_join (front back : Text) : body (join front back) = body front ++ (body back).tail :=
  congrArg ('^' :: ·) (flatMap_segments_join rfl front back)

theorem spread_join (front back t : Text) :
    spread (segments (join front back)) t = spread (segments front ++ segments back) t := by
  rw [← spread_solid, solid_join, ← spread_solid (segments front ++ segments back)]
  simp only [solid, List.filter_append]

/-- A property that the empty segment has is one of a template's segments if it is one of those that are
not empty. -/
theorem forall_segment_iff_solid {P : Segment → Prop} (hP : P .empty) {ss : List Segment} :
    (∀ s ∈ ss, P s) ↔ ∀ s ∈ solid ss, P s := by
  constructor
  · intro h s hs
    exact h s (List.mem_of_mem_filter hs)
  · intro h s hs
    by_cases he : s = .empty
    · rw [he]
      exact hP
    · exact h s (List.mem_filter.2 ⟨hs, by simpa using he⟩)

/-- What all segments of two templates have in common those of one behind the other do as well. -/
theorem forall_segment_join {P : Segment → Prop} (hP : P .empty) {front back : Text}
    (hfront : ∀ s ∈ segments front, P s)
    (hback : ∀ s ∈ segments back, P s) : ∀ s ∈ segments (join front back), P s := by
  rw [forall_segment_iff_solid hP, solid_join, List.forall_mem_append]
  exact ⟨(forall_segment_iff_solid hP).1 hfront, (forall_segment_iff_solid hP).1 hback⟩

theorem leastSize_solid (ss : List Segment) :
    ((solid ss).map Segment.leastSize).sum = (ss.map Segment.leastSize).sum := by
  induction ss with
  | nil => rfl
  | cons s ss ih =>
    rw [solid_cons, List.map_cons, List.sum_cons]
    split
    · rename_i hs
      rw [ih, hs, Segment.leastSize, Nat.zero_add]
    · rw [List.map_cons, List.sum_cons, ih]

/-- A template behind a prefix takes what both take, with the frame and the ending of one of them. -/
theorem leastSize_join (front back : Text) :
    leastSize (join front back) .strict + 296 = leastSize front .strict + leastSize back .strict := by
  have hsum : ((segments (join front back)).map Segment.leastSize).sum =
      ((segments front).map Segment.leastSize).sum + ((segments back).map Segment.leastSize).sum := by
    rw [← leastSize_solid, solid_join, List.map_append, List.sum_append, leastSize_solid, leastSize_solid]
  simp only [leastSize, reduceCtorEq, if_false]
  omega

end Template

end PathRouter
