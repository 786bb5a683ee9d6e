/-
Slashes of templates. What a template is compiled to depends on its words only, the pieces between slashes that are not
empty (`Template.compile_of_words`). Texts have the same words if slashes at the start, at the end or beside another
slash lead from the one to the other, and only then (`Text.words_eq_iff`).
-/
import PathRouter.Proofs.Route.Same
import PathRouter.Proofs.Template.Nest

namespace PathRouter

namespace Text

variable {sep : Char}

/-! ## Texts with the same words -/

/-- The second text has one separator more than the first: at the start, at the end, or beside another separator. -/
inductive Widened (sep : Char) : Text → Text → Prop
  | start (t : Text) : Widened sep t (sep :: t)
  | stop (t : Text) : Widened sep t (t ++ [sep])
  | beside (front back : Text) : Widened sep (front ++ sep :: back) (front ++ sep :: sep :: back)

/-- Adding and removing such separators leads from one text to the other. -/
abbrev Respaced (sep : Char) : Text → Text → Prop :=
  Relation.EqvGen (Widened sep)

theorem Widened.words_eq {t u : Text} (h : Widened sep t u) : words sep t = words sep u := by
  cases h with
  | start => exact (words_cons_self _).symm
  | stop => rw [words_append_cons, words_nil, List.append_nil]
  | beside => rw [words_append_cons, words_append_cons, words_cons_self]

theorem Respaced.words_eq {t u : Text} (h : Respaced sep t u) : words sep t = words sep u := by
  induction h with
  | rel _ _ h => exact h.words_eq
  | refl => rfl
  | symm _ _ _ ih => exact ih.symm
  | trans _ _ _ _ _ ih ih' => exact ih.trans ih'

/-- Pieces that are empty can be left out, behind any text. -/
theorem respaced_flatMap (pieces : List Text) : ∀ front : Text, Respaced sep (front ++ pieces.flatMap (sep :: ·))
    (front ++ (pieces.filter (· != [])).flatMap (sep :: ·)) := by
  induction pieces with
  | nil => exact fun _ => .refl _
  | cons p pieces ih =>
    intro front
    by_cases hp : p = []
    · subst hp
      have one : Respaced sep (front ++ sep :: pieces.flatMap (sep :: ·)) (front ++ pieces.flatMap (sep :: ·)) := by
        cases pieces with
        | nil =>
          rw [List.flatMap_nil, List.append_nil]
          exact .symm _ _ (.rel _ _ (.stop front))
        | cons q pieces => exact .symm _ _ (.rel _ _ (.beside front _))
      exact .trans _ _ _ one (ih front)
    · rw [List.filter_cons_of_pos (by simpa using hp), List.flatMap_cons, List.flatMap_cons, ← List.append_assoc,
        ← List.append_assoc]
      exact ih (front ++ sep :: p)

/-- Every text can be respaced to its words with a separator before each. -/
theorem respaced_words (t : Text) : Respaced sep t ((words sep t).flatMap (sep :: ·)) := by
  obtain ⟨p, pieces, hsplit⟩ := List.exists_cons_of_ne_nil (split_ne_nil sep t)
  have hcons : sep :: t = (split sep t).flatMap (sep :: ·) := by
    rw [hsplit, List.flatMap_cons, List.cons_append, append_flatMap_split hsplit]
  refine .trans _ _ _ (.rel _ _ (.start t)) ?_
  rw [hcons]
  exact respaced_flatMap (split sep t) []

/-- Texts have the same words exactly if one can be respaced to the other. -/
theorem words_eq_iff {t u : Text} : words sep t = words sep u ↔ Respaced sep t u := by
  constructor
  · intro h
    have hu : Respaced sep u ((words sep t).flatMap (sep :: ·)) := h ▸ respaced_words u
    exact .trans _ _ _ (respaced_words t) (.symm _ _ hu)
  · exact Respaced.words_eq

end Text

/-! ## Compiling -/

namespace Template

/-- Compiling gives the same route for both templates, or refuses both for the same cause. -/
def CompiledAlike (mode : Mode) (t u : Text) : Prop :=
  (∃ r s, Route.compile t mode = .ok r ∧ Route.compile u mode = .ok s ∧ r.same s = true ∧ r = s) ∨
    ∃ cause, Route.compile t mode = .error ⟨t, cause⟩ ∧ Route.compile u mode = .error ⟨u, cause⟩

/-- What the segments of a template are made into, where the empty segment counts for nothing, depends on its words. -/
theorem flatMap_segments_of_words {α : Type} {f : Segment → List α} (hf : f .empty = []) {t u : Text}
    (h : Text.words '/' t = Text.words '/' u) : (segments t).flatMap f = (segments u).flatMap f := by
  rw [← flatMap_solid hf, ← flatMap_solid hf (segments u), solid_segments, solid_segments, h]

theorem keys_of_words {t u : Text} (h : Text.words '/' t = Text.words '/' u) : keys t = keys u :=
  flatMap_segments_of_words rfl h

theorem source_of_words {t u : Text} (h : Text.words '/' t = Text.words '/' u) (mode : Mode) :
    source t mode = source u mode := by
  have hbody : body t = body u := congrArg ('^' :: ·) (flatMap_segments_of_words rfl h)
  rw [source, source, hbody]

theorem compiledAlike_of_words (mode : Mode) {t u : Text} (h : Text.words '/' t = Text.words '/' u) :
    CompiledAlike mode t u := by
  unfold CompiledAlike Route.compile
  rw [source_of_words h, keys_of_words h]
  cases Expression.parse true (source u mode) with
  | ok e => exact .inl ⟨_, _, rfl, rfl, Route.same_iff.2 ⟨rfl, rfl, rfl⟩, rfl⟩
  | error cause => exact .inr ⟨cause, rfl, rfl⟩

/-- Only the pieces of a template that are not empty count. Templates with the same ones are compiled to the same route
in each mode, or are both refused. So a slash in front counts for nothing, whatever the template, and no slash does
that is added or removed at the start, at the end or beside another one. -/
theorem compile_of_words (mode : Mode) :
    (∀ t u, Text.words '/' t = Text.words '/' u → CompiledAlike mode t u) ∧
    (∀ t, CompiledAlike mode t ('/' :: t)) ∧
    ∀ t u, Text.Respaced '/' t u → CompiledAlike mode t u :=
  ⟨fun _ _ h => compiledAlike_of_words mode h, fun t => compiledAlike_of_words mode (Text.words_cons_self t).symm,
    fun _ _ h => compiledAlike_of_words mode h.words_eq⟩

/-- Slashes everywhere, and a template that is refused with and without them. -/
theorem compile_of_words_slashes : (∃ r, Route.compile "//a//:x?/".toList .loose = .ok r ∧
    Route.compile "a/:x?".toList .loose = .ok r) ∧ ∃ cause,
      Route.compile "(/".toList .strict = .error ⟨"(/".toList, cause⟩ ∧
    Route.compile "(".toList .strict = .error ⟨"(".toList, cause⟩ := by
  obtain ⟨r, hr⟩ : ∃ r, Route.compile "a/:x?".toList .loose = .ok r := ⟨_, rfl⟩
  obtain ⟨cause, hcause⟩ : ∃ cause, Route.compile "(".toList .strict = .error ⟨"(".toList, cause⟩ := ⟨_, rfl⟩
  constructor
  · rcases (compile_of_words .loose).1 "//a//:x?/".toList "a/:x?".toList (by decide) with
      ⟨r', s, hr', hs, -, rfl⟩ | ⟨_, -, hs⟩
    · exact ⟨r', hr', hs⟩
    · cases hr.symm.trans hs
  · rcases (compile_of_words .strict).2.2 "(/".toList "(".toList (.symm _ _ (.rel _ _ (.stop _))) with
      ⟨_, s, -, hs, -⟩ | h
    · cases hcause.symm.trans hs
    · exact h

end Template

end PathRouter
