/-
Sameness of routes. Routes are compared by their keys, by the way they end and by their pattern text. That determines
everything else about them but the modes that the text was read in (`Route.eq_of_same`): templates are read in the same
modes always, regular expressions from elsewhere may have been read in others.
-/
import PathRouter.Proofs.Regex.Reading
import PathRouter.Route

namespace PathRouter

open Regex

namespace Expression

/-- The expression that a pattern text denotes in the given modes, if it is one. How deep it nests and how large it is
does not matter here: limits on that decide whether there is an expression, not which one it is. -/
def denoted? (modes : Flags) (source : Text) : Option Expression :=
  match Reader.run source.length ⟨modes, 0, [], [], [], []⟩ source with
  | .ok b =>
    if b.outer.isEmpty then some ⟨source, b.body.regex, b.names.filter fun (i, _) => b.body.regex.hasGroup i⟩ else none
  | .error _ => none

theorem source_of_denoted? {modes : Flags} {source : Text} {e : Expression} (h : denoted? modes source = some e) :
    e.source = source := by
  unfold denoted? at h
  split at h
  · split at h
    · cases h
      rfl
    · cases h
  · cases h

/-- An expression that was read within the limits is the one that its text denotes. -/
theorem denoted?_of_parse {anyCase : Bool} {source : Text} {e : Expression} (h : parse anyCase source = .ok e) :
    denoted? (.initial anyCase) source = some e := by
  obtain ⟨b, hrun, h⟩ := bind_eq_ok.1 h
  obtain ⟨⟨regex, names⟩, hfinish, h⟩ := bind_eq_ok.1 h
  cases h
  have hrun : Reader.run source.length ⟨.initial anyCase, 0, [], [], [], []⟩ source = .ok b := hrun
  obtain ⟨houter, hheight, hsteps, rfl⟩ := Reader.finish_eq_ok hfinish
  rw [Reader.finish_eq houter, if_neg (Nat.not_lt.2 hheight), if_neg (Nat.not_lt.2 hsteps)] at hfinish
  cases hfinish
  rw [denoted?, hrun]
  simp only [houter, List.isEmpty_nil, if_true]

end Expression

namespace Route

/-- What a route is made from: a template in a mode, or a regular expression, read from its text in some modes. -/
inductive Origin where
  | template (text : Text) (mode : Template.Mode)
  | expression (modes : Flags) (text : Text)
  deriving DecidableEq, Repr

namespace Origin

/-- The route, if the template or the text of the expression has one. -/
def route? : Origin → Option Route
  | template text mode => (compile text mode).toOption
  | expression modes text => (Expression.denoted? modes text).map ofExpression

/-- The parameter names. -/
def keys : Origin → Keys
  | template text _ => .named (Template.keys text)
  | expression _ _ => .unknown

/-- The way to end. -/
def tail : Origin → Tail
  | template _ mode => mode.tail
  | expression _ _ => .unknown

/-- The pattern text. -/
def source : Origin → Text
  | template text mode => Template.source text mode
  | expression _ text => text

/-- The modes that the pattern text is read in. -/
def modes : Origin → Flags
  | template _ _ => .initial true
  | expression modes _ => modes

variable {a b : Origin} {r s : Route}

/-- A route has the keys and the ending of what it is made from, with the expression that the text denotes in the
modes. -/
theorem of_route? (h : a.route? = some r) :
    r.keys = a.keys ∧ r.pattern.tail = a.tail ∧ Expression.denoted? a.modes a.source = some r.pattern.expression := by
  cases a with
  | template text mode =>
    rw [route?, compile] at h
    cases hparse : Expression.parse true (Template.source text mode) with
    | error cause =>
      rw [hparse] at h
      cases h
    | ok e =>
      rw [hparse] at h
      cases h
      exact ⟨rfl, rfl, Expression.denoted?_of_parse hparse⟩
  | expression modes text =>
    obtain ⟨e, he, rfl⟩ := Option.map_eq_some_iff.1 h
    exact ⟨rfl, rfl, he⟩

/-- With the same keys, either both are templates or none is. -/
theorem modes_eq_of_keys (h : a.keys = b.keys)
    (hmodes : ∀ f g t u, a = .expression f t → b = .expression g u → f = g) : a.modes = b.modes := by
  cases a with
  | template => cases b with
    | template => rfl
    | expression => cases h
  | expression => cases b with
    | template => cases h
    | expression => exact hmodes _ _ _ _ rfl rfl

end Origin

theorem same_iff {r s : Route} : r.same s = true ↔
    r.keys = s.keys ∧ r.pattern.tail = s.pattern.tail ∧ r.pattern.source = s.pattern.source := by
  rw [same, Pattern.same, Bool.and_eq_true, Bool.and_eq_true, beq_iff_eq, beq_iff_eq, beq_iff_eq]

/-- Read in the same modes, routes that count as the same are equal. -/
theorem eq_of_same {a b : Origin} {r s : Route} (ha : a.route? = some r) (hb : b.route? = some s)
    (hmodes : a.modes = b.modes)
    (h : r.same s = true) : r = s := by
  obtain ⟨hkeys, htail, hsource⟩ := same_iff.1 h
  obtain ⟨-, -, hr⟩ := Origin.of_route? ha
  obtain ⟨-, -, hs⟩ := Origin.of_route? hb
  have htext : a.source = b.source := by
    rw [← Expression.source_of_denoted? hr, ← Expression.source_of_denoted? hs]
    exact hsource
  have hexpression : r.pattern.expression = s.pattern.expression := by
    rw [hmodes, htext, hs] at hr
    exact (Option.some.inj hr).symm
  obtain ⟨rkeys, rexpression, rtail⟩ := r
  obtain ⟨skeys, sexpression, stail⟩ := s
  cases hkeys
  cases htail
  cases hexpression
  rfl

/-- Routes that count as the same behave alike on every path, whatever they are made from; of two regular expressions
it is asked that they were read in the same modes. -/
theorem agree_of_same {a b : Origin} {r s : Route} (ha : a.route? = some r) (hb : b.route? = some s)
    (hmodes : ∀ f g t u, a = .expression f t → b = .expression g u → f = g) (h : r.same s = true) (path : Text) :
    r.pattern.isMatch path = s.pattern.isMatch path ∧ r.pattern.exec path = s.pattern.exec path ∧
    r.exec path = s.exec path := by
  have hkeys : a.keys = b.keys := by
    rw [← (Origin.of_route? ha).1, ← (Origin.of_route? hb).1]
    exact (same_iff.1 h).1
  obtain rfl := eq_of_same ha hb (Origin.modes_eq_of_keys hkeys hmodes) h
  exact ⟨rfl, rfl, rfl⟩

/-- Slashes around and between segments do not count in a template. -/
theorem agree_of_same_slashes : ∃ r s, (Origin.template "/:x/b".toList .loose).route? = some r ∧
    (Origin.template ":x//b/".toList .loose).route? = some s ∧ r.same s = true ∧
    r.exec "/1/B/c".toList = some ⟨[("x".toList, "1".toList)]⟩ ∧
    s.exec "/1/B/c".toList = some ⟨[("x".toList, "1".toList)]⟩ := by
  obtain ⟨r, hr, hexec⟩ : ∃ r, (Origin.template "/:x/b".toList .loose).route? = some r ∧
    r.exec "/1/B/c".toList = some ⟨[("x".toList, "1".toList)]⟩ := ⟨_, rfl, by decide⟩
  obtain ⟨s, hs, hsame⟩ : ∃ s, (Origin.template ":x//b/".toList .loose).route? = some s ∧ r.same s = true :=
    ⟨_, rfl, by cases hr; decide⟩
  obtain ⟨-, -, hagree⟩ := agree_of_same hr hs (fun _ _ _ _ h => by cases h) hsame "/1/B/c".toList
  exact ⟨r, s, hr, hs, hsame, hexec, hagree ▸ hexec⟩

/-- The same text read without and with regard to case: the routes count as the same, and a capital letter tells them
apart. -/
theorem same_otherModes : ∃ r s, (Origin.expression (.initial false) "^/a".toList).route? = some r ∧
    (Origin.expression (.initial true) "^/a".toList).route? = some s ∧ r.same s = true ∧
    r.pattern.isMatch "/A".toList = false ∧ s.pattern.isMatch "/A".toList = true :=
  ⟨_, _, rfl, rfl, by decide, by decide, by decide⟩

end Route

end PathRouter
