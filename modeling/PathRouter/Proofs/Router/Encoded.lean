/-
Percent-encoded values pass through a router unchanged. A path is matched and split as it stands, and what is captured
is decoded after that; an encoded value has no character that the split or the URI depends on
(`Percent.Encodes.not_mem`). So the path made of a template and encoded values leads to the template's route, and its
parameters are the values before they were encoded.
-/
import PathRouter.Proofs.Percent
import PathRouter.Proofs.Router.Dispatch
import PathRouter.Proofs.Template.Nest
import PathRouter.Proofs.Uri

namespace PathRouter

open Regex

/-- The values for keys are the encodings of texts that are not empty. -/
def Values.Encode (values : Values) (keys : List Text) (texts : Text → Text) : Prop :=
  ∀ key ∈ keys, texts key ≠ [] ∧ ∃ encoded, values.lookup key = some (.string encoded) ∧
    Percent.Encodes (texts key) encoded

/-- The encodings count as present. -/
theorem Values.Encode.text? {values : Values} {keys : List Text} {texts : Text → Text} (h : values.Encode keys texts)
    {key : Text}
    (hkey : key ∈ keys) : ∃ encoded, values.text? key = some encoded ∧ Percent.Encodes (texts key) encoded := by
  obtain ⟨hne, encoded, hlookup, hencodes⟩ := h key hkey
  obtain ⟨c, t, rfl⟩ := List.exists_cons_of_ne_nil (hencodes.ne_nil hne)
  exact ⟨c :: t, by rw [Values.text?, hlookup]; rfl, hencodes⟩

/-! ## Paths made of values -/

namespace Template

variable {values : Values} {T : Text}

/-- The path made of values begins with a slash. -/
theorem head?_inject (hT : Plain T) (htidy : Tidy T) (hvalues : ∀ s ∈ segments T, s.Accepts values)
    (hne : inject T values ≠ []) : (inject T values).head? = some '/' := by
  have hslash := (takes_given hT hvalues).atSlash atSlash_nil
  rw [List.append_nil, ← inject_eq htidy hvalues] at hslash
  obtain ⟨c, t, ht⟩ := List.exists_cons_of_ne_nil hne
  rw [ht] at hslash ⊢
  rw [List.head?_cons, hslash c rfl]

theorem wildLast_of_no_wildcard : ∀ {ss : List Segment}, (∀ o, .wildcard o ∉ ss) → WildLast ss
  | [], _ => trivial
  | s :: ss, h => by
    have ih : WildLast ss := wildLast_of_no_wildcard fun o ho => h o (List.mem_cons_of_mem s ho)
    cases s with
    | wildcard o => exact absurd List.mem_cons_self (h o)
    | empty | literal | param => exact ih

/-- Encoded values have no slash, so that parameters accept them. -/
theorem accepts_encoded {texts : Text → Text} (hwild : ∀ o, .wildcard o ∉ segments T)
    (h : values.Encode (keys T) texts) :
    ∀ s ∈ segments T, s.Accepts values := by
  intro s hs
  cases s with
  | empty | literal => trivial
  | wildcard o => exact absurd hs (hwild o)
  | param p =>
    obtain ⟨encoded, hencoded, hencodes⟩ := h.text? (List.mem_flatMap.2 ⟨_, hs, List.mem_singleton_self p.name⟩)
    exact ⟨encoded, hencoded, hencodes.not_mem (by decide) (by decide)⟩

/-- The path made of encoded values has no question mark. -/
theorem question_not_mem_inject {texts : Text → Text} (hT : Plain T) (htidy : Tidy T)
    (hwild : ∀ o, .wildcard o ∉ segments T)
    (h : values.Encode (keys T) texts) : '?' ∉ inject T values := by
  have plain : ∀ {t : Text}, PlainText t → '?' ∉ t := fun ht hmem => ht '?' hmem (by decide)
  rw [inject_eq htidy (accepts_encoded hwild h), List.mem_flatMap]
  rintro ⟨s, hs, hmem⟩
  cases s with
  | empty => cases hmem
  | literal text =>
    rcases List.mem_cons.1 hmem with heq | hmem
    · cases heq
    · exact plain (hT _ hs) hmem
  | wildcard o => exact hwild o hs
  | param p =>
    obtain ⟨encoded, hencoded, hencodes⟩ := h.text? (List.mem_flatMap.2 ⟨_, hs, List.mem_singleton_self p.name⟩)
    rw [Segment.given, hencoded, Option.getD_some] at hmem
    rcases List.mem_append.1 hmem with hmem | hmem
    · rcases List.mem_cons.1 hmem with heq | hmem
      · cases heq
      · exact hencodes.not_mem (by decide) (by decide) hmem
    · cases hsuffix : p.suffix with
      | none =>
        rw [hsuffix] at hmem
        cases hmem
      | some suffix =>
        obtain ⟨ext, rfl, hext⟩ := (hT _ hs).2 suffix hsuffix
        rw [hsuffix, Option.getD_some] at hmem
        rcases List.mem_cons.1 hmem with heq | hmem
        · cases heq
        · exact plain hext hmem

end Template

/-! ## Decoded parameters -/

/-- Captured encodings are decoded one by one. -/
theorem Params.decode_encoded {values : Values} {texts : Text → Text} : ∀ {keys : List Text}, values.Encode keys texts →
    Params.decode ⟨keys.map fun key => (key, (values.text? key).getD [])⟩ = .ok (keys.map fun key => (key, texts key))
  | [], _ => rfl
  | key :: keys, h => by
    obtain ⟨encoded, hencoded, hencodes⟩ := Values.Encode.text? h List.mem_cons_self
    have hentry : Decoded.entry key encoded = .ok (key, texts key) := by rw [Decoded.entry, hencodes.decode]
    have ih := decode_encoded fun k hk => h k (List.mem_cons_of_mem key hk)
    unfold Params.decode at ih ⊢
    rw [List.map_cons, List.mapM_cons, ih, hencoded, Option.getD_some]
    dsimp only
    rw [hentry]
    rfl

namespace Router

variable {σ : Type}

/-- A router of one route. -/
theorem route_empty_eq_ok {t : Text} {table : MethodTable σ} {r : Router σ} : (empty.route t table).result = .ok r ↔
    ∃ route, Route.compile t .strict = .ok route ∧ r = ⟨[⟨t, route, table⟩], none⟩ := by
  rw [route_eq_ok]
  exact ⟨fun h => h.elim (fun h => absurd h.1 List.not_mem_nil) (·.2), fun h => .inr ⟨List.not_mem_nil, h⟩⟩

/-- A router with one template without wildcards gets the texts that were percent-encoded into the path: the path that
the template makes of the encodings, read as a URI without a fragment, is dispatched to the template, and the
parameters that are recorded for its handlers are the texts themselves, key by key. -/
theorem serve_encoded {T : Text} (hT : Template.Plain T) (htidy : Template.Tidy T)
    (hwild : ∀ o, .wildcard o ∉ Template.segments T) {values : Values} {texts : Text → Text}
    (hvalues : values.Encode (Template.keys T) texts) {u : Uri} (hu : Uri.parse (Template.inject T values) = .ok u)
    (hfragment : '#' ∉ Template.inject T values) {table : MethodTable σ} {r : Router σ}
    (hr : (empty.route T table).result = .ok r) (s : σ) {request : Request} (huri : request.uri = u) :
    ∃ dispatched : Request, dispatched.method = request.method ∧ dispatched.uri = u ∧
      dispatched.matched = some ⟨T, .named (Template.keys T)⟩ ∧
      dispatched.recorded = some (.ok ((Template.keys T).map fun key => (key, texts key))) ∧
      (∀ name, (Shape.pairs name).extract dispatched.recorded =
        .ok (.list ((Template.keys T).map fun key => .list [.text key, .text (texts key)]))) ∧
      (r.withState s).serve request = (table.serve s dispatched).after [.matched u.path T] := by
  have haccepts := Template.accepts_encoded hwild hvalues
  -- The path of the URI is all that was injected: it has neither a query nor a fragment.
  have hslash := Template.head?_inject hT htidy haccepts (Uri.ne_nil_of_parse hu)
  obtain ⟨-, rfl⟩ := Uri.parse_path hu hslash (Template.question_not_mem_inject hT htidy hwild hvalues) hfragment
  obtain ⟨route, hroute, rfl⟩ := route_empty_eq_ok.1 hr
  have hexec := Template.exec_given hT htidy (Template.wildLast_of_no_wildcard hwild) haccepts hroute
  let e : Endpoint σ := ⟨T, route, table⟩
  have hkeys : route.keys = .named (Template.keys T) := Template.keys_of_compile hroute
  have he : (⟨[e], none⟩ : Router σ).dispatch? request.uri.path = some (e, _) :=
    dispatch?_singleton (by rw [huri]; exact hexec)
  have hdecode := Params.decode_encoded hvalues
  refine ⟨request.dispatchedBy e _, rfl, huri, ?_, congrArg some hdecode, fun name => ?_, ?_⟩
  · show some (MatchedPath.mk T route.keys) = _
    rw [hkeys]
  · show (Shape.pairs name).extract (some (Params.decode _)) = _
    rw [hdecode]
    simp only [Shape.extract, Shape.readAll, List.map_map]
    rfl
  · rw [serve_withState he, huri]

/-- A value with a slash and a question mark in it is one parameter. -/
theorem serve_encoded_slash : ∃ (table : MethodTable Unit) (r : Router Unit),
    (empty.route "/f/:x".toList table).result = .ok r ∧
    ∃ request dispatched : Request, request.uri.path = "/f/a%2F%3f".toList ∧
      dispatched.recorded = some (.ok [("x".toList, "a/?".toList)]) ∧
      (r.withState ()).serve request = (table.serve () dispatched).after
        [.matched "/f/a%2F%3f".toList "/f/:x".toList] := by
  let values : Values := [("x".toList, .string "a%2F%3f".toList)]
  have hsegments : Template.segments "/f/:x".toList =
      [.literal "f".toList, .param ⟨"x".toList, false, none, none⟩] := by decide
  have hkeys : Template.keys "/f/:x".toList = ["x".toList] := by decide
  have hinject : Template.inject "/f/:x".toList values = "/f/a%2F%3f".toList := by decide
  have hT : Template.Plain "/f/:x".toList := by
    rw [Template.Plain, hsegments]
    exact List.forall_mem_cons.2 ⟨(by decide : PlainText "f".toList),
      List.forall_mem_singleton.2 ⟨rfl, fun s hs => (by cases hs)⟩⟩
  have hwild : ∀ o, .wildcard o ∉ Template.segments "/f/:x".toList := by
    rw [hsegments]
    simp
  have hvalues : values.Encode (Template.keys "/f/:x".toList) fun _ => "a/?".toList := by
    rw [hkeys]
    exact List.forall_mem_singleton.2
      ⟨by decide, "a%2F%3f".toList, rfl, .plain rfl (.encoded true true rfl (.encoded true false rfl .nil))⟩
  obtain ⟨route, hroute⟩ : ∃ route, Route.compile "/f/:x".toList .strict = .ok route := ⟨_, rfl⟩
  let table : MethodTable Unit := .any fun _ => .constant notFound
  have hr : (empty.route "/f/:x".toList table).result = .ok ⟨[⟨_, route, table⟩], none⟩ :=
    route_empty_eq_ok.2 ⟨route, hroute, rfl⟩
  let request : Request := .new (.verb .get) ⟨none, none, "/f/a%2F%3f".toList, none⟩
  have huri : request.uri = ⟨none, none, "/f/a%2F%3f".toList, none⟩ := rfl
  obtain ⟨dispatched, -, -, -, hrecorded, -, hanswer⟩ :=
    serve_encoded hT ⟨rfl, by simp [List.infix_cons_iff], by decide⟩ hwild
    hvalues (by rw [hinject]; rfl) (by rw [hinject]; decide) hr () huri
  rw [hkeys] at hrecorded
  exact ⟨table, _, hr, request, dispatched, rfl, hrecorded, hanswer⟩

/-- A number sign in a literal segment begins a fragment, so that the path ends there. -/
theorem serve_encoded_fragment : ∃ (T : Text) (values : Values) (texts : Text → Text) (u : Uri) (r : Router Unit),
    Template.Plain T ∧ Template.Tidy T ∧ (∀ o, .wildcard o ∉ Template.segments T) ∧
    values.Encode (Template.keys T) texts ∧
    Uri.parse (Template.inject T values) = .ok u ∧ (empty.route T .empty).result = .ok r ∧
    r.dispatch? u.path = none := by
  let values : Values := [("x".toList, .string "v".toList)]
  have hsegments : Template.segments "/a#b/:x".toList =
      [.literal "a#b".toList, .param ⟨"x".toList, false, none, none⟩] := by
    decide
  have hkeys : Template.keys "/a#b/:x".toList = ["x".toList] := by decide
  have hinject : Template.inject "/a#b/:x".toList values = "/a#b/v".toList := by decide
  obtain ⟨route, hroute, hmiss⟩ : ∃ route, Route.compile "/a#b/:x".toList .strict = .ok route ∧
      route.exec "/a".toList = none := ⟨_, rfl, rfl⟩
  refine ⟨"/a#b/:x".toList, values, fun _ => "v".toList, ⟨none, none, "/a".toList, none⟩, _, ?_,
    ⟨rfl, by simp [List.infix_cons_iff], by decide⟩, ?_,
    ?_, by rw [hinject]; rfl, route_of_fresh List.not_mem_nil hroute _,
    dispatch?_eq_none_iff.2 (List.forall_mem_singleton.2 hmiss)⟩
  · rw [Template.Plain, hsegments]
    exact List.forall_mem_cons.2 ⟨(by decide : PlainText "a#b".toList),
      List.forall_mem_singleton.2 ⟨rfl, fun s hs => (by cases hs)⟩⟩
  · rw [hsegments]
    simp
  · rw [hkeys]
    exact List.forall_mem_singleton.2 ⟨by decide, "v".toList, rfl, .plain rfl .nil⟩

end Router

end PathRouter
