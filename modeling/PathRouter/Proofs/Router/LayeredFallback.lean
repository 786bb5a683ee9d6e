/-
What a layer around a router without a fallback comes to when another router takes that router in. The layer gives
the router a fallback, the answer that nothing was found, with the layer around it. Merging takes it for a fallback
that was set, and it replaces the other router's; nesting registers it for everything behind the prefix, where it
stays in front of all that is registered later (`Router.dispatch?_run`).
-/
import PathRouter.Proofs.Router.Coverage

namespace PathRouter

/-! ## Where fallbacks stay -/

/-- An endpoint has the template and the route of another one and, with a layer around it, its fallback, if that was
registered; if that says nothing of the methods that are allowed, neither does this. -/
structure Endpoint.Stays {σ : Type} (m : Layer) (e e' : Endpoint σ) : Prop where
  template : e'.template = e.template
  route : e'.route = e.route
  fallback : ∀ h, e.table.fallback = .custom h → e'.table.fallback = .custom fun s => m (h s)
  allow : e.table.allow = .skip → e'.table.allow = .skip

namespace Endpoint

variable {σ : Type} {m m' : Layer} {e e' e'' : Endpoint σ}

theorem Extends.stays (h : e.Extends e') : Stays id e e' :=
  ⟨h.template, h.route, h.table.fallback, h.table.allow⟩

theorem Stays.trans (h : Stays m e e') (h' : Stays m' e' e'') : Stays (m' ∘ m) e e'' :=
  ⟨h'.template.trans h.template, h'.route.trans h.route, fun k hk => h'.fallback _ (h.fallback k hk),
    fun ha => h'.allow (h.allow ha)⟩

theorem stays_layer (e : Endpoint σ) (l : Layer) : Stays l e (e.mapTable (·.layer l)) := by
  refine ⟨rfl, rfl, fun h hf => ?_, fun ha => ha⟩
  show e.table.fallback.mapService l = _
  rw [hf]
  rfl

theorem stays_mapHandlers (e : Endpoint σ) (l : Layer) : Stays id e (e.mapTable (·.mapHandlers l)) :=
  ⟨rfl, rfl, fun _ hf => hf, fun ha => ha⟩

end Endpoint

namespace Router

variable {σ : Type} {r r' : Router σ}

/-- A step leaves requests to the endpoint that they are dispatched to, and leaves the fallback there. -/
theorem dispatch?_apply {op : Operation σ} (h : (op.apply r).result = .ok r') {path : Text} {e : Endpoint σ}
    {p : Params}
    (he : r.dispatch? path = some (e, p)) : ∃ e', r'.dispatch? path = some (e', p) ∧
      Endpoint.Stays (op.around .fallbacks) e e' := by
  have hregisters : op.Registers → op.around .fallbacks = id →
      ∃ e', r'.dispatch? path = some (e', p) ∧ Endpoint.Stays (op.around .fallbacks) e e' := by
    intro hop hid
    obtain ⟨e', he', hextends⟩ := (changes_apply hop h).dispatch? he
    exact ⟨e', he', hid ▸ hextends.stays⟩
  cases op with
  | layer l =>
    cases h
    exact ⟨_, by rw [layer, dispatch?_mapTable, he]; rfl, e.stays_layer l⟩
  | routeLayer l =>
    obtain ⟨-, rfl⟩ := routeLayer_eq_ok.1 h
    exact ⟨_, by rw [dispatch?_mapTable, he]; rfl, e.stays_mapHandlers l⟩
  | route | routeService | merge | nest | nestService | fallback | fallbackService => exact hregisters trivial rfl

/-- Any steps leave requests to the endpoint that they are dispatched to, and leave the fallback there. -/
theorem dispatch?_run {path : Text} {p : Params} : ∀ {ops : List (Operation σ)} {r r' : Router σ} {e : Endpoint σ},
    (ops.foldlM Operation.apply r).result = .ok r' → r.dispatch? path = some (e, p) →
      ∃ e', r'.dispatch? path = some (e', p) ∧ Endpoint.Stays (Operation.allAround .fallbacks ops) e e'
  | [], _, _, e, h, he => by
    cases h
    exact ⟨e, he, (Endpoint.Extends.refl e).stays⟩
  | op :: ops, r, r', e, h, he => by
    rw [List.foldlM_cons, Build.result_bind_eq_ok] at h
    obtain ⟨r₁, h₁, h⟩ := h
    obtain ⟨e₁, he₁, hstays₁⟩ := dispatch?_apply h₁ he
    obtain ⟨e', he', hstays⟩ := dispatch?_run h he₁
    exact ⟨e', he', hstays₁.trans hstays⟩

/-- A request stays with the endpoint that it is dispatched to until the router serves. If the endpoint's table has a
registered fallback and no handler for the method, that fallback answers. -/
theorem serve_run {c : Completion σ} {r' : Router Unit} (h : (c.run r).result = .ok r') {request : Request}
    {e : Endpoint σ}
    {p : Params} (he : r.dispatch? request.uri.path = some (e, p)) {k : Handler σ} (hk : e.table.fallback = .custom k)
    (hallow : e.table.allow = .skip) :
    ∃ e', r'.dispatch? request.uri.path = some (e', p) ∧ e'.template = e.template ∧
      (e'.table.handler? request.method = none → r'.serve request =
        ((c.around .fallbacks (k c.state) (request.dispatchedBy e' p)).map (MethodTable.finish request none)).after
          [.matched request.uri.path e.template]) := by
  obtain ⟨r₁, h₁, hbehind⟩ := Completion.run_eq_ok.1 h
  obtain ⟨e₁, he₁, hstays₁⟩ := dispatch?_run h₁ he
  have hstate : (r₁.withState c.state).dispatch? request.uri.path = some (e₁.mapTable (·.withState c.state), p) := by
    rw [dispatch?_withState, he₁]
    rfl
  obtain ⟨e', he', hstays⟩ := dispatch?_run hbehind hstate
  refine ⟨e', he', hstays.template.trans hstays₁.template, fun hnone => ?_⟩
  -- The layers before the state are inside of those behind it.
  have hfallback₁ : (e₁.table.fallback.withState c.state) = .custom fun _ =>
      Operation.allAround .fallbacks c.before (k c.state) := by
    rw [hstays₁.fallback k hk]
    rfl
  have hserve := serve_by_fallback he' hnone ()
  rw [withState_unit, hstays.fallback _ hfallback₁, hstays.allow (hstays₁.allow hallow), hstays.template] at hserve
  rw [hserve, ← hstays₁.template]
  rfl

/-! ## Registration leaves the router's own fallback alone -/

theorem fallback_mergeTable {t : Text} {u : MethodTable σ} (h : (r.mergeTable t u).result = .ok r') :
    r'.fallback = r.fallback := by
  obtain ⟨es, -, rfl⟩ := mergeTable_eq_ok.1 h
  rfl

theorem fallback_route {t : Text} {u : MethodTable σ} (h : (r.route t u).result = .ok r') :
    r'.fallback = r.fallback := by
  rcases route_eq_ok.1 h with ⟨-, h⟩ | ⟨-, route, -, rfl⟩
  · exact fallback_mergeTable h
  · rfl

theorem fallback_mergeEndpoint {e : Endpoint σ} (h : (r.mergeEndpoint e).result = .ok r') :
    r'.fallback = r.fallback := by
  rcases mergeEndpoint_eq_ok.1 h with ⟨-, h⟩ | ⟨-, rfl⟩
  · exact fallback_mergeTable h
  · rfl

/-! ## Taking in a router with a layer around it -/

/-- A layer leaves the shapes of the tables of a router. -/
theorem related_layer (r : Router σ) (l : Layer) : List.Forall₂ (Endpoint.Related TableRelation.sameShape)
    r.endpoints (r.layer l).endpoints := by
  show List.Forall₂ _ r.endpoints (r.endpoints.map _)
  rw [List.forall₂_map_right_iff, List.forall₂_same]
  exact fun e _ => ⟨rfl, rfl, e.table.sameShape_layer l⟩

theorem related_self (r : Router σ) : Related TableRelation.sameShape Eq r r :=
  .refl fun e _ => .refl e.table

/-- Where a router without a fallback can be merged, it can be merged with a layer around it. The fallback of the
outcome is the one that the layer made. -/
theorem merge_layer {a b m : Router σ} (hnone : b.fallback = none) (h : (a.merge b).result = .ok m) (l : Layer) :
    m.fallback = a.fallback ∧ ∃ m', Related TableRelation.sameShape Eq m m' ∧
      (a.merge (b.layer l)).result = .ok { m' with fallback := some (.any fun _ => l (.constant notFound)) } := by
  obtain ⟨m₁, h₁, rfl⟩ := merge_eq_ok.1 h
  rw [hnone, Option.none_or]
  have hkept : m₁.fallback = a.fallback := Build.foldlM_induction (P := fun r : Router σ => r.fallback = a.fallback) rfl
    (fun _ _ _ _ hb hstep => (fallback_mergeEndpoint hstep).trans hb) h₁
  obtain ⟨m', h₁', hrelated⟩ := Build.foldlM_lockstep (P := Related TableRelation.sameShape Eq)
    (fun _ _ e e' _ hP he hstep => hP.mergeEndpoint he.template he.route (fun _ _ _ hQ hm => hQ.merge he.table hm)
      (fun _ => he.table) hstep) (related_layer b l) (related_self a) h₁
  refine ⟨hkept, m', hrelated, merge_eq_ok.2 ⟨m', h₁', ?_⟩⟩
  show _ = { m' with fallback := (some ((b.fallback.getD _).layer l)).or m'.fallback }
  rw [hnone]
  rfl

/-- Where a router without a fallback can be nested, it can be nested with a layer around it if the template of
everything behind the prefix is new and has a route. The endpoint with that template comes last. -/
theorem nest_layer {a b n : Router σ} {front : Text} (hnone : b.fallback = none) (h : (a.nest front b).result = .ok n)
    {route : Route} (hroute : Route.compile (Template.join front catchAll) .strict = .ok route)
    (hnew : Template.join front catchAll ∉ n.templates) (l : Layer) :
    n.fallback = a.fallback ∧ ∃ strip n', (nestLayer front).result = .ok strip ∧
      Related TableRelation.sameShape Eq n n' ∧ (a.nest front (b.layer l)).result =
        .ok { n' with endpoints := n'.endpoints ++ [⟨Template.join front catchAll, route,
          .any fun _ => strip (l (.constant notFound))⟩] } := by
  obtain ⟨strip, n₁, hstrip, h₁, ⟨-, rfl⟩ | ⟨fallback, hfallback, -⟩⟩ := nest_eq_ok.1 h
  swap
  · rw [hnone] at hfallback
    cases hfallback
  have hkept : n.fallback = a.fallback := Build.foldlM_induction (P := fun r : Router σ => r.fallback = a.fallback) rfl
    (fun _ _ _ _ hb hstep => (fallback_route hstep).trans hb) h₁
  have hstep : ∀ (r r' : Router σ) (e e' : Endpoint σ) (r₁ : Router σ), Related TableRelation.sameShape Eq r r' →
      Endpoint.Related TableRelation.sameShape e e' →
      (r.route (Template.join front e.template) (e.table.layer strip)).result = .ok r₁ →
      ∃ r₁', (r'.route (Template.join front e'.template) (e'.table.layer strip)).result = .ok r₁' ∧
        Related TableRelation.sameShape Eq r₁ r₁' := by
    intro r r' e e' r₁ hP he hroute
    have htable : (e.table.layer strip).SameShape (e'.table.layer strip) := he.table.layer strip strip
    rw [he.template]
    exact hP.route (fun _ _ _ hQ hm => hQ.merge htable hm) (fun _ => htable) hroute
  obtain ⟨n', h₁', hrelated⟩ := Build.foldlM_lockstep hstep (related_layer b l) (related_self a) h₁
  have hlayered : (b.layer l).fallback = some (.any fun _ => l (.constant notFound)) := by
    rw [layer, hnone]
    rfl
  exact ⟨hkept, strip, n', hstrip, hrelated, nest_eq_ok.2 ⟨strip, n', hstrip, h₁',
    .inr ⟨_, hlayered, route_of_fresh (hrelated.templates ▸ hnew) hroute _⟩⟩⟩

/-- A layer gives a router a fallback, and the routers that take it in do as if it had been set. The router is merged
into another one: requests that no template matches go to the other one's fallback, but with the layer they are not
found, within the layer. It is nested behind a prefix: such requests behind the prefix go to the other one's fallback,
but with the layer they belong to the template of everything behind the prefix, whatever is done until the router
serves. They are not found, within the layer, unless a handler for their method is registered later under that very
template. -/
theorem Reachable.layer_adds_fallback {a b : Router σ} (ha : a.Reachable) (hb : b.Reachable) (hnone : b.fallback = none)
    (l : Layer) :
    (∀ m, (a.merge b).result = .ok m → ∃ m', (a.merge (b.layer l)).result = .ok m' ∧ m'.templates = m.templates ∧
      ∀ s request, (∀ t ∈ m.templates, ¬ Template.Matches t request.uri.path) →
        (m.withState s).serve request = (a.unmatched s request).after [.unmatched request.uri.path] ∧
        (m'.withState s).serve request =
          ((l (.constant notFound) request).map (MethodTable.finish request none)).after
            [.unmatched request.uri.path]) ∧
    (∀ front n request, (a.nest front b).result = .ok n → (∀ t ∈ n.templates, ¬ Template.Matches t request.uri.path) →
      Template.Matches (Template.join front catchAll) request.uri.path →
      (∀ s, (n.withState s).serve request = (a.unmatched s request).after [.unmatched request.uri.path]) ∧
      ∃ strip n', (nestLayer front).result = .ok strip ∧ (a.nest front (b.layer l)).result = .ok n' ∧
        n'.templates = n.templates ++ [Template.join front catchAll] ∧
        ∀ (c : Completion σ) (r : Router Unit), (c.run n').result = .ok r →
          ∃ e p, r.dispatch? request.uri.path = some (e, p) ∧ e.template = Template.join front catchAll ∧
            (e.table.handler? request.method = none → r.serve request =
              ((c.around .fallbacks (strip (l (.constant notFound))) (request.dispatchedBy e p)).map
                (MethodTable.finish request none)).after
                  [.matched request.uri.path (Template.join front catchAll)])) := by
  constructor
  · intro m hm
    have hwf : m.WellFormed := (grows_merge hb.wellFormed hm).wellFormed ha.wellFormed
    obtain ⟨hfallback, m', hrelated, hm'⟩ := merge_layer hnone hm l
    refine ⟨_, hm', hrelated.templates, fun s request hnomatch => ?_⟩
    have hdispatch := hwf.dispatch?_eq_none_iff.2 hnomatch
    have hdispatch' : ({ m' with fallback := some (.any fun _ => l (.constant notFound)) } : Router σ).dispatch?
        request.uri.path = none := hrelated.dispatch?_eq_none hdispatch
    rw [serve_withState_of_none hdispatch, serve_withState_of_none hdispatch', unmatched, unmatched,
      unmatched, hfallback]
    exact ⟨rfl, congrArg (Answer.after · _) (MethodTable.serve_any _ s request)⟩
  · rintro front n request hn hnomatch ⟨route, hroute, hexec⟩
    have hwf : n.WellFormed := (grows_nest hn).wellFormed ha.wellFormed
    -- If the template of everything behind the prefix were there, it would match.
    have hnew : Template.join front catchAll ∉ n.templates := fun hmem => hnomatch _ hmem ⟨route, hroute, hexec⟩
    have hdispatch := hwf.dispatch?_eq_none_iff.2 hnomatch
    obtain ⟨hfallback, strip, n', hstrip, hrelated, hn'⟩ := nest_layer hnone hn hroute hnew l
    obtain ⟨p, hp⟩ := Option.isSome_iff_exists.1 hexec
    refine ⟨fun s => ?_, strip, _, hstrip, hn', ?_, fun c r hrun => ?_⟩
    · rw [serve_withState_of_none hdispatch, unmatched, unmatched, hfallback]
    · rw [← hrelated.templates, templates, templates, List.map_append]
      rfl
    · let last : Endpoint σ := ⟨Template.join front catchAll, route, .any fun _ => strip (l (.constant notFound))⟩
      have hlast : ({ n' with endpoints := n'.endpoints ++ [last] } : Router σ).dispatch? request.uri.path =
        some (last, p) :=
        dispatch?_last (e := last) (hrelated.dispatch?_eq_none hdispatch) hp
      obtain ⟨e, he, ht, hserve⟩ := serve_run hrun hlast rfl rfl
      exact ⟨e, p, he, ht, hserve⟩

/-- A router with a fallback that is set. -/
theorem reachable_withFallback (h : Handler σ) : ((empty : Router σ).withFallback h).Reachable :=
  @BuiltBy.step _ _ _ _ (.fallback h) .empty trivial (List.forall_mem_nil _) rfl

/-- Behind a prefix, the layer is what answers, and a fallback that is set later does not. -/
theorem Reachable.layer_adds_fallback_nested : ∃ (a b n n' : Router Unit) (h : Handler Unit), b.fallback = none ∧
    (a.nest "/p".toList b).result = .ok n ∧ (a.nest "/p".toList (b.layer (.tagged "layer".toList))).result = .ok n' ∧
    ∃ request : Request, (n.serve request).response = .plain 203 [] ∧
      ((n'.withFallback h).serve request).response.status = 404 ∧
      ((n'.withFallback h).serve request).response.passages.map (·.tag) = ["layer".toList] := by
  let handler (status : Nat) : Handler Unit := fun _ => .constant (.plain status [])
  let request : Request := .new (.custom "PURGE".toList) ⟨none, none, "/p/c".toList, none⟩
  obtain ⟨route, hroute⟩ : ∃ route, Route.compile "/b".toList .strict = .ok route := ⟨_, rfl⟩
  obtain ⟨inner, hinner, hmiss⟩ : ∃ route, Route.compile "/p/b".toList .strict = .ok route ∧
      route.exec "/p/c".toList = none := ⟨_, rfl, rfl⟩
  have hcatch : Template.Matches (Template.join "/p".toList catchAll) "/p/c".toList := ⟨_, rfl, rfl⟩
  let a : Router Unit := empty.withFallback (handler 203)
  let b : Router Unit := ⟨[⟨"/b".toList, route, .on [.get] (handler 200)⟩], none⟩
  have hb : b.Reachable := reachable_route (route_of_fresh List.not_mem_nil hroute _)
  obtain ⟨n, hn, htemplates⟩ : ∃ n, (a.nest "/p".toList b).result = .ok n ∧
      n.templates = ["/p/b".toList] := ⟨_, rfl, rfl⟩
  have hnomatch : ∀ t ∈ n.templates, ¬ Template.Matches t request.uri.path := by
    rw [htemplates]
    refine List.forall_mem_singleton.2 ?_
    rintro ⟨route', hroute', hexec⟩
    cases hinner.symm.trans hroute'
    rw [show request.uri.path = "/p/c".toList from rfl, hmiss] at hexec
    cases hexec
  obtain ⟨hwithout, strip, n', hstrip, hn', -, hwith⟩ :=
    (Reachable.layer_adds_fallback (reachable_withFallback (handler 203)) hb rfl (.tagged "layer".toList)).2
      "/p".toList n request hn hnomatch hcatch
  obtain ⟨e, p, -, -, hserve⟩ := hwith ⟨[.fallback (handler 204)], (), []⟩ _ rfl
  have hwithout := hwithout ()
  have hserve := hserve rfl
  rw [withState_unit] at hwithout hserve
  obtain ⟨pattern, rfl⟩ : ∃ pattern, strip = Layer.stripping pattern := ⟨_, by cases hstrip; rfl⟩
  have hlayered : ∀ q, (Layer.stripping pattern (Layer.tagged "layer".toList (.constant notFound)) q).response =
      ⟨404, none, [], [⟨"layer".toList, (pattern.strip? q.uri).getD q.uri, q.matched.map (·.template)⟩]⟩ := by
    intro q
    unfold Layer.stripping
    cases pattern.strip? q.uri <;> rfl
  refine ⟨a, b, n, n', handler 204, rfl, hn, hn', request, ?_, ?_⟩
  · rw [hwithout]
    rfl
  · rw [hserve]
    exact ⟨congrArg Response.status (hlayered _), congrArg (·.passages.map (·.tag)) (hlayered _)⟩

/-- A layer around a merged router takes the requests that no template matches away from the fallback. -/
theorem Reachable.layer_replaces_fallback : ∃ (a b m m' : Router Unit) (request : Request), a.Reachable ∧ b.Reachable ∧
    b.fallback = none ∧ (a.merge b).result = .ok m ∧ (a.merge (b.layer (.tagged "layer".toList))).result = .ok m' ∧
    m.dispatch? request.uri.path = none ∧ (m.serve request).response = .plain 203 [] ∧
    (m'.serve request).response.status = 404 := by
  let handler (status : Nat) : Handler Unit := fun _ => .constant (.plain status [])
  let request : Request := .new (.verb .get) ⟨none, none, "/c".toList, none⟩
  obtain ⟨route, hroute, hmiss⟩ : ∃ route, Route.compile "/b".toList .strict = .ok route ∧
      route.exec "/c".toList = none := ⟨_, rfl, rfl⟩
  let b : Router Unit := ⟨[⟨"/b".toList, route, .on [.get] (handler 200)⟩], none⟩
  have hb : b.Reachable := reachable_route (route_of_fresh List.not_mem_nil hroute _)
  have hnone : ∀ table fallback,
      (⟨[⟨"/b".toList, route, table⟩], fallback⟩ : Router Unit).dispatch? request.uri.path = none :=
    fun table fallback => dispatch?_eq_none_iff.2 (List.forall_mem_singleton.2 hmiss)
  refine ⟨empty.withFallback (handler 203), b, _, _, request, reachable_withFallback _, hb, rfl, rfl, rfl,
    hnone _ _, ?_, ?_⟩
  · exact congrArg Answer.response (serve_of_fallback (hnone _ _) rfl)
  · exact congrArg (·.response.status) (serve_of_fallback (hnone _ _) rfl)

end Router

end PathRouter
