/-
A router nested behind a fixed prefix answers as it does mounted as a service. The layer that strips the
prefix makes the same request of both (`MethodTable.serve_layer`); the flattened endpoints match behind the
prefix what the endpoints of the router match alone (`Router.findSome?_behind`); and a table that is asked
within another one answers as it does alone (`MethodTable.map_serve`).
-/
import PathRouter.Proofs.Router.Dispatch
import PathRouter.Proofs.Template.Nest

namespace PathRouter

/-! ## Tables behind a layer -/

theorem Layer.stripping_eq {p : Pattern} {request : Request} {u : Uri} (h : p.strip? request.uri = some u)
    (s : Service) :
    Layer.stripping p s request = (s { request with uri := u }).after [.stripped request.uri.text u.text] := by
  unfold Layer.stripping
  rw [h]

theorem Answer.after_after (a : Answer) (events events' : List Event) :
    (a.after events).after events' = a.after (events' ++ events) := by
  simp [Answer.after]

theorem Answer.map_after (a : Answer) (events : List Event) (f : Response → Response) :
    (a.after events).map f = (a.map f).after events := rfl

namespace MethodTable

variable {σ : Type}

theorem handler?_layer (t : MethodTable σ) (l : Layer) (m : Method) :
    (t.layer l).handler? m = (t.handler? m).map fun h s => l (h s) := by
  unfold handler? layer mapHandlers
  split
  · exact Option.map_or.symm
  · rfl
  · rfl

/-- How a response leaves a table depends on the method only. -/
theorem finish_congr {request request' : Request} (h : request.method = request'.method) (allow : Option Text) :
    finish request allow = finish request' allow := by
  unfold finish Request.is
  rw [h]

/-- A response that has left a table leaves a table around it unchanged, if that names no methods. -/
theorem finish_finish (request : Request) (allow : Option Text) (r : Response) :
    finish request none (finish request allow r) = finish request allow r := by
  have hsuccess : (finish request allow r).isSuccess = r.isSuccess := by
    unfold finish
    split <;> rfl
  by_cases h : (request.is .connect && r.isSuccess) = true
  · rw [finish, hsuccess, if_pos h, finish, if_pos h]
  · rw [finish, hsuccess, if_neg h, finish, if_neg h]
    cases request.is .head <;> simp

/-- Behind a layer that passes on a request with the same method, a table gets that request. -/
theorem serve_layer_of {l : Layer} {request request' : Request} {events : List Event}
    (hl : ∀ inner : Service, l inner request = (inner request').after events)
    (hmethod : request'.method = request.method)
    (t : MethodTable σ) (s : σ) : (t.layer l).serve s request = (t.serve s request').after events := by
  have hfinish : ∀ allow, finish request allow = finish request' allow := finish_congr hmethod.symm
  unfold serve
  rw [handler?_layer, hmethod]
  cases t.handler? request.method with
  | some handler =>
    simp only [Option.map_some]
    rw [hl, hfinish]
    rfl
  | none =>
    simp only [Option.map_none]
    unfold layer mapHandlers
    cases hf : t.fallback with
    | standard service | custom handler =>
      simp only [Fallback.mapService, Fallback.service]
      rw [hl, hfinish]
      rfl

/-- Behind the layer that strips a prefix, a table gets the request with the prefix stripped. -/
theorem serve_layer {p : Pattern} {request : Request} {u : Uri} (h : p.strip? request.uri = some u) (t : MethodTable σ)
    (s : σ) : (t.layer (.stripping p)).serve s request =
      (t.serve s { request with uri := u }).after [.stripped request.uri.text u.text] :=
  @serve_layer_of _ (.stripping p) request { request with uri := u } _ (Layer.stripping_eq h) rfl t s

/-- A table answers the same within another one that names no methods. -/
theorem map_serve (t : MethodTable σ) (s : σ) {request request' : Request} (h : request.method = request'.method) :
    (t.serve s request).map (finish request' none) = t.serve s request := by
  rw [finish_congr h.symm none]
  unfold serve
  split <;> simp only [Answer.map, finish_finish]

end MethodTable

/-! ## Routers of plain templates -/

/-- A step that registers a plain template or changes the fallback, or takes in the endpoints of another router
as they are. -/
def Operation.Flat {σ : Type} : Operation σ → Prop
  | .route t _ | .routeService t _ => Template.Plain t
  | .merge _ | .fallback _ | .fallbackService _ => True
  | .nest _ _ | .nestService _ _ | .layer _ | .routeLayer _ => False

namespace Router

variable {σ : Type} {Q : Text → Prop}

theorem Changes.forall_templates {r r' : Router σ} (h : Changes (fun t _ => Q t) r r') (hr : ∀ t ∈ r.templates, Q t) :
    ∀ t ∈ r'.templates, Q t := by
  rw [templates_eq, List.forall_mem_map] at hr ⊢
  exact h.forall_registered hr

/-- Flat steps make routers of plain templates. -/
theorem BuiltBy.plain {r : Router σ} (h : BuiltBy Operation.Flat r) : ∀ t ∈ r.templates, Template.Plain t := by
  induction h with
  | empty => exact List.forall_mem_nil _
  | @step σ r r' op _ hflat _ hstep ih ihothers =>
    cases op with
    | route t table | routeService t service => exact (changes_route (fun _ _ => hflat) hstep).forall_templates ih
    | merge other =>
      have hother := List.forall_mem_map.1 (ihothers other (List.mem_singleton_self other))
      exact (changes_merge hother hstep).forall_templates ih
    | fallback handler | fallbackService service =>
      cases hstep
      exact ih
    | nest | nestService | layer | routeLayer => exact hflat.elim
  | withState s _ ih =>
    rw [templates_eq, registered_withState, ← templates_eq]
    exact ih

/-! ## Endpoints behind a prefix -/

/-- One endpoint is another one behind a prefix: it has the joined template with its route, and the table behind
the layer that strips the prefix. -/
structure Behind (front : Text) (strip : Layer) (e e' : Endpoint σ) : Prop where
  template : e'.template = Template.join front e.template
  compiled : Route.compile (Template.join front e.template) .strict = .ok e'.route
  table : e'.table = e.table.layer strip

theorem templates_behind {front : Text} {strip : Layer} {es es' : List (Endpoint σ)}
    (h : List.Forall₂ (Behind front strip) es es') :
    es'.map (·.template) = es.map fun e => Template.join front e.template := by
  induction h with
  | nil => rfl
  | cons he _ ih => rw [List.map_cons, List.map_cons, ih, he.template]

/-- Endpoints are all registered behind a prefix if the joined templates are new, are distinct and have routes. -/
theorem foldlM_behind {front : Text} {strip : Layer} : ∀ {es : List (Endpoint σ)} {r : Router σ},
    (∀ e ∈ es, Template.join front e.template ∉ r.templates) → (es.map fun e => Template.join front e.template).Nodup →
    (∀ e ∈ es, ∃ route, Route.compile (Template.join front e.template) .strict = .ok route) →
    ∃ es', List.Forall₂ (Behind front strip) es es' ∧
      (es.foldlM (fun (r : Router σ) (e : Endpoint σ) => r.route (Template.join front e.template) (e.table.layer strip))
        r).result = .ok { r with endpoints := r.endpoints ++ es' }
  | [], r, _, _, _ => ⟨[], .nil, by rw [List.append_nil]; rfl⟩
  | e :: es, r, hfresh, hnodup, hroutes => by
    obtain ⟨route, hroute⟩ := hroutes e List.mem_cons_self
    have hstep := route_of_fresh (hfresh e List.mem_cons_self) hroute (e.table.layer strip)
    rw [List.map_cons, List.nodup_cons] at hnodup
    let r₁ : Router σ := { r with endpoints :=
      r.endpoints ++ [⟨Template.join front e.template, route, e.table.layer strip⟩] }
    have hfresh₁ : ∀ e' ∈ es, Template.join front e'.template ∉ r₁.templates := by
      intro e' he' hmem
      rw [templates, List.map_append, List.map_singleton, List.mem_append, List.mem_singleton] at hmem
      rcases hmem with hmem | hmem
      · exact hfresh e' (List.mem_cons_of_mem e he') hmem
      · exact hnodup.1 (List.mem_map.2 ⟨e', he', hmem⟩)
    obtain ⟨es', hes', hfold⟩ := foldlM_behind hfresh₁ hnodup.2 fun e' he' => hroutes e' (List.mem_cons_of_mem e he')
    refine ⟨⟨Template.join front e.template, route, e.table.layer strip⟩ :: es', .cons ⟨rfl, hroute, rfl⟩ hes', ?_⟩
    rw [List.foldlM_cons]
    refine Build.result_bind_eq_ok.2 ⟨r₁, hstep, hfold.trans ?_⟩
    simp [r₁]

theorem nestLayer_eq_ok {front : Text} {strip : Layer} (h : (nestLayer front).result = .ok strip) :
    ∃ outer, Route.compile front .loose = .ok outer ∧ strip = .stripping outer.pattern := by
  unfold nestLayer at h
  split at h
  · cases h
  · split at h
    · cases h
    · obtain ⟨outer, houter, h⟩ := Build.result_bind_eq_ok.1 h
      cases h
      exact ⟨outer, Template.result_compile.1 houter, rfl⟩

/-! ## Serving behind a prefix -/

/-- The table that a request with a path goes to. -/
def table? (r : Router σ) (path : Text) : Option (MethodTable σ) :=
  match r.dispatch? path with
  | some (e, _) => some e.table
  | none => r.fallback

/-- A request that is dispatched to a table behind the layer that strips a prefix gets to the table without it. -/
theorem serve_stripping {r : Router Unit} {request : Request} {e : Endpoint Unit} {params : Params}
    {table : MethodTable Unit}
    {p : Pattern} {u : Uri} (h : r.dispatch? request.uri.path = some (e, params))
    (htable : e.table = table.layer (.stripping p))
    (hstrip : p.strip? request.uri = some u) : r.serve request =
      (table.serve () ⟨request.method, u, some params.decode, some ⟨e.template, e.route.keys⟩⟩).after
        [.matched request.uri.path e.template, .stripped request.uri.text u.text] := by
  have hlayer := MethodTable.serve_layer
    (show p.strip? (Request.mk request.method request.uri (some params.decode) (some ⟨e.template, e.route.keys⟩)).uri =
      some u
      from hstrip) table ()
  rw [serve_of_dispatch h, htable, hlayer, Answer.after_after]
  rfl

/-- A request that is dispatched to a router behind the layer that strips a prefix is answered as the router answers
without it. -/
theorem serve_mounted {r inner : Router Unit} {request : Request} {e : Endpoint Unit} {params : Params} {p : Pattern}
    {u : Uri}
    (h : r.dispatch? request.uri.path = some (e, params))
    (htable : e.table = (MethodTable.any fun _ => inner.serve).layer (.stripping p))
    (hstrip : p.strip? request.uri = some u)
    {table : MethodTable Unit} {request' : Request} {events : List Event}
    (hinner : inner.serve ⟨request.method, u, some params.decode, some ⟨e.template, e.route.keys⟩⟩ =
      (table.serve () request').after events) (hmethod : request'.method = request.method) :
    r.serve request = (table.serve () request').after
      ([.matched request.uri.path e.template, .stripped request.uri.text u.text] ++ events) := by
  have hmap := MethodTable.map_serve table ()
    (show request'.method = (Request.mk request.method u (some params.decode) (some ⟨e.template, e.route.keys⟩)).method
      from hmethod)
  rw [serve_stripping h htable hstrip, MethodTable.serve_any, hinner, Answer.map_after, hmap, Answer.after_after]

/-- Endpoints behind a prefix match what they match without it, in the same order. -/
theorem findSome?_behind {front : Text} {strip : Layer} {path rest : Text} {es es' : List (Endpoint σ)}
    (h : List.Forall₂ (Behind front strip) es es')
    (hexec : ∀ e ∈ es, ∀ e', Behind front strip e e' → e'.route.exec path = e.route.exec rest) :
    ((es.findSome? fun e => (e.route.exec rest).map fun p => (e, p)) = none ∧
      (es'.findSome? fun e => (e.route.exec path).map fun p => (e, p)) = none) ∨
    ∃ e e' p, (es.findSome? fun e => (e.route.exec rest).map fun p => (e, p)) = some (e, p) ∧
      (es'.findSome? fun e => (e.route.exec path).map fun p => (e, p)) = some (e', p) ∧ Behind front strip e e' := by
  induction h with
  | nil => exact .inl ⟨rfl, rfl⟩
  | @cons e e' es es' he _ ih =>
    rw [List.findSome?_cons, List.findSome?_cons, hexec e List.mem_cons_self e' he]
    cases e.route.exec rest with
    | none => exact ih fun e₁ h₁ => hexec e₁ (List.mem_cons_of_mem e h₁)
    | some p => exact .inr ⟨e, e', p, rfl, rfl, he⟩

theorem segments_catchAll : Template.segments catchAll = [.wildcard true] := by decide

theorem plain_catchAll : Template.Plain catchAll := by
  unfold Template.Plain
  rw [segments_catchAll]
  exact List.forall_mem_singleton.2 trivial

/-- The template of everything matches what has no line feed. -/
theorem exec_catchAll {route : Route} (h : Route.compile catchAll .strict = .ok route) {rest : Text}
    (hrest : '\n' ∉ rest) :
    ∃ p, route.exec ('/' :: rest) = some p := by
  have hfits : Template.Fits .strict (Template.segments catchAll) [some rest] ('/' :: rest) := by
    rw [segments_catchAll]
    refine ⟨'/' :: rest, [], (List.append_nil _).symm, ?_, rfl⟩
    have htakes := Template.Takes.cons (Segment.Takes.wild (o := true) hrest) .nil
    rwa [List.append_nil, List.append_nil] at htakes
  obtain ⟨k, hmem, hends⟩ := (Template.exists_mem_spread plain_catchAll).2 hfits
  obtain ⟨x, hx⟩ := Option.isSome_iff_exists.1
    ((List.find?_isSome (p := fun x => Template.Mode.strict.ends (('/' :: rest).drop x.2))).2 ⟨_, hmem, hends⟩)
  rw [Template.exec_params plain_catchAll h, hx]
  exact ⟨_, rfl⟩

/-! ## Flattened routers and mounted ones -/

/-- The router that has a service mounted behind a prefix. -/
theorem mounted_eq_ok {r : Router σ} {front : Text} {s : Service} :
    (empty.nestService front s).result = .ok r ↔ ∃ strip route, (nestLayer front).result = .ok strip ∧
      Route.compile (Template.join front catchAll) .strict = .ok route ∧
      r = ⟨[⟨Template.join front catchAll, route, (MethodTable.any fun _ => s).layer strip⟩], none⟩ := by
  rw [nestService_eq_ok]
  constructor
  · rintro ⟨strip, hstrip, h⟩
    rcases route_eq_ok.1 h with ⟨hmem, -⟩ | ⟨-, route, hroute, rfl⟩
    · exact absurd hmem List.not_mem_nil
    · exact ⟨strip, route, hstrip, hroute, rfl⟩
  · rintro ⟨strip, route, hstrip, hroute, rfl⟩
    exact ⟨strip, hstrip, route_of_fresh List.not_mem_nil hroute _⟩

/-- A router with a fallback is nested if it can be mounted as a service, the joined templates are distinct and
they have routes. -/
theorem exists_nested {inner : Router σ} {front : Text} {fallback : MethodTable σ}
    (hfallback : inner.fallback = some fallback)
    {catchRoute : Route} {strip : Layer} (hstrip : (nestLayer front).result = .ok strip)
    (hcatch : Route.compile (Template.join front catchAll) .strict = .ok catchRoute)
    (hdistinct : ((inner.templates ++ [catchAll]).map (Template.join front)).Nodup)
    (hroutes : ∀ t ∈ inner.templates, ∃ route, Route.compile (Template.join front t) .strict = .ok route) :
    ∃ es, List.Forall₂ (Behind front strip) inner.endpoints es ∧ (empty.nest front inner).result =
      .ok ⟨es ++ [⟨Template.join front catchAll, catchRoute, fallback.layer strip⟩], none⟩ := by
  rw [List.map_append, List.nodup_append] at hdistinct
  obtain ⟨hnodup, -, hcatchAll⟩ := hdistinct
  rw [templates, List.map_map] at hnodup
  have hnew : ∀ e ∈ inner.endpoints, Template.join front e.template ∉ (empty : Router σ).templates :=
    fun e _ => List.not_mem_nil
  obtain ⟨es, hes, hfold⟩ := foldlM_behind hnew hnodup fun e he => hroutes _ (List.mem_map_of_mem he)
  refine ⟨es, hes, nest_eq_ok.2 ⟨strip, _, hstrip, hfold, .inr ⟨fallback, hfallback, ?_⟩⟩⟩
  refine route_of_fresh (fun hmem => ?_) hcatch _
  have hmem : Template.join front catchAll ∈ es.map (·.template) := hmem
  rw [templates_behind hes] at hmem
  exact hcatchAll _ (by rw [templates, List.map_map]; exact hmem) _ List.mem_cons_self rfl

/-- A router that is mounted as a service, and its endpoints behind a prefix with its fallback last: both answer a
request behind the prefix, up to what they report, by the same table of the router alone. -/
theorem serve_mounted_nested {inner : Router Unit} {fallback : MethodTable Unit}
    (hfallback : inner.fallback = some fallback)
    {front t : Text} {route : Route} {p : Pattern} {es : List (Endpoint Unit)}
    (hes : List.Forall₂ (Behind front (.stripping p)) inner.endpoints es) {request : Request} {rest : Text}
    {params : Params}
    (hstripped : p.strip? request.uri = some { request.uri with path := rest })
    (hexec : ∀ e ∈ inner.endpoints, ∀ e', Behind front (.stripping p) e e' →
      e'.route.exec request.uri.path = e.route.exec rest)
    (hroute : route.exec request.uri.path = some params) :
    ∃ table recorded matched matched' events events', inner.table? rest = some table ∧
      (⟨[⟨t, route, (MethodTable.any fun _ => inner.serve).layer (.stripping p)⟩], none⟩ : Router Unit).serve request =
        (table.serve () ⟨request.method, { request.uri with path := rest }, some recorded, some matched⟩).after events ∧
      (⟨es ++ [⟨t, route, fallback.layer (.stripping p)⟩], none⟩ : Router Unit).serve request =
        (table.serve () ⟨request.method, { request.uri with path := rest }, some recorded, some matched'⟩).after
          events' := by
  have hmounted : (⟨[⟨t, route, (MethodTable.any fun _ => inner.serve).layer (.stripping p)⟩],
      none⟩ : Router Unit).dispatch?
      request.uri.path = some (_, params) := @dispatch?_last _ [] _ _ _ _ rfl hroute
  rcases findSome?_behind hes hexec with ⟨hinnerNone, hnestedNone⟩ | ⟨e, e', params', hinnerSome, hnestedSome, hbehind⟩
  · have hinner : inner.dispatch? rest = none := hinnerNone
    have htable : inner.table? rest = some fallback := by
      unfold table?
      rw [hinner]
      exact hfallback
    have hnested : (⟨es ++ [⟨t, route, fallback.layer (.stripping p)⟩], none⟩ : Router Unit).dispatch?
        request.uri.path =
        some (_, params) := dispatch?_last hnestedNone hroute
    have hserve := serve_mounted hmounted rfl hstripped (serve_of_fallback hinner hfallback) rfl
    exact ⟨fallback, _, _, _, _, _, htable, hserve, serve_stripping hnested rfl hstripped⟩
  · have hinner : inner.dispatch? rest = some (e, params') := hinnerSome
    have htable : inner.table? rest = some e.table := by
      unfold table?
      rw [hinner]
    have hserve := serve_mounted hmounted rfl hstripped (serve_of_dispatch hinner) rfl
    exact ⟨e.table, _, _, _, _, _, htable, hserve,
      serve_stripping (dispatch?_first hnestedSome) hbehind.table hstripped⟩

/-! ## Routers with few endpoints -/

/-- The router with one more endpoint. -/
def adding (r : Router σ) (t : Text) (route : Route) (table : MethodTable σ) : Router σ :=
  { r with endpoints := r.endpoints ++ [⟨t, route, table⟩] }

theorem BuiltBy.adding {r : Router σ} (hr : BuiltBy Operation.Flat r) {t : Text} (hfresh : t ∉ r.templates)
    (ht : Template.Plain t) {route : Route} (hroute : Route.compile t .strict = .ok route) (table : MethodTable σ) :
    BuiltBy Operation.Flat (r.adding t route table) :=
  @BuiltBy.step _ _ _ _ (.route t table) hr ht (List.forall_mem_nil _) (route_of_fresh hfresh hroute table)

theorem BuiltBy.withFallback {r : Router σ} (hr : BuiltBy Operation.Flat r) (h : Handler σ) :
    BuiltBy Operation.Flat (r.withFallback h) :=
  @BuiltBy.step _ _ _ _ (.fallback h) hr trivial (List.forall_mem_nil _) rfl

theorem plain_of_literal {t : Text} (text : Text) (h : Template.segments t = [.literal text]) (htext : PlainText text) :
    Template.Plain t := by
  unfold Template.Plain
  rw [h]
  exact List.forall_mem_singleton.2 htext

theorem fixed_of_literal {t : Text} (text : Text) (h : Template.segments t = [.literal text]) (htext : PlainText text) :
    ∀ s ∈ Template.segments t, s.Fixed := by
  rw [h]
  exact List.forall_mem_singleton.2 htext

/-- Two templates with one meaning behind a prefix are registered as one, and then a method can have two handlers. -/
theorem nest_overlap : ∃ (front : Text) (inner mounted : Router Unit), Template.Tidy front ∧
    (∀ s ∈ Template.segments front, s.Fixed) ∧ BuiltBy Operation.Flat inner ∧ inner.fallback.isSome = true ∧
    (empty.nestService front inner.serve).result = .ok mounted ∧
    (empty.nest front inner).result = .error (.overlap .get) := by
  have hfixed := fixed_of_literal "p".toList (show Template.segments "/p".toList = _ by decide) (by decide)
  have hslash : Template.Plain "/a".toList := plain_of_literal "a".toList (by decide) (by decide)
  have hbare : Template.Plain "a".toList := plain_of_literal "a".toList (by decide) (by decide)
  let handler : Handler Unit := fun _ => .constant (.plain 200 [])
  have hone := BuiltBy.empty.adding List.not_mem_nil hslash (show Route.compile _ _ = .ok _ from rfl)
    (.on [.get] handler)
  have htwo := hone.adding (by decide) hbare (show Route.compile _ _ = .ok _ from rfl) (.on [.get] handler)
  exact ⟨"/p".toList, _, _, ⟨rfl, by simp [List.infix_cons_iff], by decide⟩, hfixed,
    htwo.withFallback handler, rfl, rfl, rfl⟩

theorem result_compile_of_error {t : Text} {mode : Template.Mode} {e : InvalidPattern}
    (h : Route.compile t mode = .error e) :
    (Template.compile t mode).result = .error (.invalidTemplate t) := by
  unfold Template.compile
  rw [Build.result_report_bind, h]
  rfl

theorem route_of_error {r : Router σ} {t : Text} {e : InvalidPattern} (ht : t ∉ r.templates)
    (hroute : Route.compile t .strict = .error e) (table : MethodTable σ) :
    (r.route t table).result = .error (.invalidTemplate t) := by
  unfold Router.route
  rw [if_neg (mt hasTemplate_iff.1 ht)]
  exact Build.result_bind_of_error (result_compile_of_error hroute) _

/-- A joined template can be too large for a route although the prefix and the template alone are not. -/
theorem nest_tooLarge {front : Text} (hplain : Template.Plain front) (hroot : isRoot front = false)
    (hwild : hasWildcard front = false) (hle : Template.leastSize front .strict + 240 ≤ Regex.maxSize)
    (hlt : Regex.maxSize < 2 * Template.leastSize front .strict - 296) :
    ∃ inner mounted : Router Unit, BuiltBy Operation.Flat inner ∧ inner.fallback.isSome = true ∧
      (empty.nestService front inner.serve).result = .ok mounted ∧
      (empty.nest front inner).result = .error (.invalidTemplate (Template.join front front)) := by
  have hcatchPlain : Template.Plain (Template.join front catchAll) :=
    Template.forall_segment_join trivial hplain plain_catchAll
  have hcatchSize : Template.leastSize (Template.join front catchAll) .strict + 296 =
      Template.leastSize front .strict + 536 :=
    Template.leastSize_join front catchAll
  have hjoinSize := Template.leastSize_join front front
  obtain ⟨route, hroute⟩ : ∃ route, Route.compile front .strict = .ok route := Template.exists_compile hplain (by omega)
  obtain ⟨outer, houter⟩ : ∃ outer, Route.compile front .loose = .ok outer :=
    Template.exists_compile hplain (by rw [Template.leastSize_loose]; omega)
  obtain ⟨catchRoute, hcatch⟩ : ∃ catchRoute, Route.compile (Template.join front catchAll) .strict = .ok catchRoute :=
    Template.exists_compile hcatchPlain (by omega)
  obtain ⟨e, hjoined⟩ : ∃ e, Route.compile (Template.join front front) .strict = .error e :=
    ⟨_, (Template.compile_eq (Template.forall_segment_join trivial hplain hplain) .strict).trans (if_pos (by omega))⟩
  have hstrip : (nestLayer front).result = .ok (.stripping outer.pattern) := by
    unfold nestLayer
    rw [hroot, hwild, if_neg Bool.false_ne_true, if_neg Bool.false_ne_true]
    exact Build.result_bind_eq_ok.2 ⟨outer, Template.result_compile.2 houter, rfl⟩
  let handler : Handler Unit := fun _ => .constant (.plain 200 [])
  have hinner := (BuiltBy.empty.adding List.not_mem_nil hplain hroute (.on [.get] handler)).withFallback handler
  refine ⟨_, _, hinner, rfl, mounted_eq_ok.2 ⟨_, _, hstrip, hcatch, rfl⟩, ?_⟩
  have hnew : Template.join front front ∉ (empty : Router Unit).templates := List.not_mem_nil
  have hstep := route_of_error hnew hjoined ((MethodTable.on [.get] handler).layer (.stripping outer.pattern))
  unfold nest
  rw [Build.result_bind_of_ok hstrip, Build.result_report_bind]
  exact Build.result_bind_of_error (Build.result_bind_of_error hstep _) _

/-- A prefix of one long segment, which is half as large as a template can be. -/
theorem nest_replicate {c : Char} (hc : c ≠ '/' ∧ c ≠ '*' ∧ c ≠ ':') (hm : c ∉ Regex.metaChars) {n : Nat}
    (hle : 32 * n + 600 ≤ Regex.maxSize) (hlt : Regex.maxSize < 64 * n + 424) :
    ∃ (front : Text) (inner mounted : Router Unit), Template.Tidy front ∧ (∀ s ∈ Template.segments front, s.Fixed) ∧
      BuiltBy Operation.Flat inner ∧ inner.fallback.isSome = true ∧
      (empty.nestService front inner.serve).result = .ok mounted ∧
      (empty.nest front inner).result = .error (.invalidTemplate (Template.join front front)) := by
  have hsegments := Template.segments_replicate hc n
  have hplain := Template.plain_replicate hc hm n
  have hsize := Template.leastSize_replicate hc n
  have hroot : isRoot ('/' :: List.replicate (n + 1) c) = false := by
    rw [isRoot, List.replicate_succ, List.all_cons, List.all_cons, beq_eq_false_iff_ne.2 hc.1]
    rfl
  have hwild : hasWildcard ('/' :: List.replicate (n + 1) c) = false := by
    rw [hasWildcard, hsegments]
    rfl
  have hfixed : ∀ s ∈ Template.segments ('/' :: List.replicate (n + 1) c), s.Fixed :=
    fixed_of_literal _ hsegments fun d hd => by
      rw [(List.mem_replicate.1 hd).2]
      exact hm
  obtain ⟨inner, mounted, h⟩ := nest_tooLarge hplain hroot hwild (by omega) (by omega)
  exact ⟨_, inner, mounted, Template.tidy_replicate hc.1 n, hfixed, h⟩

/-! ## Nested routers answer like mounted ones -/

/-- A router nested behind a prefix answers as it does mounted there as a service. The router is made by flat steps and
has a fallback, and the prefix is tidy and fixed. If it can be mounted, the joined templates are distinct and they have
routes, then it can be nested. Both answer a request behind the prefix, up to what they report, by the same table of
the router alone: that of its first endpoint that matches the path without the prefix, or its fallback. The table gets
the request with the same URI and the same parameters. -/
theorem nest_serve {inner : Router Unit} (hinner : BuiltBy Operation.Flat inner)
    (hfallback : inner.fallback.isSome = true)
    {front : Text} (htidy : Template.Tidy front) (hfixed : ∀ s ∈ Template.segments front, s.Fixed)
    (hdistinct : ((inner.templates ++ [catchAll]).map (Template.join front)).Nodup)
    (hroutes : ∀ t ∈ inner.templates, ∃ route, Route.compile (Template.join front t) .strict = .ok route)
    {mounted : Router Unit} (hmounted : (empty.nestService front inner.serve).result = .ok mounted) :
    ∃ nested, (empty.nest front inner).result = .ok nested ∧
      ∀ (request : Request) (rest : Text), request.uri.WellFormed →
      request.uri.path = front ++ '/' :: rest → '\n' ∉ rest →
        ∃ table recorded matched matched' events events', inner.table? ('/' :: rest) = some table ∧
          mounted.serve request = (table.serve ()
            ⟨request.method, { request.uri with path := '/' :: rest }, some recorded, some matched⟩).after events ∧
          nested.serve request = (table.serve ()
            ⟨request.method, { request.uri with path := '/' :: rest }, some recorded, some matched'⟩).after
              events' := by
  obtain ⟨fallback, hfallback⟩ := Option.isSome_iff_exists.1 hfallback
  obtain ⟨strip, catchRoute, hstrip, hcatch, rfl⟩ := mounted_eq_ok.1 hmounted
  obtain ⟨outer, houter, rfl⟩ := nestLayer_eq_ok hstrip
  obtain ⟨es, hes, hnested⟩ := exists_nested hfallback hstrip hcatch hdistinct hroutes
  refine ⟨_, hnested, fun request rest hwf hpath hrest => ?_⟩
  have hstripped := Template.strip?_fixed htidy hfixed houter hwf hpath
  -- Behind the prefix, the template of everything matches what it matches alone, which is everything.
  obtain ⟨catchInner, hcatchInner⟩ : ∃ route, Route.compile catchAll .strict = .ok route :=
    Template.exists_compile plain_catchAll (by decide)
  obtain ⟨params, hparams⟩ := exec_catchAll hcatchInner hrest
  have hcatchExec : catchRoute.exec request.uri.path = some params := by
    rw [hpath, Template.exec_join_fixed htidy hfixed plain_catchAll hcatch hcatchInner, hparams]
  have hexec : ∀ e ∈ inner.endpoints, ∀ e', Behind front (.stripping outer.pattern) e e' →
      e'.route.exec request.uri.path = e.route.exec ('/' :: rest) := by
    intro e he e' hbehind
    rw [hpath]
    exact Template.exec_join_fixed htidy hfixed (hinner.plain _ (List.mem_map_of_mem he)) hbehind.compiled
      (hinner.wellFormed.compiled _ (List.mem_map_of_mem he)) rest
  exact serve_mounted_nested hfallback hes hstripped hexec hcatchExec

/-- A router of one endpoint is nested and mounted alike. -/
theorem nest_serve_item : ∃ inner mounted nested : Router Unit,
    (empty.nestService "/p".toList inner.serve).result = .ok mounted ∧
    (empty.nest "/p".toList inner).result = .ok nested ∧
    ∃ table recorded matched matched' events events', inner.table? "/7".toList = some table ∧
      mounted.serve (.new (.verb .get) ⟨none, none, "/p/7".toList, none⟩) =
        (table.serve () ⟨.verb .get, ⟨none, none, "/7".toList, none⟩, some recorded, some matched⟩).after events ∧
      nested.serve (.new (.verb .get) ⟨none, none, "/p/7".toList, none⟩) =
        (table.serve () ⟨.verb .get, ⟨none, none, "/7".toList, none⟩, some recorded, some matched'⟩).after events' := by
  have hid : Template.Plain "/:id".toList := by
    unfold Template.Plain
    rw [show Template.segments "/:id".toList = [.param ⟨"id".toList, false, none, none⟩] by decide]
    exact List.forall_mem_singleton.2 ⟨rfl, fun s hs => (by cases hs)⟩
  obtain ⟨route, hroute⟩ : ∃ route, Route.compile "/:id".toList .strict = .ok route := ⟨_, rfl⟩
  obtain ⟨joined, hjoined⟩ : ∃ joined, Route.compile "/p/:id".toList .strict = .ok joined := ⟨_, rfl⟩
  let handler : Handler Unit := fun _ => .constant (.plain 200 [])
  have hinner := (BuiltBy.empty.adding List.not_mem_nil hid hroute (.on [.get] handler)).withFallback handler
  have hfixed := fixed_of_literal "p".toList (show Template.segments "/p".toList = _ by decide) (by decide)
  have hroutes : ∀ t ∈ ["/:id".toList], ∃ route, Route.compile (Template.join "/p".toList t) .strict = .ok route :=
    List.forall_mem_singleton.2 ⟨joined, hjoined⟩
  have hdistinct : ((["/:id".toList] ++ [catchAll]).map (Template.join "/p".toList)).Nodup := by decide
  obtain ⟨nested, hnested, h⟩ := nest_serve hinner rfl ⟨rfl, by simp [List.infix_cons_iff], by decide⟩ hfixed hdistinct
    hroutes rfl
  exact ⟨_, _, nested, rfl, hnested, h (.new (.verb .get) ⟨none, none, "/p/7".toList, none⟩) ['7']
    (Uri.wellFormed_of_place (.inr rfl)) rfl (by decide)⟩

/-- What can be mounted as a service need not be one that can be nested: neither if templates are the same behind the
prefix, nor if one is too large there. -/
theorem nest_fails :
    (∃ (front : Text) (inner mounted : Router Unit), Template.Tidy front ∧ (∀ s ∈ Template.segments front, s.Fixed) ∧
      BuiltBy Operation.Flat inner ∧ inner.fallback.isSome = true ∧
      (empty.nestService front inner.serve).result = .ok mounted ∧
      (empty.nest front inner).result = .error (.overlap .get)) ∧
    ∃ (front : Text) (inner mounted : Router Unit), Template.Tidy front ∧ (∀ s ∈ Template.segments front, s.Fixed) ∧
      BuiltBy Operation.Flat inner ∧ inner.fallback.isSome = true ∧
      (empty.nestService front inner.serve).result = .ok mounted ∧
      (empty.nest front inner).result = .error (.invalidTemplate (Template.join front front)) :=
  ⟨nest_overlap, nest_replicate (c := '1') (n := 199999) (by decide) (by decide) (by decide) (by decide)⟩

end Router

end PathRouter
