/-
Where a router sends a request: to the endpoint of the first template that matches the path
(`Router.WellFormed.first_of_dispatch`), with the parameters and the template recorded, or to the fallback
if no template matches (`Router.WellFormed.dispatch?_eq_none_iff`). What a state is given to sends requests
as it did before, and its tables answer with that state (`Router.serve_withState`).
-/
import PathRouter.Proofs.Router.Reachable

namespace PathRouter

/-- The strict route of a template matches a path. -/
def Template.Matches (t path : Text) : Prop :=
  ∃ route, Route.compile t .strict = .ok route ∧ (route.exec path).isSome = true

/-- A request as the table of an endpoint gets it, with what the dispatch records. -/
def Request.dispatchedBy {σ : Type} (request : Request) (e : Endpoint σ) (p : Params) : Request :=
  { request with
    recorded := some p.decode
    matched := some ⟨e.template, e.route.keys⟩ }

/-! ## Tables -/

namespace MethodTable

variable {σ : Type}

theorem handler?_withState (t : MethodTable σ) (s : σ) (m : Method) :
    (t.withState s).handler? m = (t.handler? m).map fun h _ => h s := by
  unfold handler? withState
  split
  · exact Option.map_or.symm
  · rfl
  · rfl

/-- A table that has got its state answers as it does with the state. -/
theorem serve_withState (t : MethodTable σ) (s : σ) : (t.withState s).serve () = t.serve s := by
  funext request
  unfold serve
  rw [handler?_withState]
  cases t.handler? request.method with
  | some h => rfl
  | none =>
    unfold withState
    cases t.fallback <;> rfl

theorem serve_any (h : Handler σ) (s : σ) (request : Request) :
    (any h).serve s request = (h s request).map (finish request none) := by
  have hnone : (any h).handler? request.method = none := by
    unfold handler? any
    split <;> rfl
  unfold serve
  rw [hnone]
  rfl

end MethodTable

namespace Router

variable {σ : Type} {r : Router σ} {path : Text}

/-! ## The first template that matches -/

/-- Of the templates of a router, in the order of their registration, the given one is the first that matches the
path. -/
def First (r : Router σ) (path t : Text) : Prop :=
  ∃ before behind, r.templates = before ++ t :: behind ∧ Template.Matches t path ∧ ∀ t' ∈ before,
  ¬ Template.Matches t' path

theorem dispatch?_eq_some_iff {e : Endpoint σ} {p : Params} : r.dispatch? path = some (e, p) ↔
    ∃ before behind, r.endpoints = before ++ e :: behind ∧ e.route.exec path = some p ∧
      ∀ e' ∈ before, e'.route.exec path = none := by
  rw [dispatch?, List.findSome?_eq_some_iff]
  constructor
  · rintro ⟨before, e', behind, hsplit, hexec, hnone⟩
    obtain ⟨p', hp, he⟩ := Option.map_eq_some_iff.1 hexec
    cases he
    exact ⟨before, behind, hsplit, hp, fun e' he' => Option.map_eq_none_iff.1 (hnone e' he')⟩
  · rintro ⟨before, behind, hsplit, hexec, hnone⟩
    refine ⟨before, e, behind, hsplit, by rw [hexec]; rfl, fun e' he' => ?_⟩
    rw [hnone e' he']
    rfl

theorem mem_of_dispatch? {e : Endpoint σ} {p : Params} (h : r.dispatch? path = some (e, p)) : e ∈ r.endpoints := by
  obtain ⟨before, behind, hsplit, -⟩ := dispatch?_eq_some_iff.1 h
  rw [hsplit]
  exact List.mem_append_right _ List.mem_cons_self

theorem dispatch?_eq_none_iff : r.dispatch? path = none ↔ ∀ e ∈ r.endpoints, e.route.exec path = none := by
  simp only [dispatch?, List.findSome?_eq_none_iff, Option.map_eq_none_iff]

namespace WellFormed

theorem exec_iff (hr : r.WellFormed) {e : Endpoint σ} (he : e ∈ r.endpoints) :
    (e.route.exec path).isSome = true ↔ Template.Matches e.template path := by
  have hcompiled : Route.compile e.template .strict = .ok e.route := hr.compiled _ (List.mem_map_of_mem he)
  constructor
  · exact fun h => ⟨e.route, hcompiled, h⟩
  · rintro ⟨route, hroute, h⟩
    cases hcompiled.symm.trans hroute
    exact h

/-- A request is dispatched to the endpoint of the first template that matches its path. -/
theorem first_of_dispatch (hr : r.WellFormed) {e : Endpoint σ} {p : Params} (h : r.dispatch? path = some (e, p)) :
    r.First path e.template := by
  obtain ⟨before, behind, hsplit, hexec, hnone⟩ := dispatch?_eq_some_iff.1 h
  refine ⟨before.map (·.template), behind.map (·.template), ?_, ?_, ?_⟩
  · rw [templates, hsplit, List.map_append, List.map_cons]
  · have he : e ∈ r.endpoints := by rw [hsplit]; exact List.mem_append_right _ List.mem_cons_self
    exact (hr.exec_iff he).1 (by rw [hexec]; rfl)
  · intro t' ht' hmatches
    obtain ⟨e', he', rfl⟩ := List.mem_map.1 ht'
    have hexec' := (hr.exec_iff (by rw [hsplit]; exact List.mem_append_left _ he')).2 hmatches
    rw [hnone e' he'] at hexec'
    cases hexec'

/-- A request is dispatched to no endpoint if no template matches its path. -/
theorem dispatch?_eq_none_iff (hr : r.WellFormed) :
    r.dispatch? path = none ↔ ∀ t ∈ r.templates, ¬ Template.Matches t path := by
  rw [Router.dispatch?_eq_none_iff]
  constructor
  · intro h t ht hmatches
    obtain ⟨e, he, rfl⟩ := List.mem_map.1 ht
    have hexec := (hr.exec_iff he).2 hmatches
    rw [h e he] at hexec
    cases hexec
  · intro h e he
    rw [← Option.not_isSome_iff_eq_none, hr.exec_iff he]
    exact h _ (List.mem_map_of_mem he)

theorem exists_dispatch (hr : r.WellFormed) (h : ∃ t ∈ r.templates, Template.Matches t path) :
    ∃ e p, r.dispatch? path = some (e, p) := by
  obtain ⟨t, ht, hmatches⟩ := h
  obtain ⟨⟨e, p⟩, he⟩ := Option.ne_none_iff_exists'.1 fun hnone => hr.dispatch?_eq_none_iff.1 hnone t ht hmatches
  exact ⟨e, p, he⟩

end WellFormed

/-! ## Answers -/

theorem serve_of_dispatch {r : Router Unit} {request : Request} {e : Endpoint Unit} {p : Params}
    (h : r.dispatch? request.uri.path = some (e, p)) : r.serve request =
      (e.table.serve () { request with recorded := some p.decode, matched := some ⟨e.template, e.route.keys⟩ }).after
        [.matched request.uri.path e.template] := by
  unfold serve
  dsimp only
  rw [h]

theorem serve_of_fallback {r : Router Unit} {request : Request} {table : MethodTable Unit}
    (h : r.dispatch? request.uri.path = none) (hf : r.fallback = some table) :
    r.serve request = (table.serve () request).after [.unmatched request.uri.path] := by
  unfold serve
  dsimp only
  rw [h, hf]

/-- The service for requests that no template matches: the fallback, or the one that finds nothing. -/
def unmatched (r : Router σ) (s : σ) : Service :=
  match r.fallback with
  | some table => table.serve s
  | none => .constant notFound

/-- What is done to the tables does not change where requests go. -/
theorem dispatch?_mapTable {τ : Type} (r : Router σ) (f : MethodTable σ → MethodTable τ)
    (fallback : Option (MethodTable τ))
    (path : Text) : (⟨r.endpoints.map (·.mapTable f), fallback⟩ : Router τ).dispatch? path =
      (r.dispatch? path).map fun (e, p) => (e.mapTable f, p) := by
  unfold dispatch?
  rw [List.findSome?_map, List.map_findSome?]
  congr 1
  funext e
  cases h : e.route.exec path <;> simp [Endpoint.mapTable, h]

theorem dispatch?_withState (r : Router σ) (s : σ) (path : Text) : (r.withState s).dispatch? path =
    (r.dispatch? path).map fun (e, p) => (e.mapTable (·.withState s), p) :=
  r.dispatch?_mapTable _ _ path

/-- The endpoint that a request is dispatched to answers it by its table, with the state. -/
theorem serve_withState {request : Request} {e : Endpoint σ} {p : Params}
    (h : r.dispatch? request.uri.path = some (e, p))
    (s : σ) : (r.withState s).serve request =
      (e.table.serve s (request.dispatchedBy e p)).after [.matched request.uri.path e.template] := by
  have hdispatch : (r.withState s).dispatch? request.uri.path = some (e.mapTable (·.withState s), p) := by
    rw [dispatch?_withState, h]
    rfl
  rw [serve_of_dispatch hdispatch]
  show ((e.table.withState s).serve () (request.dispatchedBy e p)).after _ = _
  rw [MethodTable.serve_withState]
  rfl

/-- The handler for the method answers what is dispatched to its endpoint; the methods that are allowed are not
listed. -/
theorem serve_by_handler {request : Request} {e : Endpoint σ} {p : Params}
    (he : r.dispatch? request.uri.path = some (e, p))
    {h : Handler σ} (hh : e.table.handler? request.method = some h) (s : σ) : (r.withState s).serve request =
      ((h s (request.dispatchedBy e p)).map (MethodTable.finish request none)).after
        [.matched request.uri.path e.template] := by
  have hmethod : e.table.handler? (request.dispatchedBy e p).method = some h := hh
  rw [serve_withState he, MethodTable.serve, hmethod]
  rfl

/-- The fallback of its table answers what is dispatched to an endpoint without a handler for the method. -/
theorem serve_by_fallback {request : Request} {e : Endpoint σ} {p : Params}
    (he : r.dispatch? request.uri.path = some (e, p))
    (hh : e.table.handler? request.method = none) (s : σ) : (r.withState s).serve request =
      ((e.table.fallback.service s (request.dispatchedBy e p)).map
        (MethodTable.finish request e.table.allow.header?)).after
        [.matched request.uri.path e.template] := by
  have hmethod : e.table.handler? (request.dispatchedBy e p).method = none := hh
  rw [serve_withState he, MethodTable.serve, hmethod]
  rfl

/-- What is dispatched to no endpoint is answered by the fallback, with the state. -/
theorem serve_withState_of_none {request : Request} (h : r.dispatch? request.uri.path = none) (s : σ) :
    (r.withState s).serve request = (r.unmatched s request).after [.unmatched request.uri.path] := by
  have hdispatch : (r.withState s).dispatch? request.uri.path = none := by
    rw [dispatch?_withState, h]
    rfl
  unfold unmatched
  cases hf : r.fallback with
  | some table =>
    have hfallback : (r.withState s).fallback = some (table.withState s) := by
      rw [withState, hf]
      rfl
    rw [serve_of_fallback hdispatch hfallback, MethodTable.serve_withState]
  | none =>
    unfold serve
    dsimp only
    rw [hdispatch, withState, hf]
    rfl

/-- A router that needs no state is the same with it. -/
theorem withState_unit (r : Router Unit) : r.withState () = r := by
  have htable : ∀ t : MethodTable Unit, t.withState () = t := by
    rintro ⟨handlers, fallback, allow⟩
    unfold MethodTable.withState
    congr 1
    · funext v
      exact Option.map_id'
    · cases fallback <;> rfl
  obtain ⟨endpoints, fallback⟩ := r
  unfold withState
  congr 1
  · refine (List.map_congr_left fun e _ => ?_).trans (List.map_id _)
    rw [Endpoint.mapTable, htable]
    rfl
  · cases fallback with
    | none => rfl
    | some t => rw [Option.map_some, htable]

/-! ## Routers with new endpoints -/

/-- A new template that has a route is registered behind the others. -/
theorem route_of_fresh {r : Router σ} {t : Text} {route : Route} (ht : t ∉ r.templates)
    (hroute : Route.compile t .strict = .ok route) (table : MethodTable σ) :
    (r.route t table).result = .ok { r with endpoints := r.endpoints ++ [⟨t, route, table⟩] } :=
  route_eq_ok.2 (.inr ⟨ht, route, hroute, rfl⟩)

/-- An endpoint that matches stands before all that follow it. -/
theorem dispatch?_first {es es' : List (Endpoint σ)} {fallback : Option (MethodTable σ)} {path : Text}
    {x : Endpoint σ × Params}
    (h : (es.findSome? fun e => (e.route.exec path).map fun p => (e, p)) = some x) :
    (⟨es ++ es', fallback⟩ : Router σ).dispatch? path = some x := by
  unfold dispatch?
  rw [List.findSome?_append, h]
  rfl

/-- The last endpoint gets what no other one matches. -/
theorem dispatch?_last {es : List (Endpoint σ)} {e : Endpoint σ} {fallback : Option (MethodTable σ)} {path : Text}
    {p : Params}
    (hes : (es.findSome? fun e => (e.route.exec path).map fun p => (e, p)) = none) (he : e.route.exec path = some p) :
    (⟨es ++ [e], fallback⟩ : Router σ).dispatch? path = some (e, p) := by
  unfold dispatch?
  rw [List.findSome?_append, hes, List.findSome?_singleton, he]
  rfl

/-- The only endpoint of a router gets the requests that it matches. -/
theorem dispatch?_singleton {e : Endpoint σ} {fallback : Option (MethodTable σ)} {p : Params}
    (h : e.route.exec path = some p) : (⟨[e], fallback⟩ : Router σ).dispatch? path = some (e, p) :=
  @dispatch?_last _ [] _ _ _ _ rfl h

end Router

end PathRouter
