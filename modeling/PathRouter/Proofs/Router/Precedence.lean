/-
No later step takes a request away from the endpoint that it is dispatched to. The steps that register endpoints
or set a fallback are made of elementary changes (`Router.Change`). Each of them leaves every endpoint in its place,
and its table keeps the handlers that it has (`Endpoint.Kept`); so a request finds the same first template as
before, whatever follows. Only one handler gives way to a later one: that for GET answers requests for the head
alone as long as there is none for HEAD (`MethodTable.Grows.handler?`).
-/
import PathRouter.Proofs.Router.Dispatch

namespace PathRouter

/-! ## Tables that grow -/

namespace MethodTable

variable {σ : Type} {t t' t'' u : MethodTable σ}

/-- A table has all handlers of another one; a registered fallback and the silence about methods stay as well. -/
structure Grows (t t' : MethodTable σ) : Prop where
  handlers : ∀ v h, t.handlers v = some h → t'.handlers v = some h
  fallback : ∀ h, t.fallback = .custom h → t'.fallback = .custom h
  allow : t.allow = .skip → t'.allow = .skip

theorem Grows.refl (t : MethodTable σ) : t.Grows t :=
  ⟨fun _ _ h => h, fun _ h => h, fun h => h⟩

theorem Grows.trans (h : t.Grows t') (h' : t'.Grows t'') : t.Grows t'' :=
  ⟨fun v k hk => h'.handlers v k (h.handlers v k hk), fun k hk => h'.fallback k (h.fallback k hk),
    fun ha => h'.allow (h.allow ha)⟩

/-- Two tables are merged if no verb has a handler in both and at most one of the fallbacks is a registered one. -/
theorem merge_eq_ok : t.merge u = .ok t' ↔ t.overlap? u = none ∧ ∃ fallback,
    t.fallback.merge? u.fallback = some fallback ∧
    t' = ⟨fun v => (t.handlers v).or (u.handlers v), fallback, t.allow.merge u.allow⟩ := by
  unfold merge
  cases t.overlap? u with
  | some v => simp
  | none => cases t.fallback.merge? u.fallback <;> simp [eq_comm]

/-- A table that another one is merged into keeps what it has. -/
theorem grows_merge (h : t.merge u = .ok t') : t.Grows t' := by
  obtain ⟨-, fallback, hfallback, rfl⟩ := merge_eq_ok.1 h
  refine ⟨fun v k hk => ?_, fun k hk => ?_, fun ha => ?_⟩
  · show (t.handlers v).or (u.handlers v) = some k
    rw [hk, Option.some_or]
  · rw [hk] at hfallback
    cases hu : u.fallback with
    | standard service =>
      rw [hu] at hfallback
      exact (Option.some.inj hfallback).symm
    | custom k' =>
      rw [hu] at hfallback
      cases hfallback
  · show t.allow.merge u.allow = .skip
    rw [ha]
    cases u.allow <;> rfl

/-- A handler that answers requests with a method does so in a table that grows, unless it stands in for the handler
for HEAD and there is one now. -/
theorem Grows.handler? (h : t.Grows t') {m : Method} {k : Handler σ} (hk : t.handler? m = some k) :
    t'.handler? m = some k ∨ m = .verb .head ∧ t.handlers .head = none ∧ (t'.handlers .head).isSome = true := by
  unfold MethodTable.handler? at hk ⊢
  split at hk
  · cases hhead : t.handlers .head with
    | some k' =>
      rw [hhead, Option.some_or] at hk
      rw [h.handlers .head k' hhead, Option.some_or]
      exact .inl hk
    | none =>
      rw [hhead, Option.none_or] at hk
      cases hhead' : t'.handlers .head with
      | some k' => exact .inr ⟨rfl, rfl, rfl⟩
      | none => exact .inl (h.handlers .get k hk)
  · exact .inl (h.handlers _ k hk)
  · cases hk

end MethodTable

/-! ## Endpoints that stay in their places -/

namespace Endpoint

variable {σ : Type}

/-- An endpoint has the template and the route of another one, and its table has grown. -/
structure Extends (e e' : Endpoint σ) : Prop where
  template : e'.template = e.template
  route : e'.route = e.route
  table : e.table.Grows e'.table

/-- All endpoints are kept in their places, with others behind them. -/
inductive Kept : List (Endpoint σ) → List (Endpoint σ) → Prop
  | nil {new : List (Endpoint σ)} : Kept [] new
  | cons {e e' : Endpoint σ} {es es' : List (Endpoint σ)} : Extends e e' → Kept es es' → Kept (e :: es) (e' :: es')

theorem Extends.refl (e : Endpoint σ) : Extends e e :=
  ⟨rfl, rfl, .refl _⟩

theorem Extends.trans {e e' e'' : Endpoint σ} (h : Extends e e') (h' : Extends e' e'') : Extends e e'' :=
  ⟨h'.template.trans h.template, h'.route.trans h.route, h.table.trans h'.table⟩

theorem Kept.trans {es es' es'' : List (Endpoint σ)} (h : Kept es es') (h' : Kept es' es'') : Kept es es'' := by
  induction h generalizing es'' with
  | nil => exact .nil
  | cons he _ ih =>
    cases h' with
    | cons he' hes' => exact .cons (he.trans he') (ih hes')

theorem Kept.behind {es es' : List (Endpoint σ)} (h : Kept es es') : ∀ before, Kept (before ++ es) (before ++ es')
  | [] => h
  | e :: before => .cons (.refl e) (h.behind before)

theorem kept_append (es new : List (Endpoint σ)) : Kept es (es ++ new) := by
  simpa using (Kept.nil : Kept [] new).behind es

theorem Kept.refl (es : List (Endpoint σ)) : Kept es es := by
  simpa using kept_append es []

/-- The templates stay the first ones, in their order. -/
theorem Kept.templates {es es' : List (Endpoint σ)} (h : Kept es es') :
    es.map (·.template) <+: es'.map (·.template) := by
  induction h with
  | nil => exact List.nil_prefix
  | cons he _ ih =>
    rw [List.map_cons, List.map_cons, he.template]
    exact List.cons_prefix_cons.2 ⟨rfl, ih⟩

/-- The first endpoint that matches a path stays the first one. -/
theorem Kept.findSome? {es es' : List (Endpoint σ)} (h : Kept es es') {path : Text} {e : Endpoint σ} {p : Params}
    (hfirst : (es.findSome? fun e => (e.route.exec path).map fun p => (e, p)) = some (e, p)) :
    ∃ e', (es'.findSome? fun e => (e.route.exec path).map fun p => (e, p)) = some (e', p) ∧ Extends e e' := by
  induction h with
  | nil => cases hfirst
  | @cons e₁ e₁' es es' he _ ih =>
    rw [List.findSome?_cons] at hfirst ⊢
    rw [he.route]
    cases hexec : e₁.route.exec path with
    | some p₁ =>
      rw [hexec] at hfirst
      cases hfirst
      exact ⟨e₁', rfl, he⟩
    | none =>
      rw [hexec] at hfirst
      exact ih hfirst

end Endpoint

/-! ## Steps that register -/

/-- A step that registers endpoints or sets the fallback. The others put a layer around what is there. -/
def Operation.Registers {σ : Type} : Operation σ → Prop
  | .route _ _ | .routeService _ _ | .merge _ | .nest _ _ | .nestService _ _ | .fallback _ | .fallbackService _ => True
  | .layer _ | .routeLayer _ => False

namespace Router

variable {σ : Type} {r r' : Router σ} {N : Text → Route → Prop}

/-- Any elementary changes, whatever the new endpoints are like. -/
abbrev AnyChanges : Router σ → Router σ → Prop := Changes fun _ _ => True

/-- Steps that register are made of elementary changes. -/
theorem changes_apply {op : Operation σ} (hop : op.Registers) (h : (op.apply r).result = .ok r') : AnyChanges r r' := by
  cases op with
  | route template table => exact changes_route (fun _ _ => trivial) h
  | routeService template service => exact changes_route (fun _ _ => trivial) h
  | merge other => exact changes_merge (fun _ _ => trivial) h
  | nest front inner => exact changes_nest (fun _ _ _ => trivial) h
  | nestService front service => exact changes_nestService (fun _ _ _ => trivial) h
  | fallback handler | fallbackService service =>
    cases h
    exact .single (.fallback r _)
  | layer | routeLayer => exact hop.elim

theorem changes_run {ops : List (Operation σ)} (hops : ∀ op ∈ ops, op.Registers)
    (h : (ops.foldlM Operation.apply r).result = .ok r') : AnyChanges r r' :=
  Build.foldlM_induction (P := AnyChanges r) .refl
    (fun _ op _ hop hb hstep => hb.trans (changes_apply (hops op hop) hstep)) h

/-- An elementary change keeps all endpoints. -/
theorem Change.kept (h : Change N r r') : Endpoint.Kept r.endpoints r'.endpoints := by
  cases h with
  | @merged before behind e u t fallback hmerge =>
    have he : e.Extends { e with table := t } := ⟨rfl, rfl, MethodTable.grows_merge hmerge⟩
    exact Endpoint.Kept.behind (.cons he (.refl behind)) before
  | added => exact Endpoint.kept_append _ _
  | fallback => exact .refl _

theorem Changes.kept (h : Changes N r r') : Endpoint.Kept r.endpoints r'.endpoints := by
  induction h with
  | refl => exact .refl _
  | tail _ hstep ih => exact ih.trans hstep.kept

/-- After any changes, a request is dispatched to the same endpoint as before, whose table has grown. -/
theorem Changes.dispatch? (h : Changes N r r') {path : Text} {e : Endpoint σ} {p : Params}
    (hdispatch : r.dispatch? path = some (e, p)) : ∃ e', r'.dispatch? path = some (e', p) ∧ e.Extends e' :=
  h.kept.findSome? hdispatch

end Router

/-- What a dispatch records is the same for an endpoint that has grown. -/
theorem Request.dispatchedBy_of_extends {σ : Type} {e e' : Endpoint σ} (h : e.Extends e') (request : Request)
    (p : Params) :
    request.dispatchedBy e' p = request.dispatchedBy e p := by
  unfold dispatchedBy
  rw [h.template, h.route]

namespace Router

variable {σ : Type}

/-- Routers that steps lead to from a well-formed one are well-formed. -/
theorem WellFormed.run {r r' : Router σ} (hr : r.WellFormed) {ops : List (Operation σ)}
    (hothers : ∀ op ∈ ops, ∀ o ∈ op.routers, o.Reachable) (h : (ops.foldlM Operation.apply r).result = .ok r') :
    r'.WellFormed :=
  Build.foldlM_induction (P := WellFormed) hr
    (fun _ op _ hop hb hstep => (grows_apply (fun o ho => (hothers op hop o ho).wellFormed) hstep).wellFormed hb) h

/-- Steps that register endpoints or set a fallback leave requests where they go. A request whose path a template of the
router matches is dispatched to the first such template before and after the steps, and the same parameters and the
same template are recorded. The handler for its method answers it before and after, in the same way, unless it is the
one for GET that stands in for HEAD, and a handler for HEAD has been registered for that template. The fallback has
no part in the answer to a request whose path a template matches. -/
theorem Reachable.serve_later {r r' : Router σ} (hr : r.Reachable) {ops : List (Operation σ)}
    (hops : ∀ op ∈ ops, op.Registers) (hothers : ∀ op ∈ ops, ∀ o ∈ op.routers, o.Reachable)
    (hrun : (ops.foldlM Operation.apply r).result = .ok r') (s : σ) (request : Request) :
    ((∃ t ∈ r.templates, Template.Matches t request.uri.path) →
      ∃ e e' p, r.dispatch? request.uri.path = some (e, p) ∧ r'.dispatch? request.uri.path = some (e', p) ∧
        r.First request.uri.path e.template ∧ r'.First request.uri.path e.template ∧
        request.dispatchedBy e' p = request.dispatchedBy e p ∧
        ∀ h, e.table.handler? request.method = some h →
          (e'.table.handler? request.method = some h ∧ (r'.withState s).serve request = (r.withState s).serve request) ∨
          (request.method = .verb .head ∧ e.table.handlers .head = none ∧ (e'.table.handlers .head).isSome = true)) ∧
    ((∃ t ∈ r'.templates, Template.Matches t request.uri.path) → ∀ fallback,
      (({ r' with fallback } : Router σ).withState s).serve request = (r'.withState s).serve request) := by
  have hr' : r'.WellFormed := hr.wellFormed.run hothers hrun
  constructor
  · intro hmatch
    -- The endpoint that gets the request is still the first one that matches, and its table has grown.
    obtain ⟨e, p, he⟩ := hr.wellFormed.exists_dispatch hmatch
    obtain ⟨e', he', hextends⟩ := (changes_run hops hrun).dispatch? he
    have hfirst' := hr'.first_of_dispatch he'
    rw [hextends.template] at hfirst'
    have hrequest := Request.dispatchedBy_of_extends hextends request p
    refine ⟨e, e', p, he, he', hr.wellFormed.first_of_dispatch he, hfirst', hrequest, fun h hh => ?_⟩
    rcases hextends.table.handler? hh with hh' | hhead
    · refine .inl ⟨hh', ?_⟩
      rw [serve_by_handler he' hh', serve_by_handler he hh, hrequest, hextends.template]
    · exact .inr hhead
  · intro hmatch fallback
    obtain ⟨e, p, he⟩ := hr'.exists_dispatch hmatch
    have he' : ({ r' with fallback } : Router σ).dispatch? request.uri.path = some (e, p) := he
    rw [serve_withState he', serve_withState he]

/-- A router with one template. -/
theorem reachable_route {t : Text} {table : MethodTable σ} {r : Router σ} (h : (empty.route t table).result = .ok r) :
    r.Reachable :=
  @BuiltBy.step _ _ _ r (.route t table) .empty trivial (List.forall_mem_nil _) h

/-- A template with a parameter keeps a path that a template registered later matches as well. -/
theorem Reachable.serve_later_parameter : ∃ r r' : Router Unit, r.templates = ["/:id".toList] ∧
    r'.templates = ["/:id".toList, "/new".toList] ∧ ∃ request : Request, request.uri.path = "/new".toList ∧
      r'.First request.uri.path "/:id".toList ∧
      (r'.withState ()).serve request = (r.withState ()).serve request ∧
      (({ r' with fallback := none } : Router Unit).withState ()).serve request = (r'.withState ()).serve request := by
  let handler (status : Nat) : Handler Unit := fun _ => .constant (.plain status [])
  let ops : List (Operation Unit) :=
    [.route "/:id".toList (.on [.post] (handler 201)), .route "/new".toList (.any (handler 202)),
      .fallback (handler 203)]
  let request : Request := .new (.verb .get) ⟨none, none, "/new".toList, none⟩
  obtain ⟨route, hroute, hexec⟩ : ∃ route, Route.compile "/:id".toList .strict = .ok route ∧
      (route.exec "/new".toList).isSome = true := ⟨_, rfl, rfl⟩
  obtain ⟨p, hp⟩ := Option.isSome_iff_exists.1 hexec
  let e : Endpoint Unit := ⟨"/:id".toList, route, .on [.get] (handler 200)⟩
  let r : Router Unit := ⟨[e], none⟩
  have hr : r.Reachable := reachable_route (route_of_fresh List.not_mem_nil hroute _)
  have he : r.dispatch? request.uri.path = some (e, p) := dispatch?_singleton hp
  obtain ⟨r', hrun, htemplates⟩ : ∃ r', (ops.foldlM Operation.apply r).result = .ok r' ∧
      r'.templates = ["/:id".toList, "/new".toList] := ⟨_, rfl, rfl⟩
  have hops : ∀ op ∈ ops, op.Registers := by simp [ops, Operation.Registers]
  have hothers : ∀ op ∈ ops, ∀ o ∈ op.routers, o.Reachable := by simp [ops, Operation.routers]
  have hlater := Reachable.serve_later hr hops hothers hrun () request
  obtain ⟨e₁, e', p₁, he₁, -, -, hfirst, -, hhandler⟩ :=
    hlater.1 ⟨"/:id".toList, List.mem_singleton_self _, route, hroute, hexec⟩
  cases he.symm.trans he₁
  refine ⟨r, r', rfl, htemplates, request, rfl, hfirst, ?_, hlater.2 ⟨"/:id".toList, ?_, route, hroute, hexec⟩ none⟩
  · rcases hhandler (handler 200) rfl with ⟨-, hserve⟩ | ⟨hhead, -⟩
    · exact hserve
    · cases hhead
  · rw [htemplates]
    exact List.mem_cons_self

/-- Requests for the head alone go from the handler for GET to one for HEAD that is registered later. -/
theorem Reachable.serve_later_head :
    ∃ (r r' : Router Unit) (ops : List (Operation Unit)) (request : Request), r.Reachable ∧
    (∀ op ∈ ops, op.Registers) ∧ (∀ op ∈ ops, ∀ o ∈ op.routers, o.Reachable) ∧
    (ops.foldlM Operation.apply r).result = .ok r' ∧
    ∃ e e' p h h', r.dispatch? request.uri.path = some (e, p) ∧ r'.dispatch? request.uri.path = some (e', p) ∧
      e.table.handler? request.method = some h ∧ e'.table.handler? request.method = some h' ∧
      h () (request.dispatchedBy e p) ≠ h' () (request.dispatchedBy e' p) := by
  let handler (status : Nat) : Handler Unit := fun _ => .constant (.plain status [])
  let ops : List (Operation Unit) := [.route "/:id".toList (.on [.head] (handler 400))]
  let request : Request := .new (.verb .head) ⟨none, none, "/x".toList, none⟩
  obtain ⟨route, hroute, hexec⟩ : ∃ route, Route.compile "/:id".toList .strict = .ok route ∧
      (route.exec "/x".toList).isSome = true := ⟨_, rfl, rfl⟩
  obtain ⟨p, hp⟩ := Option.isSome_iff_exists.1 hexec
  let r : Router Unit := ⟨[⟨"/:id".toList, route, .on [.get] (handler 200)⟩], none⟩
  have hr : r.Reachable := reachable_route (route_of_fresh List.not_mem_nil hroute _)
  have hops : ∀ op ∈ ops, op.Registers := by simp [ops, Operation.Registers]
  have hothers : ∀ op ∈ ops, ∀ o ∈ op.routers, o.Reachable := by simp [ops, Operation.routers]
  have hne : ∀ q q' : Request, handler 200 () q ≠ handler 400 () q' := by
    intro q q' h
    have hstatus := congrArg (·.response.status) h
    cases hstatus
  exact ⟨r, _, ops, request, hr, hops, hothers, rfl, _, _, p, _, _, dispatch?_singleton hp,
    dispatch?_singleton hp, rfl, rfl,
    hne _ _⟩

end Router

end PathRouter
