/-
Routers that building steps lead to (`Router.BuiltBy`), with any state and from any other routers built
before. Whatever the steps are, no template is registered twice, every route is the one of its template,
and a step only adds templates behind those that are there: `Router.Grows` is what all steps have in
common, as it is what the elementary changes have in common, and the invariant of a run is its closure.
-/
import PathRouter.Proofs.Router.Changes
import Mathlib.Data.List.Nodup

namespace PathRouter

/-! ## Building steps as data -/

/-- A building step that keeps the state that handlers need. -/
inductive Operation (σ : Type) where
  | route (template : Text) (table : MethodTable σ)
  | routeService (template : Text) (service : Service)
  | merge (other : Router σ)
  | nest (front : Text) (inner : Router σ)
  | nestService (front : Text) (service : Service)
  | fallback (handler : Handler σ)
  | fallbackService (service : Service)
  | layer (layer : Layer)
  | routeLayer (layer : Layer)

namespace Operation

variable {σ : Type}

/-- What a step makes of a router. -/
def apply (r : Router σ) : Operation σ → Build (Router σ)
  | .route t table => r.route t table
  | .routeService t s => r.routeService t s
  | .merge other => r.merge other
  | .nest front inner => r.nest front inner
  | .nestService front s => r.nestService front s
  | .fallback h => return r.withFallback h
  | .fallbackService s => return r.withFallbackService s
  | .layer l => return r.layer l
  | .routeLayer l => r.routeLayer l

/-- The other routers that a step takes in. -/
def routers : Operation σ → List (Router σ)
  | .merge other => [other]
  | .nest _ inner => [inner]
  | _ => []

end Operation

namespace Router

/-- The routers that steps with a property lead to, from the empty one and with other such routers. The
state can be given at any time. -/
inductive BuiltBy (P : ∀ {σ : Type}, Operation σ → Prop) : {σ : Type} → Router σ → Prop
  | empty {σ : Type} : BuiltBy P (empty : Router σ)
  | step {σ : Type} {r r' : Router σ} {op : Operation σ} : BuiltBy P r → P op → (∀ o ∈ op.routers, BuiltBy P o) →
      (op.apply r).result = .ok r' → BuiltBy P r'
  | withState {σ : Type} {r : Router σ} (s : σ) : BuiltBy P r → BuiltBy P (r.withState s)

/-- The routers that any steps lead to. -/
abbrev Reachable {σ : Type} (r : Router σ) : Prop := BuiltBy (fun _ => True) r

variable {σ τ : Type}

/-! ## What a step adds -/

/-- What the endpoints are registered for: their templates, with the routes made of them. -/
def registered (r : Router σ) : List (Text × Route) :=
  r.endpoints.map fun e => (e.template, e.route)

theorem templates_eq (r : Router σ) : r.templates = r.registered.map (·.1) := by
  rw [templates, registered, List.map_map]
  rfl

/-- No template is registered twice, and every route is the one of its template. -/
structure WellFormed (r : Router σ) : Prop where
  nodup : r.templates.Nodup
  compiled : ∀ e ∈ r.registered, Route.compile e.1 .strict = .ok e.2

/-- One router has what another one has registered, in the same order, and behind that only new templates
with their routes. -/
def Grows (r : Router σ) (r' : Router τ) : Prop :=
  ∃ new, r'.registered = r.registered ++ new ∧ (new.map (·.1)).Nodup ∧
    (∀ e ∈ new, e.1 ∉ r.templates) ∧ ∀ e ∈ new, Route.compile e.1 .strict = .ok e.2

namespace Grows

/-- Where nothing is registered anew, nothing is added. -/
theorem of_registered_eq {r : Router σ} {r' : Router τ} (h : r'.registered = r.registered) : r.Grows r' :=
  ⟨[], by rw [h, List.append_nil], List.nodup_nil, List.forall_mem_nil _, List.forall_mem_nil _⟩

/-- One new template is added behind the others. -/
theorem of_append {r r' : Router σ} {t : Text} {route : Route} (h : r'.registered = r.registered ++ [(t, route)])
    (ht : t ∉ r.templates) (hroute : Route.compile t .strict = .ok route) : r.Grows r' :=
  ⟨[(t, route)], h, List.nodup_singleton t, List.forall_mem_singleton.2 ht, List.forall_mem_singleton.2 hroute⟩

theorem refl (r : Router σ) : r.Grows r := of_registered_eq rfl

theorem templates_kept {r : Router σ} {r' : Router τ} (h : r.Grows r') : r.templates <+: r'.templates := by
  obtain ⟨new, hnew, -⟩ := h
  rw [templates_eq, templates_eq, hnew, List.map_append]
  exact List.prefix_append _ _

theorem trans {υ : Type} {r : Router σ} {r' : Router τ} {r'' : Router υ} (h : r.Grows r') (k : r'.Grows r'') :
    r.Grows r'' := by
  have hkept := h.templates_kept
  obtain ⟨new, hr, hnodup, hfresh, hcompiled⟩ := h
  obtain ⟨new', hr', hnodup', hfresh', hcompiled'⟩ := k
  have htemplates : r'.templates = r.templates ++ new.map (·.1) := by
    rw [templates_eq, hr, List.map_append, ← templates_eq]
  refine ⟨new ++ new', by rw [hr', hr, List.append_assoc], ?_, ?_, List.forall_mem_append.2 ⟨hcompiled, hcompiled'⟩⟩
  · rw [List.map_append, List.nodup_append]
    refine ⟨hnodup, hnodup', ?_⟩
    rintro t ht _ ht' rfl
    obtain ⟨e, he, rfl⟩ := List.mem_map.1 ht'
    apply hfresh' e he
    rw [htemplates]
    exact List.mem_append_right _ ht
  · refine List.forall_mem_append.2 ⟨hfresh, fun e he ht => ?_⟩
    exact hfresh' e he (hkept.subset ht)

/-- A well-formed router stays so. -/
theorem wellFormed {r : Router σ} {r' : Router τ} (h : r.Grows r') (hr : r.WellFormed) : r'.WellFormed := by
  obtain ⟨new, hnew, hnodup, hfresh, hcompiled⟩ := h
  constructor
  · rw [templates_eq, hnew, List.map_append, ← templates_eq, List.nodup_append]
    refine ⟨hr.nodup, hnodup, ?_⟩
    rintro t ht _ ht' rfl
    obtain ⟨e, he, rfl⟩ := List.mem_map.1 ht'
    exact hfresh e he ht
  · rw [hnew]
    exact List.forall_mem_append.2 ⟨hr.compiled, hcompiled⟩

end Grows

/-! ## Every step adds templates only -/

theorem wellFormed_empty : (empty : Router σ).WellFormed :=
  ⟨List.nodup_nil, List.forall_mem_nil _⟩

/-- The route is the one that is made of the template. -/
abbrev Compiled : Text → Route → Prop := fun t route => Route.compile t .strict = .ok route

/-- An elementary change leaves what is registered, or adds something new with the property. -/
theorem Change.registered {N : Text → Route → Prop} {r r' : Router σ} (h : Change N r r') :
    r'.registered = r.registered ∨
      ∃ t route, t ∉ r.templates ∧ N t route ∧ r'.registered = r.registered ++ [(t, route)] := by
  cases h with
  | merged =>
    left
    simp only [Router.registered, List.map_append, List.map_cons]
  | added ht hN =>
    refine .inr ⟨_, _, ht, hN, ?_⟩
    simp only [Router.registered, List.map_append, List.map_singleton]
  | fallback => exact .inl rfl

theorem Changes.grows {r r' : Router σ} (h : Changes Compiled r r') : r.Grows r' := by
  induction h with
  | refl => exact .refl r
  | tail _ hstep ih =>
    rcases hstep.registered with hsame | ⟨t, route, ht, hroute, hadded⟩
    · exact ih.trans (.of_registered_eq hsame)
    · exact ih.trans (.of_append hadded ht hroute)

/-- What new endpoints have in common with the old ones, all have in common. -/
theorem Changes.forall_registered {N : Text → Route → Prop} {r r' : Router σ} (h : Changes N r r')
    (hr : ∀ e ∈ r.registered, N e.1 e.2) : ∀ e ∈ r'.registered, N e.1 e.2 := by
  induction h with
  | refl => exact hr
  | tail _ hstep ih =>
    rcases hstep.registered with hsame | ⟨t, route, -, hN, hadded⟩
    · rwa [hsame]
    · rw [hadded]
      exact List.forall_mem_append.2 ⟨ih, List.forall_mem_singleton.2 hN⟩

theorem registered_mergeTable {r r' : Router σ} {t : Text} {table : MethodTable σ}
    (h : (r.mergeTable t table).result = .ok r') : r'.registered = r.registered := by
  obtain ⟨es, hes, rfl⟩ := mergeTable_eq_ok.1 h
  rcases mergeInto_eq_ok hes with rfl | ⟨before, e, behind, merged, hsplit, -, -, rfl⟩
  · rfl
  · simp only [registered, hsplit, List.map_append, List.map_cons]

theorem grows_route {r r' : Router σ} {t : Text} {table : MethodTable σ} (h : (r.route t table).result = .ok r') :
    r.Grows r' :=
  (changes_route (fun _ hroute => hroute) h).grows

theorem grows_merge {r r' other : Router σ} (hother : other.WellFormed) (h : (r.merge other).result = .ok r') :
    r.Grows r' :=
  (changes_merge (fun _ he => hother.compiled _ (List.mem_map_of_mem he)) h).grows

theorem grows_nest {r r' inner : Router σ} {front : Text} (h : (r.nest front inner).result = .ok r') : r.Grows r' :=
  (changes_nest (fun _ _ hroute => hroute) h).grows

theorem grows_nestService {r r' : Router σ} {front : Text} {s : Service}
    (h : (r.nestService front s).result = .ok r') : r.Grows r' :=
  (changes_nestService (fun _ _ hroute => hroute) h).grows

/-- What is done to the tables leaves what is registered. -/
theorem registered_mapTable (r : Router σ) (f : MethodTable σ → MethodTable τ) (fallback : Option (MethodTable τ)) :
    (⟨r.endpoints.map (·.mapTable f), fallback⟩ : Router τ).registered = r.registered := by
  rw [registered, List.map_map]
  rfl

theorem registered_layer (r : Router σ) (l : Layer) : (r.layer l).registered = r.registered :=
  r.registered_mapTable _ _

theorem grows_routeLayer {r r' : Router σ} {l : Layer} (h : (r.routeLayer l).result = .ok r') : r.Grows r' := by
  obtain ⟨-, rfl⟩ := routeLayer_eq_ok.1 h
  exact .of_registered_eq (r.registered_mapTable _ _)

theorem registered_withState (r : Router σ) (s : σ) : (r.withState s).registered = r.registered :=
  r.registered_mapTable _ _

/-- A step adds templates behind those that are there, and no endpoint goes. -/
theorem grows_apply {r r' : Router σ} {op : Operation σ} (hothers : ∀ o ∈ op.routers, o.WellFormed)
    (h : (op.apply r).result = .ok r') : r.Grows r' := by
  cases op with
  | route template table => exact grows_route h
  | routeService template service => exact grows_route h
  | merge other => exact grows_merge (hothers other (List.mem_singleton_self other)) h
  | nest front inner => exact grows_nest h
  | nestService front service => exact grows_nestService h
  | fallback handler | fallbackService service =>
    cases h
    exact .of_registered_eq rfl
  | layer l =>
    cases h
    exact .of_registered_eq (registered_layer r l)
  | routeLayer l => exact grows_routeLayer h

/-! ## The invariant of a run -/

/-- Routers are well-formed, by whatever steps they are built. -/
theorem BuiltBy.wellFormed {P : ∀ {σ : Type}, Operation σ → Prop} {r : Router σ} (h : BuiltBy P r) : r.WellFormed := by
  induction h with
  | empty => exact wellFormed_empty
  | step _ _ _ hstep ih ihothers => exact (grows_apply ihothers hstep).wellFormed ih
  | withState s _ ih => exact (Grows.of_registered_eq (registered_withState _ s)).wellFormed ih

/-- In a router that building steps lead to, the templates are pairwise distinct and every route is
compiled from its template, strictly; and a further step, with other such routers, keeps the templates as the
first ones of the router that it leads to. -/
theorem Reachable.templates_nodup {r : Router σ} (h : r.Reachable) :
    r.templates.Nodup ∧ (∀ e ∈ r.endpoints, Route.compile e.template .strict = .ok e.route) ∧
    (∀ (op : Operation σ) (r' : Router σ), (∀ o ∈ op.routers, o.Reachable) → (op.apply r).result = .ok r' →
      r.templates <+: r'.templates) ∧
    ∀ s, r.templates <+: (r.withState s).templates := by
  have hr := h.wellFormed
  refine ⟨hr.nodup, fun e he => hr.compiled _ (List.mem_map_of_mem he), fun op r' hothers hop => ?_, fun s => ?_⟩
  · exact (grows_apply (fun o ho => (hothers o ho).wellFormed) hop).templates_kept
  · exact (Grows.of_registered_eq (registered_withState r s)).templates_kept

/-- A router nested in the empty one, with another one merged behind and the state given. -/
theorem Reachable.templates_nodup_nested : ∃ r : Router Unit, r.templates = ["/v/a".toList, "/b".toList] ∧
    r.templates.Nodup ∧ (∀ e ∈ r.endpoints, Route.compile e.template .strict = .ok e.route) ∧
    (∀ (op : Operation Unit) (r' : Router Unit), (∀ o ∈ op.routers, o.Reachable) → (op.apply r).result = .ok r' →
      r.templates <+: r'.templates) ∧ ∀ s, r.templates <+: (r.withState s).templates := by
  have alone : ∀ o ∈ ([] : List (Router Nat)), o.Reachable := List.forall_mem_nil _
  have registered : ∀ t : Text, ∀ r : Router Nat,
      (Operation.apply (empty : Router Nat) (.route t (.any fun _ => .constant notFound))).result =
        .ok r → r.Reachable :=
    fun t r h => @BuiltBy.step _ _ _ r (.route t _) .empty trivial alone h
  have inner := registered "/a".toList _ rfl
  have other := registered "/b".toList _ rfl
  have nested := @BuiltBy.step _ _ _ _ (.nest "/v".toList _) .empty trivial (List.forall_mem_singleton.2 inner) rfl
  have merged := @BuiltBy.step _ _ _ _ (.merge _) nested trivial (List.forall_mem_singleton.2 other) rfl
  exact ⟨_, rfl, Reachable.templates_nodup (.withState 7 merged)⟩

end Router

end PathRouter
