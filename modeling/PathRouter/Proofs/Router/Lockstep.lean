/-
Two routers built side by side. They are related if they have the same templates with the same routes, tables that are
related, template by template, and related fallbacks (`Router.Related`). A step that registers keeps routers related if
the relation allows for what the step merges; where the step can be made on one router, it can be made on the other.
Whether tables can be merged is a matter of their shape alone (`MethodTable.SameShape.merge`).
-/
import PathRouter.Proofs.Router.Precedence

namespace PathRouter

/-! ## Tables of one shape -/

/-- Whether a fallback was registered. -/
def Fallback.isCustom {σ : Type} : Fallback σ → Bool
  | standard _ => false
  | custom _ => true

namespace Fallback

variable {σ : Type} {f f' g g' : Fallback σ}

theorem isCustom_mapService (l : Layer) (f : Fallback σ) : (f.mapService l).isCustom = f.isCustom := by
  cases f <;> rfl

/-- Whether two fallbacks go together depends on which of them were registered, and so does whether theirs was. -/
theorem merge?_congr (hf : f'.isCustom = f.isCustom) (hg : g'.isCustom = g.isCustom) {m : Fallback σ}
    (h : f.merge? g = some m) : ∃ m', f'.merge? g' = some m' ∧ m'.isCustom = m.isCustom := by
  cases f <;> cases g <;> cases f' <;> cases g' <;> cases h <;> cases hf <;> cases hg <;> exact ⟨_, rfl, rfl⟩

end Fallback

namespace MethodTable

variable {σ : Type} {t t' u u' : MethodTable σ}

/-- Two tables have handlers for the same verbs, and both have a registered fallback or none has. -/
structure SameShape (t t' : MethodTable σ) : Prop where
  handlers : ∀ v, (t'.handlers v).isSome = (t.handlers v).isSome
  fallback : t'.fallback.isCustom = t.fallback.isCustom

theorem SameShape.refl (t : MethodTable σ) : t.SameShape t :=
  ⟨fun _ => rfl, rfl⟩

theorem sameShape_layer (t : MethodTable σ) (l : Layer) : t.SameShape (t.layer l) :=
  ⟨fun _ => Option.isSome_map, t.fallback.isCustom_mapService l⟩

theorem SameShape.layer (h : t.SameShape t') (l l' : Layer) : (t.layer l).SameShape (t'.layer l') :=
  ⟨fun v => Option.isSome_map.trans ((h.handlers v).trans Option.isSome_map.symm),
    (t'.fallback.isCustom_mapService l').trans (h.fallback.trans (t.fallback.isCustom_mapService l).symm)⟩

/-- Tables can be merged if tables of the same shapes can be. -/
theorem SameShape.merge (h : t.SameShape t') (hu : u.SameShape u') {w : MethodTable σ} (hw : t.merge u = .ok w) :
    ∃ w', t'.merge u' = .ok w' ∧ w.SameShape w' := by
  obtain ⟨hoverlap, fallback, hfallback, rfl⟩ := merge_eq_ok.1 hw
  obtain ⟨fallback', hfallback', hcustom⟩ := Fallback.merge?_congr h.fallback hu.fallback hfallback
  have hoverlap' : t'.overlap? u' = none := by
    rw [← hoverlap]
    unfold overlap?
    simp only [h.handlers, hu.handlers]
  refine ⟨_, merge_eq_ok.2 ⟨hoverlap', fallback', hfallback', rfl⟩, fun v => ?_, hcustom⟩
  simp only [Option.isSome_or, h.handlers, hu.handlers]

end MethodTable

/-! ## Related routers -/

variable {σ : Type}

/-- A relation between tables under a template. -/
abbrev TableRelation (σ : Type) := Text → MethodTable σ → MethodTable σ → Prop

/-- A relation between the fallbacks of two routers. -/
abbrev FallbackRelation (σ : Type) := Option (MethodTable σ) → Option (MethodTable σ) → Prop

/-- Tables of one shape, under any template. -/
abbrev TableRelation.sameShape : TableRelation σ := fun _ => MethodTable.SameShape

/-- Two endpoints with the same template and the same route, and related tables. -/
structure Endpoint.Related (Q : TableRelation σ) (e e' : Endpoint σ) : Prop where
  template : e'.template = e.template
  route : e'.route = e.route
  table : Q e.template e.table e'.table

/-- Two routers with related endpoints in the same order and related fallbacks. -/
structure Router.Related (Q : TableRelation σ) (F : FallbackRelation σ) (r r' : Router σ) : Prop where
  endpoints : List.Forall₂ (Endpoint.Related Q) r.endpoints r'.endpoints
  fallback : F r.fallback r'.fallback

namespace Router

variable {Q : TableRelation σ} {F : FallbackRelation σ} {r r' : Router σ}

/-- Every router is related to itself if its tables are. -/
theorem Related.refl (h : ∀ e ∈ r.endpoints, Q e.template e.table e.table) : Related Q Eq r r :=
  ⟨List.forall₂_same.2 fun e he => ⟨rfl, rfl, h e he⟩, rfl⟩

namespace Related

theorem registered (h : Related Q F r r') : r'.registered = r.registered := by
  have hes := h.endpoints
  unfold Router.registered
  generalize r.endpoints = es, r'.endpoints = es' at hes
  induction hes with
  | nil => rfl
  | cons he _ ih => rw [List.map_cons, List.map_cons, ih, he.template, he.route]

theorem templates (h : Related Q F r r') : r'.templates = r.templates := by
  rw [templates_eq, templates_eq, h.registered]

/-- Every endpoint is related to one of the other router. -/
theorem exists_left (h : Related Q F r r') {e' : Endpoint σ} (he' : e' ∈ r'.endpoints) :
    ∃ e ∈ r.endpoints, Endpoint.Related Q e e' := by
  obtain ⟨i, hi, rfl⟩ := List.getElem_of_mem he'
  have hlength := h.endpoints.length_eq
  exact ⟨r.endpoints[i], List.getElem_mem _, (List.forall₂_iff_get.1 h.endpoints).2 i (by omega) hi⟩

/-- Related routers dispatch requests to related endpoints. -/
theorem dispatch? (h : Related Q F r r') (path : Text) : (r.dispatch? path = none ∧ r'.dispatch? path = none) ∨
    ∃ e e' p, r.dispatch? path = some (e, p) ∧ r'.dispatch? path = some (e', p) ∧ Endpoint.Related Q e e' := by
  have hes := h.endpoints
  unfold Router.dispatch?
  generalize r.endpoints = es, r'.endpoints = es' at hes
  induction hes with
  | nil => exact .inl ⟨rfl, rfl⟩
  | @cons e e' es es' he _ ih =>
    rw [List.findSome?_cons, List.findSome?_cons, he.route]
    cases e.route.exec path with
    | none => exact ih
    | some p => exact .inr ⟨e, e', p, rfl, rfl, he⟩

theorem dispatch?_eq_none (h : Related Q F r r') {path : Text} (hnone : r.dispatch? path = none) :
    r'.dispatch? path = none := by
  rcases h.dispatch? path with ⟨-, hnone'⟩ | ⟨e, e', p, he, -, -⟩
  · exact hnone'
  · cases hnone.symm.trans he

/-- What is done to every table keeps routers related if it keeps the tables so. -/
theorem mapTables {τ : Type} {Q' : TableRelation τ} (h : Related Q F r r') {f f' : MethodTable σ → MethodTable τ}
    (hf : ∀ t a a', Q t a a' → Q' t (f a) (f' a')) : List.Forall₂ (Endpoint.Related Q')
      (r.endpoints.map (·.mapTable f)) (r'.endpoints.map (·.mapTable f')) := by
  rw [List.forall₂_map_left_iff, List.forall₂_map_right_iff]
  exact h.endpoints.imp fun e e' he => ⟨he.template, he.route, hf _ _ _ he.table⟩

/-! ## Registration side by side -/

theorem mergeInto {t : Text} {u u' : MethodTable σ}
    (hQ : ∀ a a' b, Q t a a' → a.merge u = .ok b → ∃ b', a'.merge u' = .ok b' ∧ Q t b b') :
    ∀ {es es' es₁ : List (Endpoint σ)}, List.Forall₂ (Endpoint.Related Q) es es' → Endpoint.mergeInto t u es = .ok es₁ →
      ∃ es₁', Endpoint.mergeInto t u' es' = .ok es₁' ∧ List.Forall₂ (Endpoint.Related Q) es₁ es₁'
  | [], _, _, .nil, h => by
    cases h
    exact ⟨[], rfl, .nil⟩
  | e :: es, e' :: es', es₁, .cons he hes, h => by
    rcases mergeInto_cons.1 h with ⟨ht, b, hm, rfl⟩ | ⟨ht, rest, hrest, rfl⟩
    · -- The tables under the template are the ones that are merged; what follows stays.
      obtain ⟨b', hb', hQb⟩ := hQ _ _ _ (ht ▸ he.table) hm
      exact ⟨_, mergeInto_cons.2 (.inl ⟨he.template.trans ht, b', hb', rfl⟩),
        .cons ⟨he.template, he.route, ht.symm ▸ hQb⟩ hes⟩
    · obtain ⟨rest', hrest', hrelated⟩ := mergeInto hQ hes hrest
      exact ⟨_, mergeInto_cons.2 (.inr ⟨fun ht' => ht (he.template.symm.trans ht'), rest', hrest', rfl⟩),
        .cons he hrelated⟩

theorem mergeTable (h : Related Q F r r') {t : Text} {u u' : MethodTable σ}
    (hQ : ∀ a a' b, Q t a a' → a.merge u = .ok b → ∃ b', a'.merge u' = .ok b' ∧ Q t b b') {r₁ : Router σ}
    (hr₁ : (r.mergeTable t u).result = .ok r₁) : ∃ r₁', (r'.mergeTable t u').result = .ok r₁' ∧ Related Q F r₁ r₁' := by
  obtain ⟨es, hes, rfl⟩ := mergeTable_eq_ok.1 hr₁
  obtain ⟨es', hes', hrelated⟩ := Related.mergeInto hQ h.endpoints hes
  exact ⟨_, mergeTable_eq_ok.2 ⟨es', hes', rfl⟩, hrelated, h.fallback⟩

theorem added (h : Related Q F r r') {e e' : Endpoint σ} (he : Endpoint.Related Q e e') :
    Related Q F { r with endpoints := r.endpoints ++ [e] } { r' with endpoints := r'.endpoints ++ [e'] } :=
  ⟨List.rel_append h.endpoints (.cons he .nil), h.fallback⟩

theorem route (h : Related Q F r r') {t : Text} {u u' : MethodTable σ}
    (hQ : ∀ a a' b, Q t a a' → a.merge u = .ok b → ∃ b', a'.merge u' = .ok b' ∧ Q t b b')
    (hnew : t ∉ r.templates → Q t u u') {r₁ : Router σ} (hr₁ : (r.route t u).result = .ok r₁) :
    ∃ r₁', (r'.route t u').result = .ok r₁' ∧ Related Q F r₁ r₁' := by
  rcases route_eq_ok.1 hr₁ with ⟨ht, hr₁⟩ | ⟨ht, route, hroute, rfl⟩
  · obtain ⟨r₁', hr₁', hrelated⟩ := h.mergeTable hQ hr₁
    exact ⟨r₁', route_eq_ok.2 (.inl ⟨h.templates ▸ ht, hr₁'⟩), hrelated⟩
  · exact ⟨_, route_eq_ok.2 (.inr ⟨h.templates ▸ ht, route, hroute, rfl⟩), h.added ⟨rfl, rfl, hnew ht⟩⟩

theorem mergeEndpoint (h : Related Q F r r') {e e' : Endpoint σ} (htemplate : e'.template = e.template)
    (hroute : e'.route = e.route)
    (hQ : ∀ a a' b, Q e.template a a' → a.merge e.table = .ok b → ∃ b', a'.merge e'.table = .ok b' ∧ Q e.template b b')
    (hnew : e.template ∉ r.templates → Q e.template e.table e'.table) {r₁ : Router σ}
    (hr₁ : (r.mergeEndpoint e).result = .ok r₁) : ∃ r₁', (r'.mergeEndpoint e').result = .ok r₁' ∧
      Related Q F r₁ r₁' := by
  rcases mergeEndpoint_eq_ok.1 hr₁ with ⟨ht, hr₁⟩ | ⟨ht, rfl⟩
  · obtain ⟨r₁', hr₁', hrelated⟩ := h.mergeTable hQ hr₁
    exact ⟨r₁', mergeEndpoint_eq_ok.2 (.inl ⟨by rwa [htemplate, h.templates], htemplate ▸ hr₁'⟩), hrelated⟩
  · exact ⟨_, mergeEndpoint_eq_ok.2 (.inr ⟨by rwa [htemplate, h.templates], rfl⟩), h.added ⟨htemplate, hroute, hnew ht⟩⟩

end Related

end Router

/-- Chains of steps that keep two things related do so as a whole. The chain of the one runs along one list, that of the
other along a list related to it. -/
theorem Build.foldlM_lockstep {α β : Type} {f f' : β → α → Build β} {R : α → α → Prop} {P : β → β → Prop}
    (hstep : ∀ b b' x x' b₁, P b b' → R x x' → (f b x).result = .ok b₁ → ∃ b₁',
      (f' b' x').result = .ok b₁' ∧ P b₁ b₁') :
    ∀ {xs xs' : List α} {b b' b₁ : β}, List.Forall₂ R xs xs' → P b b' → (xs.foldlM f b).result = .ok b₁ →
      ∃ b₁', (xs'.foldlM f' b').result = .ok b₁' ∧ P b₁ b₁'
  | [], _, _, b', _, .nil, hb, h => by
    cases h
    exact ⟨b', rfl, hb⟩
  | x :: xs, x' :: xs', b, b', b₁, .cons hx hxs, hb, h => by
    rw [List.foldlM_cons, result_bind_eq_ok] at h
    obtain ⟨b₂, h₂, h⟩ := h
    obtain ⟨b₂', h₂', hb₂⟩ := hstep b b' x x' b₂ hb hx h₂
    obtain ⟨b₁', h₁', hb₁⟩ := foldlM_lockstep hstep hxs hb₂ h
    rw [List.foldlM_cons]
    exact ⟨b₁', result_bind_eq_ok.2 ⟨b₂', h₂', h₁'⟩, hb₁⟩

end PathRouter
