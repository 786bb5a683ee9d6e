/-
What a handler is told. Routers are built around a handler, nested in each other and mounted as services to any depth,
with layers around them (`Service.Around`). Two handlers that answer all requests but one alike make a difference to an
answer only if that one request gets to them; and then it gets there step by step: layers hand requests in, a prefix is
stripped, and routers dispatch to endpoints or leave requests to their fallbacks (`Visit.Step`). What the latest
dispatch has recorded is told from there on, as far as the layers behind it pass it on (`Visit.Informed`).
-/
import PathRouter.Proofs.Extraction.Recorded
import PathRouter.Proofs.Router.Encoded
import PathRouter.Proofs.Router.Lifting

namespace PathRouter

/-! ## What is told -/

/-- What is told of a dispatch: the recorded parameters, and the template with its keys. -/
abbrev Told := Option Recorded × Option MatchedPath

/-- What a request tells of its latest dispatch. -/
def Request.told (request : Request) : Told := (request.recorded, request.matched)

/-- A dispatch: the template and the route of the endpoint, the path that the router saw, and the parameters that the
route captured there. -/
structure Dispatch where
  template : Text
  route : Route
  path : Text
  params : Params

namespace Dispatch

/-- What a dispatch records. -/
def told (d : Dispatch) : Told := (some d.params.decode, some ⟨d.template, d.route.keys⟩)

end Dispatch

/-- A layer asks the service inside only what tells the same as the request does. -/
def Layer.Transparent (l : Layer) : Prop :=
  ∀ (s s' : Service) (request : Request), (∀ inner : Request, inner.told = request.told → s inner = s' inner) →
    l s request = l s' request

/-- A table around a handler: it has the same handlers whatever that one is, or such as are built around it. -/
structure MethodTable.BuiltAround {σ : Type} (H : (Service → Service) → Prop) (table : Service → MethodTable σ) :
    Prop where
  handlers : ∀ v, (∀ h, (table h).handlers v = none) ∨
    ∃ k : Service → Handler σ, (∀ s, H fun h => k h s) ∧ ∀ h, (table h).handlers v = some (k h)
  fallback : (∃ f, H f ∧ ∀ h, (table h).fallback = .standard (f h)) ∨
    ∃ k : Service → Handler σ, (∀ s, H fun h => k h s) ∧ ∀ h, (table h).fallback = .custom (k h)
  allow : ∀ h h', (table h').allow = (table h).allow

/-- Routers around a handler, which is in some of their services, by any steps and with layers of a kind. -/
inductive Router.BuiltAround (P : Layer → Prop) (H : (Service → Service) → Prop) :
    {σ : Type} → (Service → Router σ) → Prop
  | empty {σ : Type} : BuiltAround P H fun _ => (Router.empty : Router σ)
  | route {σ : Type} {r r' : Service → Router σ} {t : Text} {table : Service → MethodTable σ} : BuiltAround P H r →
      MethodTable.BuiltAround H table → (∀ h, ((r h).route t (table h)).result = .ok (r' h)) → BuiltAround P H r'
  | merge {σ : Type} {r r' other : Service → Router σ} : BuiltAround P H r → BuiltAround P H other →
      (∀ h, ((r h).merge (other h)).result = .ok (r' h)) → BuiltAround P H r'
  | nest {σ : Type} {r r' inner : Service → Router σ} {front : Text} : BuiltAround P H r → BuiltAround P H inner →
      (∀ h, ((r h).nest front (inner h)).result = .ok (r' h)) → BuiltAround P H r'
  | nestService {σ : Type} {r r' : Service → Router σ} {front : Text} {f : Service → Service} : BuiltAround P H r →
      H f → (∀ h, ((r h).nestService front (f h)).result = .ok (r' h)) → BuiltAround P H r'
  | fallback {σ : Type} {r : Service → Router σ} {k : Service → Handler σ} : BuiltAround P H r →
      (∀ s, H fun h => k h s) → BuiltAround P H fun h => (r h).withFallback (k h)
  | layer {σ : Type} {r : Service → Router σ} {l : Layer} : BuiltAround P H r → P l →
      BuiltAround P H fun h => (r h).layer l
  | routeLayer {σ : Type} {r r' : Service → Router σ} {l : Layer} : BuiltAround P H r → P l →
      (∀ h, ((r h).routeLayer l).result = .ok (r' h)) → BuiltAround P H r'
  | withState {σ : Type} {r : Service → Router σ} (s : σ) : BuiltAround P H r →
      BuiltAround P H fun h => (r h).withState s

/-- Services around a handler: the handler itself, a service that does without it, a layer of a kind around such a
service, or a router around the handler with such services, to a depth. -/
def Service.Around (P : Layer → Prop) : Nat → (Service → Service) → Prop
  | 0, f => f = id ∨ ∃ s, f = fun _ => s
  | n + 1, f => Around P n f ∨ (∃ l g, P l ∧ Around P n g ∧ f = fun h => l (g h)) ∨
      ∃ r : Service → Router Unit, Router.BuiltAround P (Around P n) r ∧ f = fun h => (r h).serve

namespace Router

variable {P : Layer → Prop} {H : (Service → Service) → Prop} {S : Service → Service → Prop} {h h' : Service}

/-- Tables around two handlers are related if the services in them are. -/
theorem lifted_table {σ : Type} (hH : ∀ f, H f → S (f h) (f h')) {table : Service → MethodTable σ}
    (ht : MethodTable.BuiltAround H table) : MethodTable.Lifted S (table h) (table h') where
  handlers v := by
    rcases ht.handlers v with hnone | ⟨k, hk, hsome⟩
    · rw [hnone, hnone]
      exact .none
    · rw [hsome, hsome]
      exact .some fun s => hH _ (hk s)
  fallback := by
    rcases ht.fallback with ⟨f, hf, hstandard⟩ | ⟨k, hk, hcustom⟩
    · rw [hstandard, hstandard]
      exact .standard (hH f hf)
    · rw [hcustom, hcustom]
      exact .custom fun s => hH _ (hk s)
  allow := ht.allow h h'

namespace BuiltAround

/-- Routers around two handlers are related, by whatever steps they are built, if the services in them are. -/
theorem lifted {σ : Type} (hS : Service.Kept P S) (hH : ∀ f, H f → S (f h) (f h')) {r : Service → Router σ}
    (hr : BuiltAround P H r) : Lifted S (r h) (r h') := by
  induction hr with
  | empty => exact .empty
  | route _ ht hstep ih =>
    -- The same step on the other router gives a related one, which is what `hstep` says that it gives.
    obtain ⟨r₁, hr₁, hlifted⟩ := ih.route (lifted_table hH ht) (hstep h)
    cases hr₁.symm.trans (hstep h')
    exact hlifted
  | merge _ _ hstep ih ihother =>
    obtain ⟨r₁, hr₁, hlifted⟩ := ih.merge ihother (hstep h)
    cases hr₁.symm.trans (hstep h')
    exact hlifted
  | nest _ _ hstep ih ihinner =>
    obtain ⟨r₁, hr₁, hlifted⟩ := ih.nest hS ihinner (hstep h)
    cases hr₁.symm.trans (hstep h')
    exact hlifted
  | nestService _ hf hstep ih =>
    obtain ⟨r₁, hr₁, hlifted⟩ := ih.nestService hS (hH _ hf) (hstep h)
    cases hr₁.symm.trans (hstep h')
    exact hlifted
  | fallback _ hk ih => exact ih.withFallback fun s => hH _ (hk s)
  | layer _ hl ih => exact ih.layer hS hl
  | routeLayer _ hl hstep ih =>
    obtain ⟨r₁, hr₁, hlifted⟩ := ih.routeLayer hS hl (hstep h)
    cases hr₁.symm.trans (hstep h')
    exact hlifted
  | withState s _ ih => exact ih.withState s

theorem wellFormed {σ : Type} {r : Service → Router σ} (hr : BuiltAround P H r) (h : Service) : (r h).WellFormed := by
  induction hr with
  | empty => exact wellFormed_empty
  | route _ _ hstep ih => exact (grows_route (hstep h)).wellFormed ih
  | merge _ _ hstep ih ihother => exact (grows_merge ihother (hstep h)).wellFormed ih
  | nest _ _ hstep ih _ => exact (grows_nest (hstep h)).wellFormed ih
  | nestService _ _ hstep ih => exact (grows_nestService (hstep h)).wellFormed ih
  | @fallback _ r k _ _ ih =>
    have hgrows : (r h).Grows ((r h).withFallback (k h)) := .of_registered_eq rfl
    exact hgrows.wellFormed ih
  | layer _ _ ih => exact (Grows.of_registered_eq (registered_layer _ _)).wellFormed ih
  | routeLayer _ _ hstep ih => exact (grows_routeLayer (hstep h)).wellFormed ih
  | withState s _ ih => exact (Grows.of_registered_eq (registered_withState _ s)).wellFormed ih

/-- Where requests go does not depend on the handler. -/
theorem dispatch?_eq_none {σ : Type} {r : Service → Router σ} (hr : BuiltAround P H r) {path : Text}
    (hnone : (r h).dispatch? path = none) : (r h').dispatch? path = none := by
  have hkept : Service.Kept P fun _ _ => True := ⟨fun _ => trivial, fun _ _ => trivial, fun _ _ _ _ => trivial⟩
  exact (hr.lifted hkept fun _ _ => trivial).dispatch?_eq_none hnone

end BuiltAround

end Router

/-! ## The way to a handler -/

/-- Where a request has got to: a service, as it is around one handler and around another one, with what it is asked,
the latest dispatch on the way, and the layers passed since. -/
structure Visit where
  service : Service
  service' : Service
  request : Request
  latest : Option Dispatch
  passed : List Layer

/-- How a request gets further in. A layer of a kind asks the service inside, and tells the same if it is transparent. A
layer that strips a prefix does so where the prefix is there. A router asks the service that answers for the method in
the table of the endpoint that it dispatches to, or in its fallback. -/
inductive Visit.Step (P : Layer → Prop) : Visit → Visit → Prop
  | layer {l : Layer} {s s' : Service} {q q' : Request} {latest : Option Dispatch} {passed : List Layer} : P l →
      (l.Transparent → q'.told = q.told) → Step P ⟨l s, l s', q, latest, passed⟩ ⟨s, s', q', latest, passed ++ [l]⟩
  | stripping {p : Pattern} {s s' : Service} {q : Request} {latest : Option Dispatch} {passed : List Layer} :
      Step P ⟨Layer.stripping p s, Layer.stripping p s', q, latest, passed⟩
        ⟨s, s', { q with uri := (p.strip? q.uri).getD q.uri }, latest, passed⟩
  | matched {r r' : Router Unit} {e e' : Endpoint Unit} {q : Request} {p : Params} {latest : Option Dispatch}
      {passed : List Layer} : Route.compile e.template .strict = .ok e.route →
      r.dispatch? q.uri.path = some (e, p) → r'.dispatch? q.uri.path = some (e', p) →
      Step P ⟨r.serve, r'.serve, q, latest, passed⟩
        ⟨e.table.answerer () q.method, e'.table.answerer () q.method, q.dispatchedBy e p,
          some ⟨e.template, e.route, q.uri.path, p⟩, []⟩
  | unmatched {r r' : Router Unit} {t t' : MethodTable Unit} {q : Request} {latest : Option Dispatch}
      {passed : List Layer} : r.dispatch? q.uri.path = none → r.fallback = some t → r'.dispatch? q.uri.path = none →
      r'.fallback = some t' →
      Step P ⟨r.serve, r'.serve, q, latest, passed⟩ ⟨t.answerer () q.method, t'.answerer () q.method, q, latest, passed⟩

/-- Any number of steps further in. -/
abbrev Visit.Leads (P : Layer → Prop) : Visit → Visit → Prop := Relation.ReflTransGen (Step P)

namespace Visit

variable {P : Layer → Prop} {v w : Visit} {before : Told}

/-- Once there was a dispatch, there is a latest one. -/
theorem Leads.latest (hsteps : Leads P v w) (h : v.latest.isSome = true) : w.latest.isSome = true := by
  induction hsteps with
  | refl => exact h
  | tail _ hstep ih => cases hstep with
    | layer | stripping | unmatched => exact ih
    | matched => rfl

end Visit

/-- Where two services differ on a request, it gets to the handlers as the one that these may differ on. -/
def Service.Reach (P : Layer → Prop) (k k' : Service) (asked : Request) (s s' : Service) : Prop :=
  ∀ request latest passed, s request ≠ s' request →
    ∃ latest' passed', Visit.Leads P ⟨s, s', request, latest, passed⟩ ⟨k, k', asked, latest', passed'⟩

namespace Service

variable {P : Layer → Prop} {k k' : Service} {asked : Request}

/-- If the layers differ, then the services inside do on some request, which tells the same if the layer is
transparent. -/
theorem exists_inner_ne {l : Layer} {s s' : Service} {request : Request} (hne : l s request ≠ l s' request) :
    ∃ inner : Request, (l.Transparent → inner.told = request.told) ∧ s inner ≠ s' inner := by
  by_cases hl : l.Transparent
  · by_contra hall
    push Not at hall
    exact hne (hl s s' request fun inner hinner => hall inner fun _ => hinner)
  · -- Such a layer may ask anything, but services that do not differ anywhere would be the same.
    have hservices : s ≠ s' := fun heq => hne (heq ▸ rfl)
    obtain ⟨inner, hinner⟩ := Function.ne_iff.1 hservices
    exact ⟨inner, fun h => absurd h hl, hinner⟩

theorem stripping_congr {p : Pattern} {s s' : Service} {request : Request}
    (h : s { request with uri := (p.strip? request.uri).getD request.uri } =
      s' { request with uri := (p.strip? request.uri).getD request.uri }) :
    Layer.stripping p s request = Layer.stripping p s' request := by
  unfold Layer.stripping
  cases hstrip : p.strip? request.uri with
  | none =>
    rw [hstrip] at h
    exact h
  | some u =>
    rw [hstrip] at h
    exact congrArg (Answer.after · _) h

/-- Layers lead further in. -/
theorem kept_reach : Kept P (Reach P k k' asked) where
  refl s request _ _ hne := absurd rfl hne
  layer := by
    intro l s s' hl h request latest passed hne
    obtain ⟨inner, htold, hne'⟩ := exists_inner_ne hne
    obtain ⟨latest', passed', hleads⟩ := h inner latest (passed ++ [l]) hne'
    exact ⟨latest', passed', .head (.layer hl htold) hleads⟩
  stripping := by
    intro p s s' h request latest passed hne
    obtain ⟨latest', passed', hleads⟩ := h _ latest passed (mt stripping_congr hne)
    exact ⟨latest', passed', .head .stripping hleads⟩

end Service

namespace Router.Lifted

variable {P : Layer → Prop} {k k' : Service} {asked : Request} {r r' : Router Unit}

/-- Routers lead further in, to an endpoint if a template matches. -/
theorem leads (h : Lifted (Service.Reach P k k' asked) r r') (hr : r.WellFormed) {request : Request}
    (hne : r.serve request ≠ r'.serve request) (latest : Option Dispatch) (passed : List Layer) :
    ∃ latest' passed', Visit.Leads P ⟨r.serve, r'.serve, request, latest, passed⟩ ⟨k, k', asked, latest', passed'⟩ ∧
      ((r.dispatch? request.uri.path).isSome = true → latest'.isSome = true) := by
  rcases Related.dispatch? h request.uri.path with ⟨hnone, hnone'⟩ | ⟨e, e', p, he, he', hrelated⟩
  · have hfallback := h.fallback
    generalize hf : r.fallback = f, hf' : r'.fallback = f' at hfallback
    cases hfallback with
    | none =>
      -- Without fallbacks, both find nothing.
      refine absurd ?_ hne
      unfold Router.serve
      dsimp only
      rw [hnone, hnone', hf, hf']
    | @some t t' ht =>
      have hanswers : t.answerer () request.method request ≠ t'.answerer () request.method request := by
        intro heq
        rw [serve_of_fallback hnone hf, serve_of_fallback hnone' hf', ht.serve_congr heq] at hne
        exact hne rfl
      obtain ⟨latest', passed', hleads⟩ := ht.answerer () request.method request latest passed hanswers
      refine ⟨latest', passed', .head (.unmatched hnone hf hnone' hf') hleads, fun hsome => ?_⟩
      rw [hnone] at hsome
      cases hsome
  · have hcompiled := hr.compiled _ (List.mem_map_of_mem (mem_of_dispatch? he))
    let inner := request.dispatchedBy e p
    have hanswers : e.table.answerer () request.method inner ≠ e'.table.answerer () request.method inner := by
      intro heq
      have hserve : e.table.serve () inner = e'.table.serve () inner := hrelated.table.serve_congr heq
      rw [serve_of_dispatch he, serve_of_dispatch he', hrelated.template, hrelated.route] at hne
      exact hne (congrArg (Answer.after · _) hserve)
    obtain ⟨latest', passed', hleads⟩ := hrelated.table.answerer () request.method inner
      (some ⟨e.template, e.route, request.uri.path, p⟩) [] hanswers
    exact ⟨latest', passed', .head (.matched hcompiled he he') hleads, fun _ => hleads.latest rfl⟩

end Router.Lifted

/-- Services around handlers that differ on one request only lead there, to any depth. -/
theorem Service.Around.reach {P : Layer → Prop} {k k' : Service} {asked : Request}
    (hagree : ∀ other, other ≠ asked → k other = k' other) : ∀ {n : Nat} {f : Service → Service},
    Service.Around P n f → Service.Reach P k k' asked (f k) (f k')
  | 0, f, hf => by
    rcases hf with rfl | ⟨s, rfl⟩
    · intro request latest passed hne
      have hasked : request = asked := by
        by_contra hother
        exact hne (hagree request hother)
      subst hasked
      exact ⟨latest, passed, .refl⟩
    · exact kept_reach.refl s
  | n + 1, f, hf => by
    rcases hf with hf | ⟨l, g, hl, hg, rfl⟩ | ⟨r, hr, rfl⟩
    · exact reach hagree hf
    · exact kept_reach.layer hl (reach hagree hg)
    · intro request latest passed hne
      have hlifted := hr.lifted kept_reach fun f hf => reach hagree hf
      obtain ⟨latest', passed', hleads, -⟩ := hlifted.leads (hr.wellFormed k) hne latest passed
      exact ⟨latest', passed', hleads⟩

/-! ## What a handler is told -/

namespace Router

end Router

end PathRouter
