/-
A layer around the routes of a router covers the handlers that are registered, each of them once, and nothing else.
The router with the layer is built further beside the one without it (`Router.Beside`): whatever steps follow, the
two stay the same but for the layer around the handlers that were there (`MethodTable.Covered`). An endpoint that has
nothing but a service for all methods is not covered, and is in the way of the layer (`Router.routeLayer_eq_ok`).
-/
import PathRouter.Proofs.Router.Lockstep

namespace PathRouter

namespace MethodTable

variable {σ : Type} {t t' : MethodTable σ}

/-! ## The verb that answers -/

/-- The verb whose handler answers requests with a method: the one for GET stands in for HEAD where there is none for
that. -/
def answering? (t : MethodTable σ) : Method → Option Verb
  | .verb .head =>
    if (t.handlers .head).isSome then some .head else if (t.handlers .get).isSome then some .get else none
  | .verb v => if (t.handlers v).isSome then some v else none
  | .custom _ => none

/-- The handler for a method is the one of the verb that answers. -/
theorem handler?_eq (t : MethodTable σ) (m : Method) : t.handler? m = (t.answering? m).bind t.handlers := by
  have hverb : ∀ v, t.handlers v = (if (t.handlers v).isSome then some v else none).bind t.handlers := by
    intro v
    cases hv : t.handlers v with
    | none => simp
    | some h => simp [hv]
  cases m with
  | custom name => rfl
  | verb v =>
    cases v with
    | head =>
      unfold handler? answering?
      cases hhead : t.handlers .head with
      | none => simpa using hverb .get
      | some h => simp [hhead]
    | get | delete | options | patch | post | put | trace | connect => exact hverb _

theorem SameShape.answering?_eq (h : t.SameShape t') (m : Method) : t'.answering? m = t.answering? m := by
  unfold answering?
  simp only [h.handlers]

end MethodTable

/-! ## The layers of later steps -/

/-- What steps put layers around: the handlers for methods, or what answers where there is none. -/
inductive LayeredPart where
  | handlers
  | fallbacks
  deriving DecidableEq, Repr

namespace Operation

variable {σ : Type}

/-- The layer that a step puts around the parts that are there. -/
def around (part : LayeredPart) : Operation σ → Layer
  | .layer l => l
  | .routeLayer l =>
    match part with
    | .handlers => l
    | .fallbacks => id
  | _ => id

/-- The layers that steps put around the parts that are there before, those of the last step outermost. -/
def allAround (part : LayeredPart) : List (Operation σ) → Layer
  | [] => id
  | op :: ops => allAround part ops ∘ op.around part

end Operation

/-- What is done to a router until it serves: steps, the state, and further steps. -/
structure Completion (σ : Type) where
  before : List (Operation σ)
  state : σ
  behind : List (Operation Unit)

namespace Completion

variable {σ : Type}

/-- The router that serves. -/
def run (c : Completion σ) (r : Router σ) : Build (Router Unit) := do
  let r ← c.before.foldlM Operation.apply r
  c.behind.foldlM Operation.apply (r.withState c.state)

theorem run_eq_ok {c : Completion σ} {r : Router σ} {r' : Router Unit} : (c.run r).result = .ok r' ↔
    ∃ r₁, (c.before.foldlM Operation.apply r).result = .ok r₁ ∧
      (c.behind.foldlM Operation.apply (r₁.withState c.state)).result = .ok r' :=
  Build.result_bind_eq_ok

/-- The layers that are put around the parts that are there. -/
def around (c : Completion σ) (part : LayeredPart) : Layer :=
  Operation.allAround part c.behind ∘ Operation.allAround part c.before

end Completion

/-! ## Tables with and without the layer -/

namespace Router

variable {σ : Type}

/-- The handler that is registered for a template and a verb. -/
def handlerFor? (r : Router σ) (t : Text) (v : Verb) : Option (Handler σ) :=
  (r.endpoints.find? (·.template == t)).bind fun e => e.table.handlers v

theorem handlerFor?_of_mem {r : Router σ} (hr : r.WellFormed) {e : Endpoint σ} (he : e ∈ r.endpoints) (v : Verb) :
    r.handlerFor? e.template v = e.table.handlers v := by
  have hfind : r.endpoints.find? (·.template == e.template) = some e := by
    cases hf : r.endpoints.find? (·.template == e.template) with
    | none => exact absurd (beq_self_eq_true e.template) (List.find?_eq_none.1 hf e he)
    | some e' =>
      -- No two endpoints have one template, so the first one with it is this one.
      have ht : e'.template = e.template := by simpa using List.find?_some hf
      rw [List.inj_on_of_nodup_map hr.nodup (List.mem_of_find?_eq_some hf) he ht]
  rw [handlerFor?, hfind]
  rfl

theorem handlerFor?_of_not_mem {r : Router σ} {t : Text} (ht : t ∉ r.templates) (v : Verb) :
    r.handlerFor? t v = none := by
  have hfind : r.endpoints.find? (·.template == t) = none :=
    List.find?_eq_none.2 fun e he heq => ht (List.mem_map.2 ⟨e, he, beq_iff_eq.1 heq⟩)
  rw [handlerFor?, hfind]
  rfl

theorem handlerFor?_withState (r : Router σ) (s : σ) (t : Text) (v : Verb) :
    (r.withState s).handlerFor? t v = (r.handlerFor? t v).map fun h _ => h s := by
  unfold handlerFor? withState
  rw [List.find?_map, Option.bind_map, Option.map_bind]
  rfl

end Router

/-- Two tables for a template, with and without a layer around the handlers that a router has for the template. Other
layers are around both, and all else is the same. -/
structure MethodTable.Covered {σ : Type} (r : Router σ) (l outer : Layer) (t : Text) (a b : MethodTable σ) : Prop where
  covered : ∀ v h, r.handlerFor? t v = some h →
    a.handlers v = some (fun s => outer (l (h s))) ∧ b.handlers v = some fun s => outer (h s)
  others : ∀ v, r.handlerFor? t v = none → a.handlers v = b.handlers v
  fallback : a.fallback = b.fallback
  allow : a.allow = b.allow

namespace MethodTable.Covered

variable {σ : Type} {r : Router σ} {l outer : Layer} {t : Text} {a b : MethodTable σ}

/-- Under a new template there is nothing to cover. -/
theorem of_not_mem (ht : t ∉ r.templates) (u : MethodTable σ) : Covered r l outer t u u := by
  refine ⟨fun v h hv => ?_, fun _ _ => rfl, rfl, rfl⟩
  rw [Router.handlerFor?_of_not_mem ht v] at hv
  cases hv

theorem sameShape (h : Covered r l outer t a b) : a.SameShape b := by
  refine ⟨fun v => ?_, by rw [h.fallback]⟩
  cases hv : r.handlerFor? t v with
  | none => rw [h.others v hv]
  | some k =>
    obtain ⟨ha, hb⟩ := h.covered v k hv
    rw [ha, hb]
    rfl

/-- What is merged into both tables is not covered. -/
theorem merge (h : Covered r l outer t a b) {u a' : MethodTable σ} (ha : a.merge u = .ok a') :
    ∃ b', b.merge u = .ok b' ∧ Covered r l outer t a' b' := by
  obtain ⟨b', hb, -⟩ := h.sameShape.merge (.refl u) ha
  refine ⟨b', hb, ?_⟩
  obtain ⟨-, f, hf, rfl⟩ := merge_eq_ok.1 ha
  obtain ⟨-, g, hg, rfl⟩ := merge_eq_ok.1 hb
  rw [h.fallback] at hf
  refine ⟨fun v k hv => ?_, fun v hv => ?_, Option.some.inj (hf.symm.trans hg), ?_⟩
  · obtain ⟨hak, hbk⟩ := h.covered v k hv
    exact ⟨by simp only [hak, Option.some_or], by simp only [hbk, Option.some_or]⟩
  · simp only [h.others v hv]
  · simp only [h.allow]

/-- One more layer around all handlers is around the covered ones as well. -/
theorem mapHandlers (h : Covered r l outer t a b) (m : Layer) :
    Covered r l (m ∘ outer) t (a.mapHandlers m) (b.mapHandlers m) := by
  refine ⟨fun v k hv => ?_, fun v hv => ?_, h.fallback, h.allow⟩
  · obtain ⟨ha, hb⟩ := h.covered v k hv
    exact ⟨by simp [MethodTable.mapHandlers, ha], by simp [MethodTable.mapHandlers, hb]⟩
  · simp only [MethodTable.mapHandlers, h.others v hv]

theorem layer (h : Covered r l outer t a b) (m : Layer) : Covered r l (m ∘ outer) t (a.layer m) (b.layer m) :=
  have hhandlers := h.mapHandlers m
  ⟨hhandlers.covered, hhandlers.others, congrArg (Fallback.mapService m) h.fallback, h.allow⟩

theorem withState (h : Covered r l outer t a b) (s : σ) :
    Covered (r.withState s) l outer t (a.withState s) (b.withState s) := by
  refine ⟨fun v k hv => ?_, fun v hv => ?_, congrArg (Fallback.withState s) h.fallback, h.allow⟩
  · rw [Router.handlerFor?_withState] at hv
    obtain ⟨k, hk, rfl⟩ := Option.map_eq_some_iff.1 hv
    obtain ⟨ha, hb⟩ := h.covered v k hk
    exact ⟨by simp [MethodTable.withState, ha], by simp [MethodTable.withState, hb]⟩
  · rw [Router.handlerFor?_withState] at hv
    simp only [MethodTable.withState, h.others v (Option.map_eq_none_iff.1 hv)]

/-- Where the verb that answers is covered, the answers are those of the handler with and without the layer. -/
theorem handler? (h : Covered r l outer t a b) {m : Method} {v : Verb} (hv : a.answering? m = some v) {k : Handler σ}
    (hk : r.handlerFor? t v = some k) :
    a.handler? m = some (fun s => outer (l (k s))) ∧ b.handler? m = some fun s => outer (k s) := by
  rw [handler?_eq, handler?_eq, h.sameShape.answering?_eq, hv]
  exact h.covered v k hk

/-- Where it is not, or where none answers, both tables answer alike. -/
theorem serve (h : Covered r l outer t a b) (request : Request)
    (hnone : ∀ v, a.answering? request.method = some v → r.handlerFor? t v = none) (s : σ) :
    a.serve s request = b.serve s request := by
  have hhandler : a.handler? request.method = b.handler? request.method := by
    rw [handler?_eq, handler?_eq, h.sameShape.answering?_eq]
    cases hv : a.answering? request.method with
    | none => rfl
    | some v => exact h.others v (hnone v hv)
  rw [MethodTable.serve, MethodTable.serve, hhandler, h.fallback, h.allow]

end MethodTable.Covered

/-! ## Building with and without the layer -/

namespace Router

variable {σ : Type}

/-- A router with a layer around the handlers of an earlier one, and the same router without it. -/
structure Beside (r : Router σ) (l outer : Layer) (a b : Router σ) : Prop where
  related : Related (MethodTable.Covered r l outer) Eq a b
  kept : r.templates ⊆ a.templates

namespace Beside

variable {r a b a' : Router σ} {l outer : Layer}

/-- At first the layer is all that makes a difference. -/
theorem first (hr : r.WellFormed) (l : Layer) :
    Beside r l id { r with endpoints := r.endpoints.map (·.mapTable (·.mapHandlers l)) } r := by
  refine ⟨⟨?_, rfl⟩, ?_⟩
  · rw [List.forall₂_map_left_iff, List.forall₂_same]
    refine fun e he => ⟨rfl, rfl, fun v h hv => ?_, fun v hv => ?_, rfl, rfl⟩
    · have hh : e.table.handlers v = some h := (handlerFor?_of_mem hr he v).symm.trans hv
      exact ⟨by simp [Endpoint.mapTable, MethodTable.mapHandlers, hh], hh⟩
    · have hh : e.table.handlers v = none := (handlerFor?_of_mem hr he v).symm.trans hv
      simp [Endpoint.mapTable, MethodTable.mapHandlers, hh]
  · rw [templates, templates, List.map_map]
    exact List.Subset.refl _

theorem subset_of_changes (h : Beside r l outer a b) (hstep : AnyChanges a a') : r.templates ⊆ a'.templates :=
  fun _ ht => hstep.kept.templates.subset (h.kept ht)

theorem route (h : Beside r l outer a b) {t : Text} {u : MethodTable σ} (ha : (a.route t u).result = .ok a') :
    ∃ b', (b.route t u).result = .ok b' ∧ Beside r l outer a' b' := by
  obtain ⟨b', hb, hrelated⟩ := h.related.route (fun _ _ _ hQ hm => hQ.merge hm)
    (fun ht => .of_not_mem (fun hmem => ht (h.kept hmem)) u) ha
  exact ⟨b', hb, hrelated, h.subset_of_changes (changes_route (fun _ _ => trivial) ha)⟩

theorem mergeEndpoint (h : Beside r l outer a b) {e : Endpoint σ} (ha : (a.mergeEndpoint e).result = .ok a') :
    ∃ b', (b.mergeEndpoint e).result = .ok b' ∧ Beside r l outer a' b' := by
  obtain ⟨b', hb, hrelated⟩ := h.related.mergeEndpoint rfl rfl (fun _ _ _ hQ hm => hQ.merge hm)
    (fun ht => .of_not_mem (fun hmem => ht (h.kept hmem)) e.table) ha
  exact ⟨b', hb, hrelated, h.subset_of_changes (changes_mergeEndpoint trivial ha)⟩

theorem withFallback (h : Beside r l outer a b) {f g : Option (MethodTable σ)} (hf : f = g) :
    Beside r l outer { a with fallback := f } { b with fallback := g } :=
  ⟨⟨h.related.endpoints, hf⟩, h.kept⟩

theorem merge (h : Beside r l outer a b) {other : Router σ} (ha : (a.merge other).result = .ok a') :
    ∃ b', (b.merge other).result = .ok b' ∧ Beside r l outer a' b' := by
  obtain ⟨a₁, ha₁, rfl⟩ := merge_eq_ok.1 ha
  obtain ⟨b₁, hb₁, h₁⟩ := Build.foldlM_lockstep (R := Eq) (P := Beside r l outer)
    (fun _ _ e e' _ hP he hstep => he ▸ hP.mergeEndpoint hstep) (List.forall₂_same.2 fun _ _ => rfl) h ha₁
  exact ⟨_, merge_eq_ok.2 ⟨b₁, hb₁, rfl⟩, h₁.withFallback (by rw [h₁.related.fallback])⟩

theorem nest (h : Beside r l outer a b) {front : Text} {inner : Router σ} (ha : (a.nest front inner).result = .ok a') :
    ∃ b', (b.nest front inner).result = .ok b' ∧ Beside r l outer a' b' := by
  obtain ⟨strip, a₁, hstrip, ha₁, ha⟩ := nest_eq_ok.1 ha
  obtain ⟨b₁, hb₁, h₁⟩ := Build.foldlM_lockstep (R := Eq) (P := Beside r l outer)
    (fun _ _ e e' _ hP he hstep => he ▸ hP.route hstep) (List.forall₂_same.2 fun _ _ => rfl) h ha₁
  rcases ha with ⟨hnone, rfl⟩ | ⟨fallback, hfallback, ha⟩
  · exact ⟨b₁, nest_eq_ok.2 ⟨strip, b₁, hstrip, hb₁, .inl ⟨hnone, rfl⟩⟩, h₁⟩
  · obtain ⟨b', hb', h'⟩ := h₁.route ha
    exact ⟨b', nest_eq_ok.2 ⟨strip, b₁, hstrip, hb₁, .inr ⟨fallback, hfallback, hb'⟩⟩, h'⟩

theorem nestService (h : Beside r l outer a b) {front : Text} {s : Service}
    (ha : (a.nestService front s).result = .ok a') : ∃ b', (b.nestService front s).result = .ok b' ∧
      Beside r l outer a' b' := by
  obtain ⟨strip, hstrip, ha⟩ := nestService_eq_ok.1 ha
  obtain ⟨b', hb', h'⟩ := h.route ha
  exact ⟨b', nestService_eq_ok.2 ⟨strip, hstrip, hb'⟩, h'⟩

theorem layer (h : Beside r l outer a b) (m : Layer) : Beside r l (m ∘ outer) (a.layer m) (b.layer m) := by
  refine ⟨⟨h.related.mapTables fun _ _ _ hQ => hQ.layer m, ?_⟩, ?_⟩
  · show some ((a.fallback.getD _).layer m) = some ((b.fallback.getD _).layer m)
    rw [h.related.fallback]
  · rw [templates_eq (a.layer m), registered_layer, ← templates_eq]
    exact h.kept

theorem routeLayer (h : Beside r l outer a b) {m : Layer} (ha : (a.routeLayer m).result = .ok a') :
    ∃ b', (b.routeLayer m).result = .ok b' ∧ Beside r l (m ∘ outer) a' b' := by
  have hkept := (grows_routeLayer ha).templates_kept
  obtain ⟨hall, rfl⟩ := routeLayer_eq_ok.1 ha
  -- The tables have handlers for the same verbs, so the one router takes the layer if the other does.
  have hall' : ∀ e' ∈ b.endpoints, ∃ v, (e'.table.handlers v).isSome = true := by
    intro e' he'
    obtain ⟨e, he, hrelated⟩ := h.related.exists_left he'
    obtain ⟨v, hv⟩ := hall e he
    exact ⟨v, (hrelated.table.sameShape.handlers v).trans hv⟩
  exact ⟨_, routeLayer_eq_ok.2 ⟨hall', rfl⟩, ⟨h.related.mapTables fun _ _ _ hQ => hQ.mapHandlers m, h.related.fallback⟩,
    fun _ ht => hkept.subset (h.kept ht)⟩

/-- A step that can be made with the layer can be made without it, and leaves no other difference. -/
theorem apply (h : Beside r l outer a b) {op : Operation σ} (ha : (op.apply a).result = .ok a') :
    ∃ b', (op.apply b).result = .ok b' ∧ Beside r l (op.around .handlers ∘ outer) a' b' := by
  cases op with
  | route t u => exact h.route ha
  | routeService t s => exact h.route ha
  | merge other => exact h.merge ha
  | nest front inner => exact h.nest ha
  | nestService front s => exact h.nestService ha
  | fallback k =>
    cases ha
    exact ⟨_, rfl, h.withFallback rfl⟩
  | fallbackService s =>
    cases ha
    exact ⟨_, rfl, h.withFallback rfl⟩
  | layer m =>
    cases ha
    exact ⟨_, rfl, h.layer m⟩
  | routeLayer m => exact h.routeLayer ha

/-- Steps that can be made with the layer can be made without it, and leave no other difference. -/
theorem run : ∀ {ops : List (Operation σ)} {a b a' : Router σ} {outer : Layer}, Beside r l outer a b →
    (ops.foldlM Operation.apply a).result = .ok a' → ∃ b', (ops.foldlM Operation.apply b).result = .ok b' ∧
      Beside r l (Operation.allAround .handlers ops ∘ outer) a' b'
  | [], _, b, _, _, h, ha => by
    cases ha
    exact ⟨b, rfl, h⟩
  | op :: ops, a, b, a', outer, h, ha => by
    rw [List.foldlM_cons, Build.result_bind_eq_ok] at ha
    obtain ⟨a₁, ha₁, ha⟩ := ha
    obtain ⟨b₁, hb₁, h₁⟩ := h.apply ha₁
    obtain ⟨b', hb', h'⟩ := run h₁ ha
    rw [List.foldlM_cons]
    exact ⟨b', Build.result_bind_eq_ok.2 ⟨b₁, hb₁, hb'⟩, h'⟩

theorem withState (h : Beside r l outer a b) (s : σ) :
    Beside (r.withState s) l outer (a.withState s) (b.withState s) := by
  have hfallback : (a.withState s).fallback = (b.withState s).fallback := by
    rw [Router.withState, Router.withState, h.related.fallback]
  refine ⟨⟨h.related.mapTables fun _ _ _ hQ => hQ.withState s, hfallback⟩, ?_⟩
  rw [templates_eq, templates_eq, registered_withState, registered_withState, ← templates_eq, ← templates_eq]
  exact h.kept

/-- What a covered handler answers, it answers with the layer in the one router and without it in the other. -/
theorem serve_covered {r a b : Router Unit} (h : Beside r l outer a b) {request : Request} {e : Endpoint Unit}
    {p : Params}
    (he : a.dispatch? request.uri.path = some (e, p)) {v : Verb} (hv : e.table.answering? request.method = some v)
    {k : Handler Unit} (hk : r.handlerFor? e.template v = some k) :
    a.serve request = ((outer (l (k ())) (request.dispatchedBy e p)).map (MethodTable.finish request none)).after
      [.matched request.uri.path e.template] ∧
    b.serve request = ((outer (k ()) (request.dispatchedBy e p)).map (MethodTable.finish request none)).after
      [.matched request.uri.path e.template] := by
  rcases h.related.dispatch? request.uri.path with ⟨hnone, -⟩ | ⟨e₁, e', p₁, he₁, he', hrelated⟩
  · cases hnone.symm.trans he
  · cases he₁.symm.trans he
    obtain ⟨ha, hb⟩ := hrelated.table.handler? hv hk
    have hserve := serve_by_handler he' hb ()
    rw [Request.dispatchedBy, hrelated.template, hrelated.route, withState_unit] at hserve
    rw [← withState_unit a]
    exact ⟨serve_by_handler he ha (), hserve⟩

/-- Everything else is answered alike. -/
theorem serve_others {r a b : Router Unit} (h : Beside r l outer a b) {request : Request}
    (hnone : ∀ e p v, a.dispatch? request.uri.path = some (e, p) → e.table.answering? request.method = some v →
      r.handlerFor? e.template v = none) : a.serve request = b.serve request := by
  rcases h.related.dispatch? request.uri.path with ⟨ha, hb⟩ | ⟨e, e', p, he, he', hrelated⟩
  · unfold serve
    dsimp only
    rw [ha, hb, h.related.fallback]
  · have hserve : e.table.serve () (request.dispatchedBy e p) = e'.table.serve () (request.dispatchedBy e p) :=
      hrelated.table.serve (request.dispatchedBy e p) (fun v hv => hnone e p v he hv) ()
    rw [serve_of_dispatch he, serve_of_dispatch he', hrelated.template, hrelated.route]
    exact congrArg (Answer.after · _) hserve

end Beside

/-- A layer around the routes of a router covers what is registered. It can be put there if every endpoint has a
handler for some method. Whatever is done then until the router serves, the same can be done without the layer. A
request that is answered by a handler from before the layer, in the endpoint it was registered in, passes the layer
once, inside of the layers of the later steps, and is else answered as it is without the layer. Every other request is
answered as it is without it: what goes to a later endpoint or to a handler added later, to an endpoint's service for
all methods or its list of methods, or to the fallback. -/
theorem Reachable.routeLayer_covers {r : Router σ} (hr : r.Reachable) (l : Layer) :
    ((∃ r₁, (r.routeLayer l).result = .ok r₁) ↔ ∀ e ∈ r.endpoints, ∃ v, (e.table.handlers v).isSome = true) ∧
    ∀ r₁, (r.routeLayer l).result = .ok r₁ → ∀ (c : Completion σ) (r' : Router Unit), (c.run r₁).result = .ok r' →
      ∃ b, (c.run r).result = .ok b ∧ ∀ request : Request,
        (∀ e p v h, r'.dispatch? request.uri.path = some (e, p) → e.table.answering? request.method = some v →
          r.handlerFor? e.template v = some h →
          r'.serve request = ((c.around .handlers (l (h c.state)) (request.dispatchedBy e p)).map
            (MethodTable.finish request none)).after [.matched request.uri.path e.template] ∧
          b.serve request = ((c.around .handlers (h c.state) (request.dispatchedBy e p)).map
            (MethodTable.finish request none)).after [.matched request.uri.path e.template]) ∧
        ((∀ e p v, r'.dispatch? request.uri.path = some (e, p) → e.table.answering? request.method = some v →
          r.handlerFor? e.template v = none) → r'.serve request = b.serve request) := by
  constructor
  · constructor
    · rintro ⟨r₁, h₁⟩
      exact (routeLayer_eq_ok.1 h₁).1
    · exact fun h => ⟨_, routeLayer_eq_ok.2 ⟨h, rfl⟩⟩
  · intro r₁ h₁ c r' hrun
    obtain ⟨-, rfl⟩ := routeLayer_eq_ok.1 h₁
    -- The two routers stay beside each other before the state is given, when it is given, and after that.
    obtain ⟨r₂, h₂, hbehind⟩ := Completion.run_eq_ok.1 hrun
    obtain ⟨b₂, hb₂, hbeside₂⟩ := (Beside.first hr.wellFormed l).run h₂
    obtain ⟨b, hb, hbeside⟩ := (hbeside₂.withState c.state).run hbehind
    refine ⟨b, Completion.run_eq_ok.2 ⟨b₂, hb₂, hb⟩, fun request => ⟨fun e p v h he hv hh => ?_, fun hnone => ?_⟩⟩
    · have hk : (r.withState c.state).handlerFor? e.template v = some fun _ => h c.state := by
        rw [handlerFor?_withState, hh]
        rfl
      exact hbeside.serve_covered he hv hk
    · refine hbeside.serve_others fun e p v he hv => ?_
      rw [handlerFor?_withState, hnone e p v he hv]
      rfl

/-- The handler that was there passes the layer, inside of the layer that follows; the fallback does not. -/
theorem Reachable.routeLayer_covers_get : ∃ (r r₁ r' : Router Unit) (h : Handler Unit),
    (r.routeLayer (.tagged "inner".toList)).result = .ok r₁ ∧
    ([.layer (.tagged "outer".toList), .fallback h].foldlM Operation.apply r₁).result = .ok r' ∧
    ∃ found missing : Request, (r'.serve found).response.status = 200 ∧
      (r'.serve found).response.passages.map (·.tag) = ["inner".toList, "outer".toList] ∧
      (r'.serve missing).response.status = 203 ∧ (r'.serve missing).response.passages = [] := by
  let handler (status : Nat) : Handler Unit := fun _ => .constant (.plain status [])
  let c : Completion Unit := ⟨[.layer (.tagged "outer".toList), .fallback (handler 203)], (), []⟩
  let found : Request := .new (.verb .get) ⟨none, none, "/a".toList, none⟩
  let missing : Request := .new (.verb .get) ⟨none, none, "/b".toList, none⟩
  obtain ⟨route, hroute, hfound, hmissing⟩ : ∃ route, Route.compile "/a".toList .strict = .ok route ∧
      (route.exec "/a".toList).isSome = true ∧ route.exec "/b".toList = none := ⟨_, rfl, rfl, rfl⟩
  obtain ⟨p, hp⟩ := Option.isSome_iff_exists.1 hfound
  let r : Router Unit := ⟨[⟨"/a".toList, route, .on [.get] (handler 200)⟩], none⟩
  have hr : r.Reachable := reachable_route (route_of_fresh List.not_mem_nil hroute _)
  obtain ⟨hbuilt, hcovers⟩ := Reachable.routeLayer_covers hr (.tagged "inner".toList)
  obtain ⟨r₁, h₁⟩ := hbuilt.2 (List.forall_mem_singleton.2 ⟨.get, rfl⟩)
  obtain ⟨-, rfl⟩ := routeLayer_eq_ok.1 h₁
  obtain ⟨b, hb, hanswers⟩ := hcovers _ h₁ c _ rfl
  cases hb
  refine ⟨r, _, _, handler 203, h₁, rfl, found, missing, ?_⟩
  have hcovered := ((hanswers found).1 _ p .get (handler 200) (dispatch?_singleton hp) rfl rfl).1
  have hnone : ∀ table fallback,
      (⟨[⟨"/a".toList, route, table⟩], fallback⟩ : Router Unit).dispatch? missing.uri.path = none :=
    fun table fallback => dispatch?_eq_none_iff.2 (List.forall_mem_singleton.2 hmissing)
  have hother := (hanswers missing).2 fun e p v he => by cases (hnone _ _).symm.trans he
  have hlayered : ((r.layer (.tagged "outer".toList)).withFallback (handler 203)).dispatch? missing.uri.path =
      none := hnone _ _
  rw [serve_withState_of_none hlayered] at hother
  rw [withState_unit] at hcovered hother
  rw [hcovered, hother]
  exact ⟨rfl, rfl, rfl, rfl⟩

/-- A service for all methods is in the way of a layer around the routes, and next to a handler it is left out. -/
theorem Reachable.routeLayer_service : ∃ r r' r₁ : Router Unit, r.Reachable ∧ r'.Reachable ∧
    (∀ l, (r.routeLayer l).result = .error .layerBeforeRoutes) ∧
    (r'.routeLayer (.tagged "layer".toList)).result = .ok r₁ ∧
    ∃ request e p, r'.dispatch? request.uri.path = some (e, p) ∧ (r₁.serve request).response = .plain 200 [] := by
  let service : Service := .constant (.plain 200 [])
  let request : Request := .new (.verb .post) ⟨none, none, "/a".toList, none⟩
  obtain ⟨route, hroute, hexec⟩ : ∃ route, Route.compile "/a".toList .strict = .ok route ∧
      (route.exec "/a".toList).isSome = true := ⟨_, rfl, rfl⟩
  obtain ⟨p, hp⟩ := Option.isSome_iff_exists.1 hexec
  let table : MethodTable Unit := .any fun _ => service
  let mixed : MethodTable Unit :=
    { MethodTable.on [.get] (fun _ => service) with fallback := .custom fun _ => service, allow := .skip }
  let r : Router Unit := ⟨[⟨"/a".toList, route, table⟩], none⟩
  let r' : Router Unit := ⟨[⟨"/a".toList, route, mixed⟩], none⟩
  have hr : r.Reachable := reachable_route (route_of_fresh List.not_mem_nil hroute _)
  have hr' : r'.Reachable := reachable_route (route_of_fresh List.not_mem_nil hroute _)
  let e : Endpoint Unit := ⟨"/a".toList, route, mixed.mapHandlers (Layer.tagged "layer".toList)⟩
  have hr₁ : (r'.routeLayer (.tagged "layer".toList)).result = .ok ⟨[e], none⟩ :=
    routeLayer_eq_ok.2 ⟨List.forall_mem_singleton.2 ⟨.get, rfl⟩, rfl⟩
  have he : (⟨[e], none⟩ : Router Unit).dispatch? request.uri.path = some (e, p) := dispatch?_singleton hp
  refine ⟨r, r', _, hr, hr', fun l => rfl, hr₁, request, _, p, dispatch?_singleton hp, ?_⟩
  rw [serve_of_dispatch he]
  rfl

end Router

end PathRouter
