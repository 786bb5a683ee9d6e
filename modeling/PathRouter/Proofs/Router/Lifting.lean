/-
Relations between services, carried over to what is made of services. Tables are related if their handlers are, verb by
verb, and their fallbacks (`MethodTable.Lifted`); routers if they have the same templates with the same routes and their
tables are (`Router.Lifted`). Where layers keep the relation (`Service.Kept`), all building steps do so: a step that can
be made on the one router can be made on the other.
-/
import PathRouter.Proofs.Router.Flatten
import PathRouter.Proofs.Router.Lockstep
import PathRouter.Proofs.Router.Union

namespace PathRouter

/-! ## Related options -/

section Options

variable {α β γ δ : Type} {R : α → β → Prop} {a a' : Option α} {b b' : Option β}

theorem isSome_of_rel (h : Option.Rel R a b) : b.isSome = a.isSome := by
  cases h <;> rfl

theorem rel_or (h : Option.Rel R a b) (h' : Option.Rel R a' b') : Option.Rel R (a.or a') (b.or b') := by
  cases h with
  | none => exact h'
  | some hx => exact .some hx

theorem rel_map {S : γ → δ → Prop} {f : α → γ} {g : β → δ} (hfg : ∀ x y, R x y → S (f x) (g y))
    (h : Option.Rel R a b) : Option.Rel S (a.map f) (b.map g) := by
  cases h with
  | none => exact .none
  | some hx => exact .some (hfg _ _ hx)

theorem rel_getD {c : α} {d : β} (h : Option.Rel R a b) (hcd : R c d) : R (a.getD c) (b.getD d) := by
  cases h with
  | none => exact hcd
  | some hx => exact hx

end Options

/-! ## Services -/

/-- A relation between services that holds of each and itself, and that is kept by layers of a kind, and by those that
strip a prefix. -/
structure Service.Kept (P : Layer → Prop) (S : Service → Service → Prop) : Prop where
  refl : ∀ s, S s s
  layer : ∀ {l : Layer} {s s' : Service}, P l → S s s' → S (l s) (l s')
  stripping : ∀ (p : Pattern) {s s' : Service}, S s s' → S (Layer.stripping p s) (Layer.stripping p s')

variable {σ : Type} {S : Service → Service → Prop}

/-- Two handlers are related with any state. -/
def Handler.Lifted (S : Service → Service → Prop) (h h' : Handler σ) : Prop :=
  ∀ s, S (h s) (h' s)

/-! ## Fallbacks and tables -/

/-- Two fallbacks are of one kind and related. -/
inductive Fallback.Lifted (S : Service → Service → Prop) : Fallback σ → Fallback σ → Prop
  | standard {s s' : Service} : S s s' → Lifted S (.standard s) (.standard s')
  | custom {h h' : Handler σ} : Handler.Lifted S h h' → Lifted S (.custom h) (.custom h')

/-- Two tables have handlers for the same verbs, which are related, and so are their fallbacks. -/
structure MethodTable.Lifted (S : Service → Service → Prop) (t t' : MethodTable σ) : Prop where
  handlers : ∀ v, Option.Rel (Handler.Lifted S) (t.handlers v) (t'.handlers v)
  fallback : Fallback.Lifted S t.fallback t'.fallback
  allow : t'.allow = t.allow

namespace Fallback.Lifted

variable {f f' g g' : Fallback σ}

theorem isCustom (h : Lifted S f f') : f'.isCustom = f.isCustom := by
  cases h <;> rfl

theorem union (h : Lifted S f f') (hg : Lifted S g g') : Lifted S (f.union g) (f'.union g') := by
  cases h with
  | standard => exact hg
  | custom h => exact .custom h

theorem mapService {l : Layer} (hl : ∀ s s', S s s' → S (l s) (l s')) (h : Lifted S f f') :
    Lifted S (f.mapService l) (f'.mapService l) := by
  cases h with
  | standard h => exact .standard (hl _ _ h)
  | custom h => exact .custom fun s => hl _ _ (h s)

theorem withState (h : Lifted S f f') (s : σ) : Lifted S (f.withState s) (f'.withState s) := by
  cases h with
  | standard h => exact .standard h
  | custom h => exact .custom fun _ => h s

theorem service (h : Lifted S f f') (s : σ) : S (f.service s) (f'.service s) := by
  cases h with
  | standard h => exact h
  | custom h => exact h s

end Fallback.Lifted

/-- The service that answers requests with a method, with the state: the handler for it, or the fallback. -/
def MethodTable.answerer (t : MethodTable σ) (s : σ) (m : Method) : Service :=
  match t.handler? m with
  | some h => h s
  | none => t.fallback.service s

namespace MethodTable.Lifted

variable {t t' u u' : MethodTable σ}

theorem sameShape (h : Lifted S t t') : t.SameShape t' where
  handlers v := isSome_of_rel (h.handlers v)
  fallback := h.fallback.isCustom

theorem union (h : Lifted S t t') (hu : Lifted S u u') : Lifted S (t.union u) (t'.union u') where
  handlers v := rel_or (h.handlers v) (hu.handlers v)
  fallback := h.fallback.union hu.fallback
  allow := by
    unfold MethodTable.union
    rw [h.allow, hu.allow]

/-- Related tables can be merged alike, into related tables. -/
theorem merge (h : Lifted S t t') (hu : Lifted S u u') {w : MethodTable σ} (hw : t.merge u = .ok w) :
    ∃ w', t'.merge u' = .ok w' ∧ Lifted S w w' := by
  obtain ⟨w', hw', -⟩ := h.sameShape.merge hu.sameShape hw
  refine ⟨w', hw', ?_⟩
  rw [(merge_eq_ok_union.1 hw).2, (merge_eq_ok_union.1 hw').2]
  exact h.union hu

theorem mapHandlers {l : Layer} (hl : ∀ s s', S s s' → S (l s) (l s')) (h : Lifted S t t') :
    Lifted S (t.mapHandlers l) (t'.mapHandlers l) where
  handlers v := rel_map (fun _ _ hv s => hl _ _ (hv s)) (h.handlers v)
  fallback := h.fallback
  allow := h.allow

theorem layer {l : Layer} (hl : ∀ s s', S s s' → S (l s) (l s')) (h : Lifted S t t') :
    Lifted S (t.layer l) (t'.layer l) where
  handlers := (h.mapHandlers hl).handlers
  fallback := h.fallback.mapService hl
  allow := h.allow

theorem withState (h : Lifted S t t') (s : σ) : Lifted S (t.withState s) (t'.withState s) where
  handlers v := rel_map (fun _ _ hv _ => hv s) (h.handlers v)
  fallback := h.fallback.withState s
  allow := h.allow

theorem any {h h' : Handler σ} (hh : Handler.Lifted S h h') : Lifted S (.any h) (.any h') :=
  ⟨fun _ => .none, .custom hh, rfl⟩

theorem handler? (h : Lifted S t t') (m : Method) :
    Option.Rel (Handler.Lifted S) (t.handler? m) (t'.handler? m) := by
  unfold MethodTable.handler?
  split
  · exact rel_or (h.handlers .head) (h.handlers .get)
  · exact h.handlers _
  · exact .none

theorem answerer (h : Lifted S t t') (s : σ) (m : Method) : S (t.answerer s m) (t'.answerer s m) := by
  have hhandler := h.handler? m
  unfold MethodTable.answerer
  generalize t.handler? m = handler, t'.handler? m = handler' at hhandler
  cases hhandler with
  | none => exact h.fallback.service s
  | some hv => exact hv s

/-- Where the services that answer say the same, so do related tables. -/
theorem serve_congr (h : Lifted S t t') {s : σ} {request : Request}
    (heq : t.answerer s request.method request = t'.answerer s request.method request) :
    t.serve s request = t'.serve s request := by
  have hhandler := h.handler? request.method
  unfold MethodTable.answerer at heq
  unfold MethodTable.serve
  rw [h.allow]
  generalize t.handler? request.method = handler, t'.handler? request.method = handler' at hhandler heq
  cases hhandler with
  | none => exact congrArg (Answer.map · _) heq
  | some => exact congrArg (Answer.map · _) heq

end MethodTable.Lifted

/-! ## Routers -/

/-- Two routers have the same templates with the same routes, related tables, and no fallbacks or related ones. -/
abbrev Router.Lifted (S : Service → Service → Prop) : Router σ → Router σ → Prop :=
  Router.Related (fun _ => MethodTable.Lifted S) (Option.Rel (MethodTable.Lifted S))

namespace Router.Lifted

variable {P : Layer → Prop} {r r' o o' r₁ : Router σ}

theorem empty : Lifted S (empty : Router σ) Router.empty :=
  ⟨.nil, .none⟩

theorem route (h : Lifted S r r') {t : Text} {u u' : MethodTable σ} (hu : MethodTable.Lifted S u u')
    (hr₁ : (r.route t u).result = .ok r₁) : ∃ r₁', (r'.route t u').result = .ok r₁' ∧ Lifted S r₁ r₁' :=
  Related.route h (fun _ _ _ ha hb => ha.merge hu hb) (fun _ => hu) hr₁

theorem merge (h : Lifted S r r') (ho : Lifted S o o') (hr₁ : (r.merge o).result = .ok r₁) :
    ∃ r₁', (r'.merge o').result = .ok r₁' ∧ Lifted S r₁ r₁' := by
  obtain ⟨r₂, hr₂, rfl⟩ := merge_eq_ok.1 hr₁
  obtain ⟨r₂', hr₂', hlifted⟩ := Build.foldlM_lockstep (P := Lifted S)
    (fun _ _ _ _ _ hb he hstep => Related.mergeEndpoint hb he.template he.route
      (fun _ _ _ ha hm => ha.merge he.table hm) (fun _ => he.table) hstep) ho.endpoints h hr₂
  exact ⟨_, merge_eq_ok.2 ⟨r₂', hr₂', rfl⟩, hlifted.endpoints, rel_or ho.fallback hlifted.fallback⟩

theorem nest (hS : Service.Kept P S) (h : Lifted S r r') (ho : Lifted S o o') {front : Text}
    (hr₁ : (r.nest front o).result = .ok r₁) : ∃ r₁', (r'.nest front o').result = .ok r₁' ∧ Lifted S r₁ r₁' := by
  obtain ⟨strip, r₂, hstrip, hr₂, hfallback⟩ := nest_eq_ok.1 hr₁
  obtain ⟨outer, -, rfl⟩ := nestLayer_eq_ok hstrip
  have hl : ∀ s s', S s s' → S (Layer.stripping outer.pattern s) (Layer.stripping outer.pattern s') :=
    fun _ _ => hS.stripping outer.pattern
  have hstep : ∀ (b b' : Router σ) (e e' : Endpoint σ) (b₁ : Router σ), Lifted S b b' →
      Endpoint.Related (fun _ => MethodTable.Lifted S) e e' →
      (b.route (Template.join front e.template) (e.table.layer (.stripping outer.pattern))).result = .ok b₁ →
      ∃ b₁', (b'.route (Template.join front e'.template) (e'.table.layer (.stripping outer.pattern))).result =
        .ok b₁' ∧ Lifted S b₁ b₁' := by
    intro b b' e e' b₁ hb he hb₁
    rw [he.template]
    exact hb.route (he.table.layer hl) hb₁
  obtain ⟨r₂', hr₂', hlifted⟩ := Build.foldlM_lockstep hstep ho.endpoints h hr₂
  -- Neither inner router has a fallback, or both have one, which becomes one more endpoint.
  have hrel := ho.fallback
  rcases hfallback with ⟨hnone, rfl⟩ | ⟨fallback, hsome, hr₁⟩
  · rw [hnone] at hrel
    generalize hf : o'.fallback = f' at hrel
    cases hrel
    exact ⟨r₂', nest_eq_ok.2 ⟨_, r₂', hstrip, hr₂', .inl ⟨hf, rfl⟩⟩, hlifted⟩
  · rw [hsome] at hrel
    generalize hf : o'.fallback = f' at hrel
    cases hrel with
    | some hfallback =>
      obtain ⟨r₁', hr₁', hlifted'⟩ := hlifted.route (hfallback.layer hl) hr₁
      exact ⟨r₁', nest_eq_ok.2 ⟨_, r₂', hstrip, hr₂', .inr ⟨_, hf, hr₁'⟩⟩, hlifted'⟩

theorem nestService (hS : Service.Kept P S) (h : Lifted S r r') {s s' : Service} (hs : S s s') {front : Text}
    (hr₁ : (r.nestService front s).result = .ok r₁) :
    ∃ r₁', (r'.nestService front s').result = .ok r₁' ∧ Lifted S r₁ r₁' := by
  obtain ⟨strip, hstrip, hr₁⟩ := nestService_eq_ok.1 hr₁
  obtain ⟨outer, -, rfl⟩ := nestLayer_eq_ok hstrip
  have hu : MethodTable.Lifted S (.any fun _ : σ => s) (.any fun _ => s') := .any fun _ => hs
  obtain ⟨r₁', hr₁', hlifted⟩ := h.route (hu.layer fun _ _ => hS.stripping outer.pattern) hr₁
  exact ⟨r₁', nestService_eq_ok.2 ⟨_, hstrip, hr₁'⟩, hlifted⟩

theorem layer (hS : Service.Kept P S) (h : Lifted S r r') {l : Layer} (hl : P l) :
    Lifted S (r.layer l) (r'.layer l) where
  endpoints := h.mapTables fun _ _ _ ht => ht.layer fun _ _ => hS.layer hl
  fallback := by
    have hdefault : MethodTable.Lifted S (.any fun _ : σ => .constant notFound) (.any fun _ => .constant notFound) :=
      .any fun _ => hS.refl _
    exact .some ((rel_getD h.fallback hdefault).layer fun _ _ => hS.layer hl)

theorem routeLayer (hS : Service.Kept P S) (h : Lifted S r r') {l : Layer} (hl : P l)
    (hr₁ : (r.routeLayer l).result = .ok r₁) : ∃ r₁', (r'.routeLayer l).result = .ok r₁' ∧ Lifted S r₁ r₁' := by
  obtain ⟨hall, rfl⟩ := routeLayer_eq_ok.1 hr₁
  refine ⟨_, routeLayer_eq_ok.2 ⟨fun e' he' => ?_, rfl⟩,
    h.mapTables fun _ _ _ ht => ht.mapHandlers fun _ _ => hS.layer hl, h.fallback⟩
  obtain ⟨e, he, hrelated⟩ := h.exists_left he'
  obtain ⟨v, hv⟩ := hall e he
  exact ⟨v, (hrelated.table.sameShape.handlers v).trans hv⟩

theorem withState (h : Lifted S r r') (s : σ) : Lifted S (r.withState s) (r'.withState s) :=
  ⟨h.mapTables fun _ _ _ ht => ht.withState s, rel_map (fun _ _ ht => ht.withState s) h.fallback⟩

theorem withFallback (h : Lifted S r r') {k k' : Handler σ} (hk : Handler.Lifted S k k') :
    Lifted S (r.withFallback k) (r'.withFallback k') :=
  ⟨h.endpoints, .some (.any hk)⟩

end Router.Lifted

end PathRouter
