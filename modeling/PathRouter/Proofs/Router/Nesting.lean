/-
A router nested twice, and nested once behind the joined prefix. What a router registers behind a prefix are its tables
under joined templates (`Router.behind`), with the layer that strips the prefix around each of them; the layer can as
well be put there after all of them are registered (`Router.nest_eq_ok_behind`). Joined templates are the same behind
one prefix if they are behind another one, so to register behind two prefixes one after the other comes to the same as
to do so behind the joined one (`Router.behind_behind`).
-/
import PathRouter.Proofs.Router.Flatten
import PathRouter.Proofs.Router.LayeredFallback
import PathRouter.Proofs.Router.Union
import PathRouter.Proofs.Template.Stripping

namespace PathRouter

/-- A chain of steps succeeds if its first part does and then its second one. -/
theorem Build.foldlM_append_eq_ok {α β : Type} {f : β → α → Build β} {ys : List α} {b' : β} : ∀ {xs : List α} {b : β},
    ((xs ++ ys).foldlM f b).result = .ok b' ↔ ∃ b₁, (xs.foldlM f b).result = .ok b₁ ∧ (ys.foldlM f b₁).result = .ok b'
  | [], b => ⟨fun h => ⟨b, rfl, h⟩, fun ⟨_, hb, h⟩ => by cases hb; exact h⟩
  | x :: xs, b => by
    simp only [List.cons_append, List.foldlM_cons, result_bind_eq_ok, foldlM_append_eq_ok]
    exact ⟨fun ⟨b₂, h₂, b₁, h₁, h⟩ => ⟨b₁, ⟨b₂, h₂, h₁⟩, h⟩, fun ⟨b₁, ⟨b₂, h₂, h₁⟩, h⟩ => ⟨b₂, h₂, b₁, h₁, h⟩⟩

/-! ## Layers around what is merged -/

theorem Fallback.merge?_mapService {σ : Type} (l : Layer) (f g : Fallback σ) :
    (f.mapService l).merge? (g.mapService l) = (f.merge? g).map (·.mapService l) := by
  cases f <;> cases g <;> rfl

/-- Tables with a layer around them are merged as they are without it. -/
theorem MethodTable.merge_layer {σ : Type} (l : Layer) (t u : MethodTable σ) :
    (t.layer l).merge (u.layer l) = (t.merge u).map (·.layer l) := by
  have hoverlap : (t.layer l).overlap? (u.layer l) = t.overlap? u := by
    simp only [overlap?, layer, mapHandlers, Option.isSome_map]
  have hfallback : (t.layer l).fallback.merge? (u.layer l).fallback = (t.fallback.merge? u.fallback).map
      (·.mapService l) :=
    Fallback.merge?_mapService l t.fallback u.fallback
  unfold merge
  rw [hoverlap, hfallback]
  cases t.overlap? u with
  | some v => rfl
  | none =>
    cases t.fallback.merge? u.fallback with
    | none => rfl
    | some f => simp [Except.map, layer, mapHandlers, Option.map_or]

theorem Endpoint.mergeInto_layer {σ : Type} (l : Layer) (t : Text) (u : MethodTable σ) (es : List (Endpoint σ)) :
    mergeInto t (u.layer l) (es.map (·.mapTable (·.layer l))) =
      (mergeInto t u es).map (List.map (·.mapTable (·.layer l))) := by
  induction es with
  | nil => rfl
  | cons e es ih =>
    have hmerge : (e.mapTable (·.layer l)).table.merge (u.layer l) = (e.table.merge u).map (·.layer l) :=
      MethodTable.merge_layer l e.table u
    have htemplate : (e.mapTable (·.layer l)).template = e.template := rfl
    rw [List.map_cons, mergeInto, mergeInto, ih, hmerge, htemplate]
    by_cases ht : e.template = t
    · rw [if_pos ht, if_pos ht]
      cases e.table.merge u <;> rfl
    · rw [if_neg ht, if_neg ht]
      cases mergeInto t u es <;> rfl

namespace Router

variable {σ : Type} {r r' inner : Router σ} {name name' : Text → Text} {xs : List (Text × MethodTable σ)}

/-! ## Tables registered under names -/

/-- The tables of a router, under their templates, and its fallback for everything. -/
def entries (r : Router σ) : List (Text × MethodTable σ) :=
  r.endpoints.map (fun e => (e.template, e.table)) ++ (r.fallback.map fun t => (catchAll, t)).toList

/-- The router with tables registered one after the other, each under the name that is made of its template. -/
def register (r : Router σ) (name : Text → Text) (xs : List (Text × MethodTable σ)) : Build (Router σ) :=
  xs.foldlM (fun (r : Router σ) x => r.route (name x.1) x.2) r

theorem register_cons (r : Router σ) (name : Text → Text) (x : Text × MethodTable σ)
    (xs : List (Text × MethodTable σ)) :
    r.register name (x :: xs) = r.route (name x.1) x.2 >>= fun r₁ => r₁.register name xs :=
  List.foldlM_cons

/-- The router of what another one has behind a prefix, without a layer. -/
def behind (inner : Router σ) (front : Text) : Build (Router σ) :=
  empty.register (Template.join front) inner.entries

/-- The router with a layer around its endpoints, with the standard answers, and not around the fallback. -/
def wrap (r : Router σ) (l : Layer) : Router σ :=
  { r with endpoints := r.endpoints.map (·.mapTable (·.layer l)) }

/-- Tables with a layer around them. -/
def wrapped (l : Layer) (x : Text × MethodTable σ) : Text × MethodTable σ :=
  (x.1, x.2.layer l)

theorem templates_wrap (r : Router σ) (l : Layer) : (r.wrap l).templates = r.templates := by
  unfold templates wrap
  rw [List.map_map]
  rfl

theorem route_wrap (l : Layer) (r : Router σ) (t : Text) (u : MethodTable σ) :
    ((r.wrap l).route t (u.layer l)).result = (r.route t u).result.map (·.wrap l) := by
  have hmem : (r.wrap l).hasTemplate t = r.hasTemplate t := by
    rw [Bool.eq_iff_iff, hasTemplate_iff, hasTemplate_iff, templates_wrap]
  unfold route
  rw [hmem]
  split
  · unfold mergeTable
    rw [Build.result_ofExcept, Build.result_ofExcept]
    unfold wrap
    rw [Endpoint.mergeInto_layer]
    cases Endpoint.mergeInto t u r.endpoints <;> rfl
  · cases h : (Template.compile t .strict).result with
    | error e => rw [Build.result_bind_of_error h, Build.result_bind_of_error h]; rfl
    | ok route =>
      rw [Build.result_bind_of_ok h, Build.result_bind_of_ok h, Build.result_report_bind, Build.result_report_bind]
      simp [wrap, Except.map, Endpoint.mapTable]

theorem register_wrap (l : Layer) (name : Text → Text) : ∀ (xs : List (Text × MethodTable σ)) (r : Router σ),
    ((r.wrap l).register name (xs.map (wrapped l))).result = (r.register name xs).result.map (·.wrap l)
  | [], r => rfl
  | x :: xs, r => by
    have hstep := route_wrap l r (name x.1) x.2
    rw [List.map_cons, register_cons, register_cons]
    cases h : (r.route (name x.1) x.2).result with
    | error e =>
      rw [h] at hstep
      rw [Build.result_bind_of_error h]
      exact Build.result_bind_of_error hstep _
    | ok r₁ =>
      rw [h] at hstep
      rw [Build.result_bind_of_ok h]
      exact (Build.result_bind_of_ok hstep _).trans (register_wrap l name xs r₁)

/-- A router is nested: its tables are registered behind the prefix, each with the layer that strips it. -/
theorem nest_eq_ok_register {front : Text} : (r.nest front inner).result = .ok r' ↔ ∃ strip,
    (nestLayer front).result = .ok strip ∧
    (r.register (Template.join front) (inner.entries.map (wrapped strip))).result = .ok r' := by
  rw [nest_eq_ok]
  unfold register entries
  simp only [List.map_append, Build.foldlM_append_eq_ok, List.map_map, List.foldlM_map, Function.comp_def, wrapped]
  cases inner.fallback with
  | none => simp [eq_comm]
  | some fallback => simp [Build.result_bind_eq_ok]

/-- A router nested in the empty one has its tables behind the prefix, with the layer that strips it around all of
them. -/
theorem nest_eq_ok_behind {front : Text} : (empty.nest front inner).result = .ok r ↔ ∃ strip flat,
    (nestLayer front).result = .ok strip ∧ (inner.behind front).result = .ok flat ∧ r = flat.wrap strip := by
  have hwrap : ∀ strip, (empty.register (Template.join front) (inner.entries.map (wrapped strip))).result =
      (inner.behind front).result.map (·.wrap strip) := fun strip => register_wrap strip _ inner.entries empty
  rw [nest_eq_ok_register]
  simp only [hwrap, Build.map_eq_ok, exists_and_left]

/-- What registering keeps: the fallback, and what is registered, behind which new names come. -/
theorem register_kept (h : (r.register name xs).result = .ok r') : r.Grows r' ∧ r'.fallback = r.fallback := by
  refine Build.foldlM_induction (P := fun b : Router σ => r.Grows b ∧ b.fallback = r.fallback) ⟨.refl r, rfl⟩
    (fun b x b' _ hb hb' => ?_) h
  exact ⟨hb.1.trans (grows_route hb'), (fallback_route hb').trans hb.2⟩

theorem wellFormed_register (h : (empty.register name xs).result = .ok r) : r.WellFormed :=
  (register_kept h).1.wellFormed wellFormed_empty

theorem fallback_register (h : (empty.register name xs).result = .ok r) : r.fallback = none :=
  (register_kept h).2

theorem mem_templates_route {t t' : Text} {u : MethodTable σ} (h : (r.route t u).result = .ok r') :
    t' ∈ r'.templates ↔ t' ∈ r.templates ∨ t' = t := by
  rcases route_eq_ok.1 h with ⟨ht, h⟩ | ⟨-, route, -, rfl⟩
  · rw [templates_eq r', registered_mergeTable h, ← templates_eq]
    exact ⟨.inl, fun h => h.elim id fun heq => heq ▸ ht⟩
  · unfold templates
    rw [List.map_append, List.map_singleton, List.mem_append, List.mem_singleton]

/-- The templates are those from before and the names. -/
theorem mem_templates_register {t : Text} (h : (r.register name xs).result = .ok r') :
    t ∈ r'.templates ↔ t ∈ r.templates ∨ ∃ x ∈ xs, t = name x.1 := by
  induction xs generalizing r with
  | nil =>
    cases h
    simp
  | cons x xs ih =>
    rw [register_cons] at h
    obtain ⟨r₁, h₁, h⟩ := Build.result_bind_eq_ok.1 h
    rw [ih h, mem_templates_route h₁, or_assoc, List.exists_mem_cons_iff]

/-! ## Tables registered under other names -/

/-- Two endpoints with the same table, one with each name of a template. -/
structure Renamed (name name' : Text → Text) (e e' : Endpoint σ) : Prop where
  template : ∃ t, e.template = name t ∧ e'.template = name' t
  table : e'.table = e.table

theorem Renamed.symm {e e' : Endpoint σ} (h : Renamed name name' e e') : Renamed name' name e' e :=
  ⟨h.template.imp fun _ ht => ht.symm, h.table.symm⟩

theorem renamed_empty : List.Forall₂ (Renamed name name') (empty : Router σ).endpoints (empty : Router σ).endpoints :=
  .nil

section Renaming

variable (hnames : ∀ t t', name t = name t' ↔ name' t = name' t')

include hnames

theorem mergeInto_renamed {t : Text} {u : MethodTable σ} : ∀ {es es' es₁ : List (Endpoint σ)},
    List.Forall₂ (Renamed name name') es es' → Endpoint.mergeInto (name t) u es = .ok es₁ →
      ∃ es₁', Endpoint.mergeInto (name' t) u es' = .ok es₁' ∧ List.Forall₂ (Renamed name name') es₁ es₁'
  | [], _, _, .nil, h => by
    cases h
    exact ⟨[], rfl, .nil⟩
  | e :: es, e' :: es', es₁, .cons he hes, h => by
    obtain ⟨t', ht', hname⟩ := he.template
    rcases mergeInto_cons.1 h with ⟨ht, merged, hmerge, rfl⟩ | ⟨ht, rest, hrest, rfl⟩
    · have htemplate : e'.template = name' t := hname.trans ((hnames t' t).1 (ht'.symm.trans ht))
      exact ⟨_, mergeInto_cons.2 (.inl ⟨htemplate, merged, he.table ▸ hmerge, rfl⟩), .cons ⟨he.template, rfl⟩ hes⟩
    · have htemplate : e'.template ≠ name' t := fun heq => ht (ht'.trans ((hnames t' t).2 (hname.symm.trans heq)))
      obtain ⟨rest', hrest', hrenamed⟩ := mergeInto_renamed hes hrest
      exact ⟨_, mergeInto_cons.2 (.inr ⟨htemplate, rest', hrest', rfl⟩), .cons he hrenamed⟩

theorem route_renamed {t : Text} {u : MethodTable σ} {r₁ : Router σ}
    (hes : List.Forall₂ (Renamed name name') r.endpoints r'.endpoints)
    (hroute : ∃ route, Route.compile (name' t) .strict = .ok route)
    (h : (r.route (name t) u).result = .ok r₁) :
    ∃ r₁', (r'.route (name' t) u).result = .ok r₁' ∧ List.Forall₂ (Renamed name name') r₁.endpoints r₁'.endpoints := by
  have hmem : name t ∈ r.templates ↔ name' t ∈ r'.templates := by
    unfold templates
    generalize r.endpoints = es, r'.endpoints = es' at hes
    induction hes with
    | nil => exact iff_of_false List.not_mem_nil List.not_mem_nil
    | @cons e e' es es' he _ ih =>
      obtain ⟨t', ht', hname⟩ := he.template
      rw [List.map_cons, List.map_cons, List.mem_cons, List.mem_cons, ih, ht', hname, hnames t t']
  rcases route_eq_ok.1 h with ⟨ht, h⟩ | ⟨ht, route, -, rfl⟩
  · obtain ⟨es, hmerge, rfl⟩ := mergeTable_eq_ok.1 h
    obtain ⟨es', hmerge', hrenamed⟩ := mergeInto_renamed hnames hes hmerge
    exact ⟨_, route_eq_ok.2 (.inl ⟨hmem.1 ht, mergeTable_eq_ok.2 ⟨es', hmerge', rfl⟩⟩), hrenamed⟩
  · obtain ⟨route', hroute'⟩ := hroute
    exact ⟨_, route_eq_ok.2 (.inr ⟨mt hmem.2 ht, route', hroute', rfl⟩),
      List.rel_append hes (.cons ⟨⟨t, rfl, rfl⟩, rfl⟩ .nil)⟩

/-- What is registered under one kind of names can be registered under another one that tells the same templates
apart, if the names have routes. -/
theorem register_renamed (hroutes : ∀ x ∈ xs, ∃ route, Route.compile (name' x.1) .strict = .ok route)
    {r₁ : Router σ} (hes : List.Forall₂ (Renamed name name') r.endpoints r'.endpoints)
    (h : (r.register name xs).result = .ok r₁) :
    ∃ r₁', (r'.register name' xs).result = .ok r₁' ∧ List.Forall₂ (Renamed name name') r₁.endpoints r₁'.endpoints := by
  have hxs : List.Forall₂ (fun x x' => x = x' ∧ ∃ route, Route.compile (name' x.1) .strict = .ok route) xs xs :=
    List.forall₂_same.2 fun x hx => ⟨rfl, hroutes x hx⟩
  refine @Build.foldlM_lockstep _ _ _ _ _ (fun b b' => List.Forall₂ (Renamed name name') b.endpoints b'.endpoints)
    (fun b b' x x' b₁ hb hx hb₁ => ?_) _ _ _ _ _ hxs hes h
  obtain ⟨rfl, hroute⟩ := hx
  exact route_renamed hnames hb hroute hb₁

end Renaming

/-- The endpoints of a well-formed router are registered as they are, one behind the other. -/
theorem register_endpoints {es : List (Endpoint σ)}
    (hxs : List.Forall₂ (fun x e => name x.1 = e.template ∧ x.2 = e.table) xs es) : ∀ {es' : List (Endpoint σ)},
    (⟨es' ++ es, none⟩ : Router σ).WellFormed → ((⟨es', none⟩ : Router σ).register name xs).result =
      .ok ⟨es' ++ es, none⟩ := by
  induction hxs with
  | nil => exact fun _ => by rw [List.append_nil]; rfl
  | @cons x e xs es hx _ ih =>
    intro es' hr
    have hsplit : es' ++ e :: es = es' ++ [e] ++ es := List.append_cons es' e es
    have hnew : name x.1 ∉ (⟨es', none⟩ : Router σ).templates := by
      have hnodup := hr.nodup
      rw [templates, List.map_append, List.map_cons, List.nodup_append] at hnodup
      rw [hx.1]
      exact fun hmem => hnodup.2.2 _ hmem _ List.mem_cons_self rfl
    have hroute : Route.compile (name x.1) .strict = .ok e.route := by
      rw [hx.1]
      exact hr.compiled _ (List.mem_map_of_mem (List.mem_append_right _ List.mem_cons_self))
    have hstep := route_of_fresh hnew hroute x.2
    rw [hx.1, hx.2] at hstep
    rw [register_cons, hx.1, hx.2]
    rw [hsplit] at hr ⊢
    exact Build.result_bind_eq_ok.2 ⟨_, hstep, ih hr⟩

/-! ## Behind two prefixes -/

/-- The templates behind a prefix are the joined ones, and they have routes. -/
theorem mem_templates_behind {front t : Text} (h : (inner.behind front).result = .ok r) :
    t ∈ r.templates ↔ ∃ x ∈ inner.entries, t = Template.join front x.1 :=
  (mem_templates_register h).trans ⟨fun h => h.elim (fun h => absurd h List.not_mem_nil) id, .inr⟩

theorem exists_route_of_behind {front : Text} (h : (inner.behind front).result = .ok r) {x : Text × MethodTable σ}
    (hx : x ∈ inner.entries) : ∃ route, Route.compile (Template.join front x.1) .strict = .ok route := by
  obtain ⟨e, he, htemplate⟩ := List.mem_map.1 ((mem_templates_behind h).2 ⟨x, hx, rfl⟩)
  have hroute := (wellFormed_register h).compiled _ (List.mem_map_of_mem he)
  rw [htemplate] at hroute
  exact ⟨_, hroute⟩

/-- Behind one prefix and then another one, a router has what it has behind the joined prefix. -/
theorem behind_of_renamed {front middle : Text} {flat : Router σ} (hr : r.fallback = none)
    (hflat : flat.fallback = none)
    (hwf : flat.WellFormed)
    (hes : List.Forall₂ (Renamed (Template.join middle) (Template.join (Template.join front middle))) r.endpoints
      flat.endpoints) :
    (r.behind front).result = .ok flat := by
  have hentries : List.Forall₂ (fun x e => Template.join front x.1 = e.template ∧ x.2 = e.table) r.entries
      flat.endpoints := by
    unfold entries
    rw [hr, Option.map_none, Option.toList_none, List.append_nil, List.forall₂_map_left_iff]
    refine hes.imp fun e e' he => ?_
    obtain ⟨t, ht, ht'⟩ := he.template
    exact ⟨by rw [ht, ht', Template.join_assoc], he.table.symm⟩
  obtain ⟨es, fallback⟩ := flat
  cases hflat
  exact @register_endpoints _ _ _ _ hentries [] hwf

/-- To register tables behind two prefixes, the inner one first, is to register them behind the joined prefix, if what
has a route behind the joined prefix has one behind the inner prefix. -/
theorem behind_behind {front middle : Text} (hroutes : ∀ x ∈ inner.entries,
      (∃ route, Route.compile (Template.join (Template.join front middle) x.1) .strict = .ok route) →
      ∃ route, Route.compile (Template.join middle x.1) .strict = .ok route) :
    (inner.behind middle >>= fun r₁ => r₁.behind front).result = .ok r ↔
      (inner.behind (Template.join front middle)).result = .ok r := by
  have hnames : ∀ t t', Template.join middle t = Template.join middle t' ↔
      Template.join (Template.join front middle) t = Template.join (Template.join front middle) t' := by
    intro t t'
    rw [Template.join_inj, Template.join_inj]
  rw [Build.result_bind_eq_ok]
  constructor
  · rintro ⟨r₁, h₁, h⟩
    -- What has a name behind the inner prefix has got one behind the outer prefix, with a route.
    have hcompiled : ∀ x ∈ inner.entries,
        ∃ route, Route.compile (Template.join (Template.join front middle) x.1) .strict = .ok route := by
      intro x hx
      obtain ⟨e, he, htemplate⟩ := List.mem_map.1 ((mem_templates_behind h₁).2 ⟨x, hx, rfl⟩)
      have hmem : (e.template, e.table) ∈ r₁.entries := List.mem_append_left _ (List.mem_map_of_mem he)
      have hroute := exists_route_of_behind h hmem
      rwa [htemplate, ← Template.join_assoc] at hroute
    obtain ⟨flat, hflat, hes⟩ := register_renamed hnames hcompiled renamed_empty h₁
    have hsame := behind_of_renamed (fallback_register h₁) (fallback_register hflat) (wellFormed_register hflat) hes
    cases h.symm.trans hsame
    exact hflat
  · intro h
    have hcompiled : ∀ x ∈ inner.entries, ∃ route, Route.compile (Template.join middle x.1) .strict = .ok route :=
      fun x hx => hroutes x hx (exists_route_of_behind h hx)
    obtain ⟨r₁, h₁, hes⟩ := register_renamed (fun t t' => (hnames t t').symm) hcompiled renamed_empty h
    have hes' : List.Forall₂ (Renamed (Template.join middle) (Template.join (Template.join front middle)))
        r₁.endpoints r.endpoints := hes.flip.imp fun _ _ he => he.symm
    exact ⟨r₁, h₁, behind_of_renamed (fallback_register h₁) (fallback_register h) (wellFormed_register h) hes'⟩

/-! ## Nesting twice -/

theorem entries_wrap (hr : r.fallback = none) (l : Layer) : (r.wrap l).entries = r.entries.map (wrapped l) := by
  have hfallback : (r.wrap l).fallback = none := hr
  unfold entries
  rw [hfallback, hr, Option.map_none, Option.toList_none, List.append_nil, List.append_nil, List.map_map]
  unfold wrap
  rw [List.map_map]
  rfl

/-- A router nested twice has its tables behind the joined prefix, with the layers that strip the prefixes around all
of them, the one of the outer prefix outermost. -/
theorem nest_nest_eq_ok {front middle : Text} (hroutes : ∀ x ∈ inner.entries,
      (∃ route, Route.compile (Template.join (Template.join front middle) x.1) .strict = .ok route) →
      ∃ route, Route.compile (Template.join middle x.1) .strict = .ok route) :
    (empty.nest middle inner >>= fun r₁ => empty.nest front r₁).result = .ok r ↔ ∃ strip strip' flat,
      (nestLayer front).result = .ok strip ∧ (nestLayer middle).result = .ok strip' ∧
      (inner.behind (Template.join front middle)).result = .ok flat ∧ r = (flat.wrap strip').wrap strip := by
  rw [Build.result_bind_eq_ok]
  simp only [nest_eq_ok_behind]
  constructor
  · rintro ⟨_, ⟨strip', r₁, hstrip', hr₁, rfl⟩, strip, r₂, hstrip, hr₂, rfl⟩
    have hwrap := register_wrap strip' (Template.join front) r₁.entries empty
    rw [← entries_wrap (fallback_register hr₁)] at hwrap
    obtain ⟨flat, hflat, rfl⟩ := Build.map_eq_ok.1 (hwrap.symm.trans hr₂)
    exact ⟨strip, strip', flat, hstrip, hstrip',
      (behind_behind hroutes).1 (Build.result_bind_eq_ok.2 ⟨r₁, hr₁, hflat⟩), rfl⟩
  · rintro ⟨strip, strip', flat, hstrip, hstrip', hflat, rfl⟩
    obtain ⟨r₁, hr₁, hflat⟩ := Build.result_bind_eq_ok.1 ((behind_behind hroutes).2 hflat)
    have hwrap := register_wrap strip' (Template.join front) r₁.entries empty
    rw [← entries_wrap (fallback_register hr₁)] at hwrap
    exact ⟨_, ⟨strip', r₁, hstrip', hr₁, rfl⟩, strip, _, hstrip,
      hwrap.trans (Build.map_eq_ok.2 ⟨flat, hflat, rfl⟩), rfl⟩

end Router

/-! ## Stripped requests -/

/-- A request with a prefix stripped from its path, or as it is where there is nothing to strip. -/
def Request.stripped (request : Request) (p : Pattern) : Request :=
  { request with uri := p.stripped request.uri }

/-- Behind the layer that strips a prefix, a table gets the stripped request. -/
theorem MethodTable.serve_stripping {σ : Type} (t : MethodTable σ) (s : σ) (p : Pattern) (request : Request) :
    ∃ events, (t.layer (.stripping p)).serve s request = (t.serve s (request.stripped p)).after events := by
  cases h : p.strip? request.uri with
  | some u =>
    have hrequest : request.stripped p = { request with uri := u } := by
      unfold Request.stripped Pattern.stripped
      rw [h, Option.getD_some]
    rw [hrequest]
    exact ⟨_, serve_layer h t s⟩
  | none =>
    have hrequest : request.stripped p = request := by
      unfold Request.stripped Pattern.stripped
      rw [h, Option.getD_none]
    rw [hrequest]
    refine ⟨[], serve_layer_of (fun inner => ?_) rfl t s⟩
    unfold Layer.stripping
    rw [h]
    rfl

namespace Template.Nestable

variable {front : Text}

/-- A prefix is neither the root nor does it contain a wildcard, so that it only needs a loose route. -/
theorem nestLayer_eq (h : Template.Nestable front) : Router.nestLayer front =
    Template.compile front .loose >>= fun outer => return .stripping outer.pattern := by
  have hroot : Router.isRoot front = false := by
    rw [← Bool.not_eq_true]
    intro hroot
    have hslashes : front = [] ++ List.replicate front.length '/' := List.eq_replicate_iff.2
      ⟨rfl, fun c hc => by simpa using List.all_eq_true.1 hroot c hc⟩
    have hwords : Text.words '/' front = [] := by
      rw [hslashes, Text.words_append_replicate, Text.words_nil]
    refine Template.exists_solid_iff.1 h.solid ?_
    rw [Template.solid_segments, hwords, List.map_nil]
  have hwild : Router.hasWildcard front = false := by
    unfold Router.hasWildcard
    rw [List.any_eq_false]
    intro s hs
    have hrigid := h.rigid s hs
    cases s with
    | wildcard => exact hrigid.elim
    | empty | literal | param => exact Bool.false_ne_true
  unfold Router.nestLayer
  rw [hroot, hwild, if_neg Bool.false_ne_true, if_neg Bool.false_ne_true]

theorem nestLayer_eq_ok (h : Template.Nestable front) {strip : Layer} : (Router.nestLayer front).result = .ok strip ↔
    ∃ outer, Route.compile front .loose = .ok outer ∧ strip = .stripping outer.pattern := by
  rw [h.nestLayer_eq, Build.result_bind_eq_ok]
  simp only [Template.result_compile, Build.result_pure, Except.ok.injEq, @eq_comm _ _ strip]

theorem nestLayer_eq_error (h : Template.Nestable front) {e : InvalidPattern}
    (hroute : Route.compile front .loose = .error e) :
    (Router.nestLayer front).result = .error (.invalidTemplate front) := by
  rw [h.nestLayer_eq]
  exact Build.result_bind_of_error (Router.result_compile_of_error hroute) _

end Template.Nestable

namespace Router

variable {σ : Type} {r leaf flat : Router σ} {front middle : Text}

/-- A layer around all tables does not change where requests go. -/
theorem dispatch?_wrap {path : Text} {e : Endpoint σ} {p : Params} (l : Layer) (h : r.dispatch? path = some (e, p)) :
    (r.wrap l).dispatch? path = some (e.mapTable (·.layer l), p) := by
  unfold wrap
  rw [dispatch?_mapTable, h]
  rfl

theorem dispatch?_wrap_of_none {path : Text} (l : Layer) (h : r.dispatch? path = none) :
    (r.wrap l).dispatch? path = none := by
  unfold wrap
  rw [dispatch?_mapTable, h]
  rfl

theorem plain_entries (hleaf : ∀ t ∈ leaf.templates, Template.Plain t) : ∀ x ∈ leaf.entries, Template.Plain x.1 := by
  refine List.forall_mem_append.2 ⟨List.forall_mem_map.2 fun e he => hleaf _ (List.mem_map_of_mem he), fun x hx => ?_⟩
  cases hf : leaf.fallback with
  | none =>
    rw [hf] at hx
    exact absurd hx List.not_mem_nil
  | some t =>
    rw [hf] at hx
    rw [List.mem_singleton.1 hx]
    exact plain_catchAll

/-- What has a route behind a joined prefix has one behind its second part. -/
theorem exists_route_of_joined (hleaf : ∀ t ∈ leaf.templates, Template.Plain t) (hfront : Template.Nestable front)
    (hmiddle : Template.Nestable middle) : ∀ x ∈ leaf.entries,
      (∃ route, Route.compile (Template.join (Template.join front middle) x.1) .strict = .ok route) →
      ∃ route, Route.compile (Template.join middle x.1) .strict = .ok route := by
  rintro x hx ⟨route, hroute⟩
  rw [Template.join_assoc] at hroute
  have hplain := Template.forall_segment_join trivial hmiddle.plain (plain_entries hleaf x hx)
  exact (Template.exists_compile_of_join hfront.plain hplain hroute).2

/-- The table of a router behind a joined prefix answers what is dispatched to it behind both layers that strip a part
of the prefix as behind the one that strips all of it. -/
theorem stripped_of_dispatch (hleaf : ∀ t ∈ leaf.templates, Template.Plain t) (hfront : Template.Nestable front)
    (hmiddle : Template.Nestable middle) (hflat : (leaf.behind (Template.join front middle)).result = .ok flat)
    {outer inner joined : Route} (houter : Route.compile front .loose = .ok outer)
    (hinner : Route.compile middle .loose = .ok inner)
    (hjoined : Route.compile (Template.join front middle) .loose = .ok joined) {u : Uri} {e : Endpoint σ} {p : Params}
    (he : flat.dispatch? u.path = some (e, p)) :
    joined.pattern.stripped u = inner.pattern.stripped (outer.pattern.stripped u) := by
  have hmem := mem_of_dispatch? he
  obtain ⟨-, -, -, hexec, -⟩ := dispatch?_eq_some_iff.1 he
  obtain ⟨x, hx, htemplate⟩ := (mem_templates_behind hflat).1 (List.mem_map_of_mem hmem)
  have hroute := (wellFormed_register hflat).compiled _ (List.mem_map_of_mem hmem)
  rw [htemplate] at hroute
  -- Where the template matches, the joined prefix does, so that something is left to be stripped twice.
  have hprefix := hfront.join hmiddle
  obtain ⟨c, hc, -⟩ := Option.map_eq_some_iff.1 hexec
  obtain ⟨-, -, route, -, hstrip⟩ := Template.exec_join hprefix.rigid hprefix.solid (plain_entries hleaf x hx) hroute hc
  obtain ⟨rest, hcut⟩ := hstrip joined hjoined
  exact Template.stripped_join hfront hmiddle houter hinner hjoined (by rw [hcut.remainder]; rfl)

/-- A joined prefix has a loose route if something that is not empty is registered behind it. -/
theorem exists_loose_of_behind (hleaf : ∀ t ∈ leaf.templates, Template.Plain t) {prefixes : Text}
    (hplain : Template.Plain prefixes)
    (hflat : (leaf.behind prefixes).result = .ok flat)
    (hsolid : leaf.fallback.isSome = true ∨ ∃ t ∈ leaf.templates, ∃ s ∈ Template.segments t, s ≠ .empty) :
    ∃ joined, Route.compile prefixes .loose = .ok joined := by
  obtain ⟨x, hx, hx'⟩ : ∃ x ∈ leaf.entries, ∃ s ∈ Template.segments x.1, s ≠ .empty := by
    rcases hsolid with hfallback | ⟨t, ht, hsolid⟩
    · obtain ⟨t, ht⟩ := Option.isSome_iff_exists.1 hfallback
      refine ⟨(catchAll, t), List.mem_append_right _ ?_, .wildcard true, ?_, nofun⟩
      · rw [ht]
        exact List.mem_cons_self
      · rw [segments_catchAll]
        exact List.mem_cons_self
    · obtain ⟨e, he, rfl⟩ := List.mem_map.1 ht
      exact ⟨(e.template, e.table), List.mem_append_left _ (List.mem_map_of_mem he), hsolid⟩
  have hback := plain_entries hleaf x hx
  obtain ⟨route, hroute⟩ := exists_route_of_behind hflat hx
  have hsize := Template.leastSize_of_compile (Template.forall_segment_join trivial hplain hback) hroute
  -- What is behind the prefix takes at least as much as the ending of a loose route.
  have hsum := Template.leastSize_join prefixes x.1
  have hleast := Template.le_leastSize hx'
  refine Template.exists_compile hplain ?_
  rw [Template.leastSize_loose]
  omega

/-- What a router answers once it is nested twice, and once it is nested behind the joined prefix. -/
theorem serve_nested (hleaf : ∀ t ∈ leaf.templates, Template.Plain t) (hfront : Template.Nestable front)
    (hmiddle : Template.Nestable middle) (hflat : (leaf.behind (Template.join front middle)).result = .ok flat)
    {outer inner joined : Route} (houter : Route.compile front .loose = .ok outer)
    (hinner : Route.compile middle .loose = .ok inner)
    (hjoined : Route.compile (Template.join front middle) .loose = .ok joined) {request : Request} {e : Endpoint σ}
    {p : Params}
    (he : flat.dispatch? request.uri.path = some (e, p)) (s : σ) : ∃ events events',
      (((flat.wrap (.stripping inner.pattern)).wrap (.stripping outer.pattern)).withState s).serve request =
        (e.table.serve s ((request.dispatchedBy e p).stripped joined.pattern)).after events ∧
      ((flat.wrap (.stripping joined.pattern)).withState s).serve request =
        (e.table.serve s ((request.dispatchedBy e p).stripped joined.pattern)).after events' := by
  have honce := dispatch?_wrap (.stripping joined.pattern) he
  have htwice := dispatch?_wrap (.stripping outer.pattern) (dispatch?_wrap (.stripping inner.pattern) he)
  have huri := stripped_of_dispatch hleaf hfront hmiddle hflat houter hinner hjoined he
  have hrequest : ((request.dispatchedBy e p).stripped outer.pattern).stripped inner.pattern =
      (request.dispatchedBy e p).stripped joined.pattern :=
    congrArg (fun uri => { request.dispatchedBy e p with uri }) huri.symm
  obtain ⟨events₁, h₁⟩ := (e.table.layer (.stripping inner.pattern)).serve_stripping s outer.pattern
    (request.dispatchedBy e p)
  obtain ⟨events₂, h₂⟩ := e.table.serve_stripping s inner.pattern ((request.dispatchedBy e p).stripped outer.pattern)
  obtain ⟨events₃, h₃⟩ := e.table.serve_stripping s joined.pattern (request.dispatchedBy e p)
  rw [hrequest] at h₂
  rw [h₂, Answer.after_after] at h₁
  refine ⟨[.matched request.uri.path e.template] ++ (events₁ ++ events₂),
    [.matched request.uri.path e.template] ++ events₃, ?_, ?_⟩
  · rw [serve_withState htwice, ← Answer.after_after, ← h₁]
    rfl
  · rw [serve_withState honce, ← Answer.after_after, ← h₃]
    rfl

/-- Nesting twice is nesting once behind the joined prefix. The prefixes have rigid segments, not all of them empty,
and the router has plain templates. It can be nested behind the joined prefix if it can be nested twice and the joined
prefix has a loose route, which it has if the router has a fallback or a template that is not empty. Both outcomes then
have the same templates in the same order and dispatch a request alike, with the same parameters, or neither does. What
answers is the table that the router has for the template, without the layers that strip prefixes, and it gets the same
request from both: with the part of the path removed that the joined prefix matches. -/
theorem nest_nest (hleaf : ∀ t ∈ leaf.templates, Template.Plain t) (hfront : Template.Nestable front)
    (hmiddle : Template.Nestable middle) :
    ((∃ once, (empty.nest (Template.join front middle) leaf).result = .ok once) ↔
      (∃ twice, (empty.nest middle leaf >>= fun r => empty.nest front r).result = .ok twice) ∧
      ∃ joined, Route.compile (Template.join front middle) .loose = .ok joined) ∧
    ((leaf.fallback.isSome = true ∨ ∃ t ∈ leaf.templates, ∃ s ∈ Template.segments t, s ≠ .empty) →
      (∃ twice, (empty.nest middle leaf >>= fun r => empty.nest front r).result = .ok twice) →
      ∃ joined, Route.compile (Template.join front middle) .loose = .ok joined) ∧
    ∀ once twice, (empty.nest (Template.join front middle) leaf).result = .ok once →
      (empty.nest middle leaf >>= fun r => empty.nest front r).result = .ok twice →
      twice.templates = once.templates ∧
      ∃ joined flat, Route.compile (Template.join front middle) .loose = .ok joined ∧
        (leaf.behind (Template.join front middle)).result = .ok flat ∧
        ∀ request : Request, (twice.dispatch? request.uri.path = none ∧ once.dispatch? request.uri.path = none) ∨
          ∃ e e' table p, twice.dispatch? request.uri.path = some (e, p) ∧
          once.dispatch? request.uri.path = some (e', p) ∧
            e'.template = e.template ∧ e'.route = e.route ∧ flat.tableFor? e.template = some table ∧
            ∀ s, ∃ events events',
              (twice.withState s).serve request =
                (table.serve s ((request.dispatchedBy e p).stripped joined.pattern)).after events ∧
              (once.withState s).serve request =
                (table.serve s ((request.dispatchedBy e p).stripped joined.pattern)).after events' := by
  have hprefix := hfront.join hmiddle
  have hroutes := exists_route_of_joined hleaf hfront hmiddle
  refine ⟨?_, ?_, ?_⟩
  · simp only [nest_nest_eq_ok hroutes, nest_eq_ok_behind]
    constructor
    · rintro ⟨_, _, flat, hstrip, hflat, rfl⟩
      obtain ⟨joined, hjoined, rfl⟩ := hprefix.nestLayer_eq_ok.1 hstrip
      -- Both parts of the prefix are smaller than the whole.
      obtain ⟨⟨outer, houter⟩, inner, hinner⟩ := Template.exists_compile_of_join hfront.plain hmiddle.plain hjoined
      exact ⟨⟨_, _, _, flat, hfront.nestLayer_eq_ok.2 ⟨outer, houter, rfl⟩,
        hmiddle.nestLayer_eq_ok.2 ⟨inner, hinner, rfl⟩,
        hflat, rfl⟩, joined, hjoined⟩
    · rintro ⟨⟨_, _, _, flat, -, -, hflat, rfl⟩, joined, hjoined⟩
      exact ⟨_, _, flat, hprefix.nestLayer_eq_ok.2 ⟨joined, hjoined, rfl⟩, hflat, rfl⟩
  · rintro hsolid ⟨twice, htwice⟩
    obtain ⟨_, _, flat, -, -, hflat, rfl⟩ := (nest_nest_eq_ok hroutes).1 htwice
    exact exists_loose_of_behind hleaf hprefix.plain hflat hsolid
  · intro once twice honce htwice
    obtain ⟨_, flat, hstrip, hflat, rfl⟩ := nest_eq_ok_behind.1 honce
    obtain ⟨_, _, flat', hstrip₁, hstrip₂, hflat', rfl⟩ := (nest_nest_eq_ok hroutes).1 htwice
    cases hflat.symm.trans hflat'
    obtain ⟨joined, hjoined, rfl⟩ := hprefix.nestLayer_eq_ok.1 hstrip
    obtain ⟨outer, houter, rfl⟩ := hfront.nestLayer_eq_ok.1 hstrip₁
    obtain ⟨inner, hinner, rfl⟩ := hmiddle.nestLayer_eq_ok.1 hstrip₂
    refine ⟨by simp only [templates_wrap], joined, flat, hjoined, hflat, fun request => ?_⟩
    cases he : flat.dispatch? request.uri.path with
    | none => exact .inl ⟨dispatch?_wrap_of_none _ (dispatch?_wrap_of_none _ he), dispatch?_wrap_of_none _ he⟩
    | some x =>
      obtain ⟨e, p⟩ := x
      have htable : flat.tableFor? e.template = some e.table :=
        tableFor?_of_mem (wellFormed_register hflat).nodup (mem_of_dispatch? he)
      exact .inr ⟨_, _, e.table, p, dispatch?_wrap _ (dispatch?_wrap _ he), dispatch?_wrap _ he, rfl, rfl, htable,
        serve_nested hleaf hfront hmiddle hflat houter hinner hjoined he⟩

/-- A router with a parameter of its own and a fallback behind two prefixes, of which one has a parameter. -/
theorem nest_nest_parameters : ∃ leaf once twice : Router Unit,
    (empty.nest (Template.join "/A/:x".toList "b/".toList) leaf).result = .ok once ∧
    (empty.nest "b/".toList leaf >>= fun r => empty.nest "/A/:x".toList r).result = .ok twice ∧
    twice.templates = ["/A/:x/b/:y".toList, "/A/:x/b/*?".toList] ∧ twice.templates = once.templates ∧
    ∃ joined flat, Route.compile "/A/:x/b/".toList .loose = .ok joined ∧
    (leaf.behind "/A/:x/b/".toList).result = .ok flat ∧
      ∀ request : Request, (twice.dispatch? request.uri.path = none ∧ once.dispatch? request.uri.path = none) ∨
        ∃ e e' table p, twice.dispatch? request.uri.path = some (e, p) ∧
        once.dispatch? request.uri.path = some (e', p) ∧
          e'.template = e.template ∧ e'.route = e.route ∧ flat.tableFor? e.template = some table ∧
          ∀ s, ∃ events events',
            (twice.withState s).serve request =
              (table.serve s ((request.dispatchedBy e p).stripped joined.pattern)).after events ∧
            (once.withState s).serve request =
              (table.serve s ((request.dispatchedBy e p).stripped joined.pattern)).after events' := by
  have hy : Template.Plain "/:y".toList := by
    rw [Template.Plain, show Template.segments "/:y".toList = [.param ⟨"y".toList, false, none, none⟩] by decide]
    exact List.forall_mem_singleton.2 ⟨rfl, by simp⟩
  have hfront : Template.Nestable "/A/:x".toList := by
    constructor <;>
      rw [show Template.segments "/A/:x".toList =
        [.literal "A".toList, .param ⟨"x".toList, false, none, none⟩] by decide]
    · exact List.forall_mem_cons.2 ⟨(by decide : PlainText "A".toList),
        List.forall_mem_singleton.2 ⟨⟨rfl, by simp⟩, rfl⟩⟩
    · exact ⟨_, List.mem_cons_self, by simp⟩
  have hmiddle : Template.Nestable "b/".toList := by
    constructor <;> rw [show Template.segments "b/".toList = [.literal "b".toList, .empty] by decide]
    · exact List.forall_mem_cons.2 ⟨(by decide : PlainText "b".toList), List.forall_mem_singleton.2 trivial⟩
    · exact ⟨_, List.mem_cons_self, by simp⟩
  obtain ⟨route, hroute⟩ : ∃ route, Route.compile "/:y".toList .strict = .ok route := ⟨_, rfl⟩
  let handler : Handler Unit := fun _ => .constant (.plain 200 [])
  let leaf : Router Unit := ⟨[⟨"/:y".toList, route, .on [.get] handler⟩], some (.any handler)⟩
  have hleaf : ∀ t ∈ leaf.templates, Template.Plain t := List.forall_mem_singleton.2 hy
  obtain ⟨-, -, hsame⟩ := nest_nest hleaf hfront hmiddle
  obtain ⟨htemplates, hserve⟩ := hsame _ _ rfl rfl
  exact ⟨leaf, _, _, rfl, rfl, rfl, htemplates, hserve⟩

theorem nestable_replicate {c : Char} (hc : c ≠ '/' ∧ c ≠ '*' ∧ c ≠ ':') (hm : c ∉ Regex.metaChars) (n : Nat) :
    Template.Nestable ('/' :: List.replicate (n + 1) c) := by
  constructor <;> rw [Template.segments_replicate hc]
  · refine List.forall_mem_singleton.2 fun d hd => ?_
    rw [(List.mem_replicate.1 hd).2]
    exact hm
  · exact ⟨_, List.mem_cons_self, nofun⟩

/-- A prefix of one long segment, which is more than half as large as a prefix can be. -/
theorem nest_nest_replicate {c : Char} (hc : c ≠ '/' ∧ c ≠ '*' ∧ c ≠ ':') (hm : c ∉ Regex.metaChars) {n : Nat}
    (hle : 32 * n + 424 ≤ Regex.maxSize) (hlt : Regex.maxSize < 64 * n + 488) : ∃ front : Text,
      front = '/' :: List.replicate (n + 1) c ∧
      Template.Nestable front ∧
      (∃ twice : Router Unit, (empty.nest front empty >>= fun r => empty.nest front r).result = .ok twice) ∧
      (empty.nest (Template.join front front) (empty : Router Unit)).result =
        .error (.invalidTemplate (Template.join front front)) := by
  have hplain := Template.plain_replicate hc hm n
  have hfront := nestable_replicate hc hm n
  have hsize := Template.leastSize_replicate hc n
  have hjoinSize := Template.leastSize_join ('/' :: List.replicate (n + 1) c) ('/' :: List.replicate (n + 1) c)
  generalize '/' :: List.replicate (n + 1) c = front at hplain hfront hsize hjoinSize ⊢
  refine ⟨front, rfl, hfront, ?_, ?_⟩
  · obtain ⟨outer, houter⟩ : ∃ outer, Route.compile front .loose = .ok outer :=
      Template.exists_compile hplain (by rw [Template.leastSize_loose]; omega)
    have hstrip := hfront.nestLayer_eq_ok.2 ⟨outer, houter, rfl⟩
    exact ⟨_, (nest_nest_eq_ok (List.forall_mem_nil _)).2 ⟨_, _, empty, hstrip, hstrip, rfl, rfl⟩⟩
  · obtain ⟨e, he⟩ : ∃ e, Route.compile (Template.join front front) .loose = .error e :=
      ⟨_, (Template.compile_eq (hfront.join hfront).plain .loose).trans
        (if_pos (by rw [Template.leastSize_loose]; omega))⟩
    exact Build.result_bind_of_error ((hfront.join hfront).nestLayer_eq_error he) _

/-- What can be nested twice need not be one that can be nested behind the joined prefix, which can be too large. -/
theorem nest_nest_tooLarge : ∃ front : Text, front = '/' :: List.replicate 200000 '1' ∧ Template.Nestable front ∧
    (∃ twice : Router Unit, (empty.nest front empty >>= fun r => empty.nest front r).result = .ok twice) ∧
    (empty.nest (Template.join front front) (empty : Router Unit)).result =
      .error (.invalidTemplate (Template.join front front)) :=
  nest_nest_replicate (c := '1') (n := 199999) (by decide) (by decide) (by decide) (by decide)

end Router

end PathRouter
