/-
What a router holds, and where it comes from. Tables are registered at places, under a template or as the fallback, and
layers are put around what is there. The handlers of a router are those of the tables that were registered, each behind
what was put around its table since (`Registration`): each handler is in one registration (`Router.Records`), and every
step of building keeps it so.
-/
import PathRouter.Proofs.Router.Around
import PathRouter.Proofs.Router.Nesting
import Mathlib.Data.List.Pairwise

namespace PathRouter

/-! ## Handlers of a table -/

namespace MethodTable

variable {σ : Type} {t u : MethodTable σ}

/-- The handler that is registered for a verb, or the one for all that no verb answers. -/
def registered? (t : MethodTable σ) : Option Verb → Option (Handler σ)
  | some v => t.handlers v
  | none =>
    match t.fallback with
    | .standard _ => none
    | .custom h => some h

theorem registered?_union (t u : MethodTable σ) (slot : Option Verb) :
    (t.union u).registered? slot = (t.registered? slot).or (u.registered? slot) := by
  cases slot with
  | some v => rfl
  | none =>
    unfold registered? union
    cases t.fallback <;> rfl

theorem registered?_layer (t : MethodTable σ) (l : Layer) (slot : Option Verb) :
    (t.layer l).registered? slot = (t.registered? slot).map fun h s => l (h s) := by
  cases slot with
  | some v => rfl
  | none =>
    unfold registered? layer mapHandlers
    cases t.fallback <;> rfl

theorem isCustom_of_registered? {h : Handler σ} (ht : t.registered? none = some h) : t.fallback.isCustom = true := by
  unfold registered? at ht
  cases hf : t.fallback with
  | standard service =>
    rw [hf] at ht
    cases ht
  | custom k => rfl

/-- Tables that are apart have no two handlers for the same. -/
theorem Apart.not_both (hapart : t.Apart u) {slot : Option Verb} {h k : Handler σ} (ht : t.registered? slot = some h)
    (hu : u.registered? slot = some k) : False := by
  cases slot with
  | some v =>
    rcases hapart.handlers v with hnone | hnone
    · cases hnone.symm.trans ht
    · cases hnone.symm.trans hu
  | none =>
    rcases hapart.fallback with hstandard | hstandard
    · cases hstandard.symm.trans (isCustom_of_registered? ht)
    · cases hstandard.symm.trans (isCustom_of_registered? hu)

/-- The handler that is registered for what answers a method answers it. -/
theorem serve_of_registered? {request : Request} {k : Handler σ}
    (h : t.registered? (t.answering? request.method) = some k) (s : σ) :
    ∃ allow, t.serve s request = (k s request).map (finish request allow) := by
  have hhandler := t.handler?_eq request.method
  unfold serve
  cases hanswering : t.answering? request.method with
  | some v =>
    rw [hanswering] at h hhandler
    have hk : t.handler? request.method = some k := hhandler.trans h
    rw [hk]
    exact ⟨none, rfl⟩
  | none =>
    rw [hanswering] at h hhandler
    rw [hhandler]
    unfold registered? at h
    cases hf : t.fallback with
    | standard service =>
      rw [hf] at h
      cases h
    | custom k' =>
      rw [hf] at h
      cases h
      exact ⟨_, rfl⟩

end MethodTable

/-! ## Handlers by place and verb -/

/-- Handlers by the template that they are registered under, unless for the fallback of the router, and by verb, unless
for all that no verb answers. -/
abbrev Holdings (σ : Type) := Option Text → Option Verb → Option (Handler σ)

namespace Holdings

variable {σ : Type} {f g k : Holdings σ} {fs gs gs' : List (Holdings σ)}

/-- No two handlers are at the same place for the same. -/
def Apart (f g : Holdings σ) : Prop :=
  ∀ place slot, f place slot = none ∨ g place slot = none

/-- With every handler changed. -/
def map (w : Handler σ → Handler σ) (f : Holdings σ) : Holdings σ :=
  fun place slot => (f place slot).map w

/-- What is there is in exactly one of several others. -/
structure SumOf (f : Holdings σ) (fs : List (Holdings σ)) : Prop where
  eq_some_iff : ∀ place slot h, f place slot = some h ↔ ∃ g ∈ fs, g place slot = some h
  apart : fs.Pairwise Apart

theorem Apart.symm (h : f.Apart g) : g.Apart f :=
  fun place slot => (h place slot).symm

theorem Apart.map (h : f.Apart g) (w : Handler σ → Handler σ) : (f.map w).Apart (g.map w) :=
  fun place slot => (h place slot).imp (fun hf => by rw [Holdings.map, hf]; rfl) fun hg => by rw [Holdings.map, hg]; rfl

theorem apart_iff : f.Apart g ↔ ∀ place slot a b, f place slot = some a → g place slot = some b → False := by
  constructor
  · intro h place slot a b hf hg
    rcases h place slot with hnone | hnone
    · cases hnone.symm.trans hf
    · cases hnone.symm.trans hg
  · intro h place slot
    cases hf : f place slot with
    | none => exact .inl rfl
    | some a =>
      cases hg : g place slot with
      | none => exact .inr rfl
      | some b => exact (h place slot a b hf hg).elim

namespace SumOf

theorem nil : SumOf (fun _ _ => none : Holdings σ) [] :=
  ⟨fun _ _ _ => by simp, .nil⟩

theorem single (f : Holdings σ) : f.SumOf [f] :=
  ⟨fun _ _ _ => by simp, List.pairwise_singleton _ _⟩

theorem congr (h : f.SumOf fs) (hk : ∀ place slot, k place slot = f place slot) : k.SumOf fs :=
  ⟨fun place slot a => by rw [hk, h.eq_some_iff], h.apart⟩

theorem append (hf : f.SumOf fs) (hg : g.SumOf gs) (h : f.Apart g)
    (hk : ∀ place slot, k place slot = (f place slot).or (g place slot)) : k.SumOf (fs ++ gs) := by
  constructor
  · intro place slot a
    have hor : k place slot = some a ↔ f place slot = some a ∨ g place slot = some a := by
      rw [hk]
      rcases h place slot with hnone | hnone <;> simp [hnone]
    simp only [hor, hf.eq_some_iff, hg.eq_some_iff, List.mem_append, or_and_right, exists_or]
  · refine List.pairwise_append.2 ⟨hf.apart, hg.apart, fun f' hf' g' hg' => apart_iff.2 fun place slot a b ha hb => ?_⟩
    have hfa := (hf.eq_some_iff place slot a).2 ⟨f', hf', ha⟩
    have hgb := (hg.eq_some_iff place slot b).2 ⟨g', hg', hb⟩
    exact apart_iff.1 h place slot a b hfa hgb

theorem map (h : f.SumOf fs) (w : Handler σ → Handler σ) : (f.map w).SumOf (fs.map (Holdings.map w)) := by
  constructor
  · intro place slot a
    show (f place slot).map w = some a ↔ _
    rw [Option.map_eq_some_iff]
    constructor
    · rintro ⟨b, hb, rfl⟩
      obtain ⟨g, hg, hb⟩ := (h.eq_some_iff place slot b).1 hb
      exact ⟨g.map w, List.mem_map_of_mem hg, by rw [Holdings.map, hb]; rfl⟩
    · rintro ⟨_, hmem, ha⟩
      obtain ⟨g, hg, rfl⟩ := List.mem_map.1 hmem
      obtain ⟨b, hb, rfl⟩ := Option.map_eq_some_iff.1 ha
      exact ⟨b, (h.eq_some_iff place slot b).2 ⟨g, hg, hb⟩, rfl⟩
  · exact List.pairwise_map.2 (h.apart.imp fun hfg => hfg.map w)

/-- Some of the summands can be taken for others that have the same together. -/
theorem replace (h : f.SumOf (fs ++ gs)) (hsame : ∀ place slot a, (∃ g ∈ gs, g place slot = some a) ↔
    ∃ g ∈ gs', g place slot = some a) (hgs' : gs'.Pairwise Apart) : f.SumOf (fs ++ gs') := by
  obtain ⟨hfs, -, hcross⟩ := List.pairwise_append.1 h.apart
  constructor
  · intro place slot a
    have hsame := hsame place slot a
    simp only [h.eq_some_iff, List.mem_append, or_and_right, exists_or, hsame]
  · refine List.pairwise_append.2 ⟨hfs, hgs', fun f' hf' g' hg' => apart_iff.2 fun place slot a b ha hb => ?_⟩
    obtain ⟨g'', hg'', hb''⟩ := (hsame place slot b).2 ⟨g', hg', hb⟩
    exact apart_iff.1 (hcross f' hf' g'' hg'') place slot a b ha hb''

end SumOf

end Holdings

/-! ## Registrations -/

/-- A table that was registered: under a template or as the fallback of the router, and what was put around it since,
the last one first. -/
structure Registration (σ : Type) where
  place : Option Text
  table : MethodTable σ
  stack : List Wrapper

namespace Registration

variable {σ : Type}

/-- The handler that is registered at a place for a verb, or for all that no verb answers. -/
def handler? (x : Registration σ) : Holdings σ := fun place slot =>
  if x.place = place then x.table.registered? slot else none

/-- The handlers with what is around them. -/
def holdings (x : Registration σ) : Holdings σ :=
  x.handler?.map fun h s => Wrapper.around x.stack (h s)

/-- With one more around it. -/
def push (w : Wrapper) (x : Registration σ) : Registration σ :=
  { x with stack := w :: x.stack }

/-- As it is registered behind a prefix, which is stripped before it. What was the fallback answers everything there. -/
def behind (front : Text) (x : Registration σ) : Registration σ :=
  ⟨some (Template.join front (x.place.getD Router.catchAll)), x.table, .strip front :: x.stack⟩

/-- Whether a fallback is registered. -/
def hasFallback (xs : List (Registration σ)) : Bool :=
  xs.any (·.place.isNone)

/-- The registrations that are not of a fallback. -/
def templated (xs : List (Registration σ)) : List (Registration σ) :=
  xs.filter (·.place.isSome)

/-- The answer that nothing was found, as it is registered for a layer to be put around it. -/
def finding : Registration σ :=
  ⟨none, .any fun _ => .constant Router.notFound, []⟩

theorem holdings_eq_some_iff {x : Registration σ} {place : Option Text} {slot : Option Verb} {k : Handler σ} :
    x.holdings place slot = some k ↔ x.place = place ∧ ∃ h, x.table.registered? slot = some h ∧
      k = fun s => Wrapper.around x.stack (h s) := by
  unfold holdings Holdings.map handler?
  split
  · rename_i hplace
    simp only [hplace, true_and, Option.map_eq_some_iff, @eq_comm _ _ k]
  · rename_i hplace
    simp [hplace]

theorem place_of_handler? (x : Registration σ) {place : Option Text} {slot : Option Verb} {h : Handler σ}
    (hh : x.handler? place slot = some h) : x.place = place := by
  by_contra hne
  cases (if_neg hne).symm.trans hh

theorem holdings_push (w : Wrapper) (x : Registration σ) :
    (x.push w).holdings = x.holdings.map fun h s => w.toLayer (h s) := by
  funext place slot
  unfold holdings Holdings.map
  rw [Option.map_map]
  rfl

end Registration

/-! ## What a router holds -/

namespace Router

variable {σ : Type} {a b r r' : Router σ} {xs ys : List (Registration σ)}

/-- The table that is registered under a template, or the fallback. -/
def tableAt? (r : Router σ) : Option Text → Option (MethodTable σ)
  | some t => r.tableFor? t
  | none => r.fallback

/-- All handlers of a router. -/
def holdings (r : Router σ) : Holdings σ := fun place slot =>
  (r.tableAt? place).bind (·.registered? slot)

/-- The handlers of a router are those of its registrations, each of them in one registration. -/
structure Records (r : Router σ) (xs : List (Registration σ)) : Prop where
  holdings : r.holdings.SumOf (xs.map (·.holdings))
  fallback : r.fallback.isSome = Registration.hasFallback xs

theorem holdings_eq_some_iff {place : Option Text} {slot : Option Verb} {k : Handler σ} :
    r.holdings place slot = some k ↔ ∃ t, r.tableAt? place = some t ∧ t.registered? slot = some k :=
  Option.bind_eq_some_iff

theorem Records.eq_some_iff (h : r.Records xs) (place : Option Text) (slot : Option Verb) (k : Handler σ) :
    r.holdings place slot = some k ↔ ∃ x ∈ xs, x.holdings place slot = some k := by
  rw [h.holdings.eq_some_iff]
  simp only [List.mem_map, exists_exists_and_eq_and]

theorem records_empty : (empty : Router σ).Records [] := by
  refine ⟨Holdings.SumOf.nil.congr fun place slot => ?_, rfl⟩
  cases place <;> rfl

/-- A router with one table has the handlers of that table. -/
theorem records_endpoint (e : Endpoint σ) : (⟨[e], none⟩ : Router σ).Records [⟨some e.template, e.table, []⟩] := by
  refine ⟨(Holdings.SumOf.single _).congr fun place slot => ?_, rfl⟩
  cases place with
  | none => rfl
  | some t =>
    unfold holdings tableAt?
    dsimp only
    rw [tableFor?_singleton]
    unfold Registration.holdings Holdings.map Registration.handler?
    by_cases ht : e.template = t
    · subst ht
      simp [Wrapper.around]
    · simp [ht]

theorem records_fallback (t : MethodTable σ) : (⟨[], some t⟩ : Router σ).Records [⟨none, t, []⟩] := by
  refine ⟨(Holdings.SumOf.single _).congr fun place slot => ?_, rfl⟩
  cases place with
  | none =>
    unfold holdings tableAt? Registration.holdings Holdings.map Registration.handler?
    simp [Wrapper.around]
  | some t => rfl

/-- Where only one of two routers has a fallback, their union has the tables of both at every place. -/
theorem tableAt?_union (h : a.fallback = none ∨ b.fallback = none) (place : Option Text) :
    (a.union b).tableAt? place = (a.tableAt? place).merge MethodTable.union (b.tableAt? place) := by
  cases place with
  | some t => exact tableFor?_union a b t
  | none =>
    show b.fallback.or a.fallback = a.fallback.merge MethodTable.union b.fallback
    rcases h with h | h <;> rw [h]
    · cases b.fallback <;> rfl
    · cases a.fallback <;> rfl

theorem Apart.tableAt? (hapart : a.Apart b) (h : a.fallback = none ∨ b.fallback = none) {place : Option Text}
    {t u : MethodTable σ} (ht : a.tableAt? place = some t) (hu : b.tableAt? place = some u) : t.Apart u := by
  cases place with
  | some template => exact hapart template t u ht hu
  | none =>
    rcases h with h | h
    · cases h.symm.trans ht
    · cases h.symm.trans hu

/-- The handlers of the union are those of both. -/
theorem Records.union (ha : a.Records xs) (hb : b.Records ys) (hapart : a.Apart b)
    (hfallback : a.fallback = none ∨ b.fallback = none) : (a.union b).Records (xs ++ ys) := by
  constructor
  · rw [List.map_append]
    refine ha.holdings.append hb.holdings (Holdings.apart_iff.2 fun place slot h k hh hk => ?_) fun place slot => ?_
    · obtain ⟨t, ht, hth⟩ := holdings_eq_some_iff.1 hh
      obtain ⟨u, hu, huk⟩ := holdings_eq_some_iff.1 hk
      exact (hapart.tableAt? hfallback ht hu).not_both hth huk
    · unfold Router.holdings
      rw [tableAt?_union hfallback]
      cases a.tableAt? place with
      | none => cases b.tableAt? place <;> rfl
      | some t =>
        cases b.tableAt? place with
        | none => exact (Option.or_none).symm
        | some u => exact t.registered?_union u slot
  · show (b.fallback.or a.fallback).isSome = _
    rw [Option.isSome_or, ha.fallback, hb.fallback, Bool.or_comm]
    exact List.any_append.symm

theorem hasFallback_templated (xs : List (Registration σ)) :
    Registration.hasFallback (Registration.templated xs) = false := by
  unfold Registration.hasFallback Registration.templated
  rw [List.any_eq_false]
  intro x hx
  have hsome : x.place.isSome = true := (List.mem_filter.1 hx).2
  rwa [Option.isNone_iff_eq_none, ← ne_eq, ← Option.isSome_iff_ne_none]

/-- Without its fallback, a router has the other handlers. -/
theorem Records.templated (h : r.Records xs) :
    ({ r with fallback := none } : Router σ).Records (Registration.templated xs) := by
  refine ⟨⟨fun place slot k => ?_, ?_⟩, (hasFallback_templated xs).symm⟩
  · have hmem : (∃ g ∈ (Registration.templated xs).map (·.holdings), g place slot = some k) ↔
        ∃ x ∈ xs, x.place.isSome = true ∧ x.holdings place slot = some k := by
      simp [Registration.templated, and_assoc]
    have hall := h.eq_some_iff place slot k
    rw [hmem]
    cases place with
    | none =>
      refine ⟨fun hnone => (by cases hnone), fun ⟨x, _, hsome, hx⟩ => ?_⟩
      rw [(Registration.holdings_eq_some_iff.1 hx).1] at hsome
      cases hsome
    | some t =>
      refine hall.trans (exists_congr fun x => and_congr_right fun _ => ⟨fun hx => ⟨?_, hx⟩, And.right⟩)
      rw [(Registration.holdings_eq_some_iff.1 hx).1]
      rfl
  · exact h.holdings.apart.sublist (List.Sublist.map _ List.filter_sublist)

/-- There is at most one handler at a place for a verb, in one registration, and the router has it with what is around
it. Where none is registered, the router has none. -/
theorem Records.exists_unique (h : r.Records xs) (place : Option Text) (slot : Option Verb) :
    (r.holdings place slot = none ∧ ∀ x ∈ xs, x.handler? place slot = none) ∨
    ∃ before x behind k, xs = before ++ x :: behind ∧ x.handler? place slot = some k ∧
      (∀ y ∈ before ++ behind, y.handler? place slot = none) ∧
      r.holdings place slot = some fun s => Wrapper.around x.stack (k s) := by
  by_cases hnone : ∀ x ∈ xs, x.handler? place slot = none
  · refine .inl ⟨Option.eq_none_iff_forall_ne_some.2 fun k hk => ?_, hnone⟩
    obtain ⟨x, hx, hheld⟩ := (h.eq_some_iff place slot k).1 hk
    rw [Registration.holdings, Holdings.map, hnone x hx] at hheld
    cases hheld
  · right
    push Not at hnone
    obtain ⟨x, hx, hsome⟩ := hnone
    obtain ⟨k, hk⟩ := Option.ne_none_iff_exists'.1 hsome
    have hheld : x.holdings place slot = some fun s => Wrapper.around x.stack (k s) := by
      rw [Registration.holdings, Holdings.map, hk]
      rfl
    obtain ⟨before, behind, rfl⟩ := List.append_of_mem hx
    refine ⟨before, x, behind, k, rfl, hk, ?_, (h.eq_some_iff place slot _).2 ⟨x, hx, hheld⟩⟩
    -- What is apart from the one that has a handler here has none.
    have hothers : ∀ y : Registration σ, y.holdings.Apart x.holdings → y.handler? place slot = none := by
      intro y hy
      have hfree := (hy place slot).resolve_right (hheld ▸ Option.some_ne_none _)
      exact Option.map_eq_none_iff.1 hfree
    have hpairwise := List.pairwise_map.1 h.holdings.apart
    obtain ⟨-, hrest, hcross⟩ := List.pairwise_append.1 hpairwise
    refine List.forall_mem_append.2 ⟨fun y hy => ?_, fun y hy => ?_⟩
    · exact hothers y (hcross y hy x List.mem_cons_self)
    · exact hothers y (List.rel_of_pairwise_cons hrest hy).symm

/-! ## What steps do to the registrations -/

/-- A table is registered as the router that has nothing else. -/
theorem route_eq_union (hr : r.templates.Nodup) {t : Text} {u : MethodTable σ} (h : (r.route t u).result = .ok r') :
    ∃ route, r.Apart ⟨[⟨t, route, u⟩], none⟩ ∧ r' = r.union ⟨[⟨t, route, u⟩], none⟩ := by
  rcases route_eq_ok.1 h with ⟨ht, h⟩ | ⟨ht, route, -, rfl⟩
  · obtain ⟨e, -, -⟩ := List.mem_map.1 ht
    exact ⟨e.route, (mergeEndpoint_eq_ok_union hr).1 (mergeEndpoint_eq_ok.2 (.inl ⟨ht, h⟩))⟩
  · exact ⟨route, (mergeEndpoint_eq_ok_union hr).1 (mergeEndpoint_eq_ok.2 (.inr ⟨ht, rfl⟩))⟩

theorem Records.route (hr : r.Records xs) (hnodup : r.templates.Nodup) {t : Text} {u : MethodTable σ}
    (h : (r.route t u).result = .ok r') : r'.Records (xs ++ [⟨some t, u, []⟩]) := by
  obtain ⟨route, hapart, rfl⟩ := route_eq_union hnodup h
  exact hr.union (records_endpoint ⟨t, route, u⟩) hapart (.inr rfl)

/-- Tables are registered one after the other. -/
theorem Records.register {name : Text → Text} :
    ∀ {es : List (Text × MethodTable σ)} {r : Router σ} {xs : List (Registration σ)},
    r.Records xs → r.WellFormed → (r.register name es).result = .ok r' →
      r'.Records (xs ++ es.map fun e => ⟨some (name e.1), e.2, []⟩)
  | [], r, xs, hr, _, h => by
    cases h
    rwa [List.map_nil, List.append_nil]
  | e :: es, r, xs, hr, hwf, h => by
    rw [register_cons] at h
    obtain ⟨r₁, h₁, h⟩ := Build.result_bind_eq_ok.1 h
    have hrest := (hr.route hwf.nodup h₁).register ((grows_route h₁).wellFormed hwf) h
    rwa [List.append_assoc, List.singleton_append] at hrest

theorem union_fallback (r : Router σ) (t : MethodTable σ) : r.union ⟨[], some t⟩ = { r with fallback := some t } := by
  simp [union, tableFor?]

/-- A fallback takes the place of the one that was there. -/
theorem Records.withFallback (hr : r.Records xs) (h : Handler σ) :
    (r.withFallback h).Records (Registration.templated xs ++ [⟨none, .any h, []⟩]) := by
  have hunion := hr.templated.union (records_fallback (.any h)) (fun t u w _ hw => by cases hw) (.inl rfl)
  rwa [union_fallback] at hunion

theorem Records.merge {other : Router σ} (hr : r.Records xs) (hother : other.Records ys) (hwf : r.WellFormed)
    (hwf' : other.WellFormed) (h : (r.merge other).result = .ok r') :
    r'.Records ((if Registration.hasFallback ys then Registration.templated xs else xs) ++ ys) := by
  obtain ⟨hapart, rfl⟩ := (merge_eq_ok_union hwf.nodup hwf'.nodup).1 h
  rw [← hother.fallback]
  cases hf : other.fallback with
  | none => exact hr.union hother hapart (.inr hf)
  | some t =>
    -- The other router's fallback is all that counts.
    have hunion : r.union other = ({ r with fallback := none } : Router σ).union other := by
      unfold Router.union
      rw [hf]
      rfl
    rw [hunion]
    exact hr.templated.union hother hapart (.inl rfl)

/-- With a layer around all tables, the layer is around all handlers. -/
theorem holdings_layered (r : Router σ) (l : Layer) :
    (⟨r.endpoints.map (·.mapTable (·.layer l)), r.fallback.map (·.layer l)⟩ : Router σ).holdings =
      r.holdings.map fun h s => l (h s) := by
  funext place slot
  have htable : ∀ t : Option (MethodTable σ), (t.map (·.layer l)).bind (·.registered? slot) =
      (t.bind (·.registered? slot)).map fun h s => l (h s) := by
    rintro (_ | t)
    · rfl
    · exact t.registered?_layer l slot
  cases place with
  | none => exact htable r.fallback
  | some t =>
    refine Eq.trans ?_ (htable (r.tableFor? t))
    unfold holdings tableAt? tableFor?
    dsimp only
    rw [List.find?_map, Option.map_map, Option.map_map]
    rfl

/-- A layer around all tables is around all registrations. -/
theorem Records.pushed (hr : r.Records xs) (w : Wrapper) :
    (⟨r.endpoints.map (·.mapTable (·.layer w.toLayer)), r.fallback.map (·.layer w.toLayer)⟩ : Router σ).Records
      (xs.map (.push w)) := by
  constructor
  · have hmap : (xs.map (Registration.push w)).map (·.holdings) =
        (xs.map (·.holdings)).map (Holdings.map fun h s => w.toLayer (h s)) := by
      rw [List.map_map, List.map_map]
      exact List.map_congr_left fun x _ => x.holdings_push w
    rw [hmap, holdings_layered]
    exact hr.holdings.map _
  · show (r.fallback.map _).isSome = _
    unfold Registration.hasFallback
    rw [Option.isSome_map, hr.fallback, List.any_map]
    rfl

/-- A layer is put around what is there, and around a fallback that finds nothing if there is none. -/
theorem Records.layer (hr : r.Records xs) (l : Layer) : (r.layer l).Records
    ((if Registration.hasFallback xs then xs else xs ++ [Registration.finding]).map (.push (.layer l))) := by
  rw [← hr.fallback]
  cases hf : r.fallback with
  | some t =>
    have hlayer : r.layer l = ⟨r.endpoints.map (·.mapTable (·.layer l)), r.fallback.map (·.layer l)⟩ := by
      rw [Router.layer, hf]
      rfl
    rw [hlayer]
    exact hr.pushed (.layer l)
  | none =>
    have hfinding := hr.union (records_fallback (.any fun _ => .constant notFound))
      (fun t u w _ hw => by cases hw) (.inl hf)
    rw [union_fallback] at hfinding
    have hlayer : r.layer l = ⟨r.endpoints.map (·.mapTable (·.layer l)),
        (some (MethodTable.any fun _ => .constant notFound)).map (·.layer l)⟩ := by
      rw [Router.layer, hf]
      rfl
    rw [hlayer]
    exact hfinding.pushed (.layer l)

/-! ## What is nested -/

/-- The tables of a router at their places. -/
def placed (r : Router σ) : List (Option Text × MethodTable σ) :=
  r.endpoints.map (fun e => (some e.template, e.table)) ++ (r.fallback.map fun t => (none, t)).toList

theorem mem_placed (hr : r.templates.Nodup) {x : Option Text × MethodTable σ} :
    x ∈ r.placed ↔ r.tableAt? x.1 = some x.2 := by
  obtain ⟨place, u⟩ := x
  unfold placed tableAt?
  rw [List.mem_append, List.mem_map, Option.mem_toList, Option.map_eq_some_iff]
  cases place with
  | none => simp
  | some t =>
    simp only [Prod.mk.injEq, Option.some.injEq, reduceCtorEq, false_and, and_false, exists_false, or_false]
    constructor
    · rintro ⟨e, he, rfl, rfl⟩
      exact tableFor?_of_mem hr he
    · exact exists_of_tableFor?

theorem entries_eq (r : Router σ) : r.entries = r.placed.map fun x => (x.1.getD catchAll, x.2) := by
  unfold entries placed
  cases r.fallback <;> simp

/-- A table of a nested router as it is registered behind the prefix, with a layer around it. -/
def placedBehind (front : Text) (strip : Layer) (x : Option Text × MethodTable σ) : Registration σ :=
  ⟨some (Template.join front (x.1.getD catchAll)), x.2.layer strip, []⟩

theorem holdings_placedBehind (front : Text) (strip : Layer) (x : Option Text × MethodTable σ) (slot : Option Verb) :
    (placedBehind front strip x).holdings (some (Template.join front (x.1.getD catchAll))) slot =
      (x.2.registered? slot).map fun h s => strip (h s) := by
  unfold placedBehind Registration.holdings Holdings.map Registration.handler?
  rw [if_pos rfl, MethodTable.registered?_layer, Option.map_map]
  rfl

/-- A handler that a router has behind a prefix: one of the handlers that it has, at its place behind the prefix and
with a layer around it. -/
def HeldBehind (r : Router σ) (front : Text) (strip : Layer) (place : Option Text) (slot : Option Verb)
    (k : Handler σ) : Prop :=
  ∃ p h, some (Template.join front (p.getD catchAll)) = place ∧ r.holdings p slot = some h ∧ k = fun s => strip (h s)

/-- What is registered behind a prefix is what the tables of the nested router have there. -/
theorem exists_placed_iff (hr : r.templates.Nodup) {front : Text} {strip : Layer} {place : Option Text}
    {slot : Option Verb}
    {k : Handler σ} : (∃ x ∈ r.placed, (placedBehind front strip x).holdings place slot = some k) ↔
      r.HeldBehind front strip place slot k := by
  simp only [placedBehind, Registration.holdings_eq_some_iff, MethodTable.registered?_layer, Option.map_eq_some_iff]
  constructor
  · rintro ⟨⟨p, t⟩, hx, hplace, _, ⟨h, hh, rfl⟩, rfl⟩
    exact ⟨p, h, hplace, holdings_eq_some_iff.2 ⟨t, (mem_placed hr).1 hx, hh⟩, rfl⟩
  · rintro ⟨p, h, hplace, hheld, rfl⟩
    obtain ⟨t, ht, hh⟩ := holdings_eq_some_iff.1 hheld
    exact ⟨(p, t), (mem_placed hr).2 ht, hplace, _, ⟨h, hh, rfl⟩, rfl⟩

/-- It is as well what the registrations of the nested router have there. -/
theorem Records.exists_behind_iff (hr : r.Records xs) {front : Text} {place : Option Text} {slot : Option Verb}
    {k : Handler σ} :
    (∃ x ∈ xs, (x.behind front).holdings place slot = some k) ↔
      r.HeldBehind front (Wrapper.strip front).toLayer place slot k := by
  constructor
  · rintro ⟨x, hx, hk⟩
    obtain ⟨hplace, h, hh, rfl⟩ := Registration.holdings_eq_some_iff.1 hk
    have hheld := (hr.eq_some_iff x.place slot _).2 ⟨x, hx, Registration.holdings_eq_some_iff.2 ⟨rfl, h, hh, rfl⟩⟩
    exact ⟨x.place, _, hplace, hheld, rfl⟩
  · rintro ⟨p, h, hplace, hheld, rfl⟩
    obtain ⟨x, hx, hxh⟩ := (hr.eq_some_iff p slot h).1 hheld
    obtain ⟨rfl, h', hh', rfl⟩ := Registration.holdings_eq_some_iff.1 hxh
    exact ⟨x, hx, Registration.holdings_eq_some_iff.2 ⟨hplace, h', hh', rfl⟩⟩

/-- Two tables of a router are apart if they are registered at the same place behind a prefix. -/
theorem apart_of_placed (hr : r.templates.Nodup) {front : Text} {strip : Layer}
    (hplaced : r.placed.Pairwise fun x y =>
      (placedBehind front strip x).holdings.Apart (placedBehind front strip y).holdings)
    {p q : Option Text} {t u : MethodTable σ} (ht : r.tableAt? p = some t) (hu : r.tableAt? q = some u) (hne : p ≠ q)
    (hsame : Template.join front (p.getD catchAll) = Template.join front (q.getD catchAll)) {slot : Option Verb}
    {h k : Handler σ} (hth : t.registered? slot = some h) (huk : u.registered? slot = some k) : False := by
  have hsymm : Std.Symm fun x y : Option Text × MethodTable σ =>
      (placedBehind front strip x).holdings.Apart (placedBehind front strip y).holdings := ⟨fun _ _ h => h.symm⟩
  have hmem : (p, t) ∈ r.placed := (mem_placed hr).2 ht
  have hmem' : (q, u) ∈ r.placed := (mem_placed hr).2 hu
  have hapart := hplaced.forall hmem hmem' fun heq => hne (congrArg Prod.fst heq)
  have hleft := holdings_placedBehind front strip (p, t) slot
  have hright := holdings_placedBehind front strip (q, u) slot
  rw [hth] at hleft
  rw [huk, ← hsame] at hright
  exact Holdings.apart_iff.1 hapart _ slot _ _ hleft hright

/-- What a nested router has behind the prefix is registered there once, if its tables are apart there. -/
theorem Records.pairwise_behind (hr : r.Records xs) {front : Text}
    (htables : ∀ p q t u, r.tableAt? p = some t → r.tableAt? q = some u → p ≠ q →
      Template.join front (p.getD catchAll) = Template.join front (q.getD catchAll) →
      ∀ slot h k, t.registered? slot = some h → u.registered? slot = some k → False) :
    xs.Pairwise fun x y => (x.behind front).holdings.Apart (y.behind front).holdings := by
  have hxs := List.pairwise_map.1 hr.holdings.apart
  refine hxs.imp_of_mem fun {x y} hx hy hxy => Holdings.apart_iff.2 fun place slot a b ha hb => ?_
  obtain ⟨hplace, h, hh, -⟩ := Registration.holdings_eq_some_iff.1 ha
  obtain ⟨hplace', h', hh', -⟩ := Registration.holdings_eq_some_iff.1 hb
  -- The handlers are those that the nested router has at the places of the two registrations.
  have hxh : x.holdings x.place slot = some _ := Registration.holdings_eq_some_iff.2 ⟨rfl, h, hh, rfl⟩
  have hyh : y.holdings y.place slot = some _ := Registration.holdings_eq_some_iff.2 ⟨rfl, h', hh', rfl⟩
  by_cases heq : x.place = y.place
  · rw [heq] at hxh
    exact Holdings.apart_iff.1 hxy y.place slot _ _ hxh hyh
  · obtain ⟨t, ht, hth⟩ := holdings_eq_some_iff.1 ((hr.eq_some_iff _ _ _).2 ⟨x, hx, hxh⟩)
    obtain ⟨u, hu, huh⟩ := holdings_eq_some_iff.1 ((hr.eq_some_iff _ _ _).2 ⟨y, hy, hyh⟩)
    have hjoin := Option.some.inj (hplace.trans hplace'.symm)
    exact htables x.place y.place t u ht hu heq hjoin slot _ _ hth huh

theorem Records.nest {inner : Router σ} (hr : r.Records xs) (hinner : inner.Records ys) (hwf : r.WellFormed)
    (hwf' : inner.WellFormed) {front : Text} (h : (r.nest front inner).result = .ok r') :
    r'.Records (xs ++ ys.map (.behind front)) := by
  obtain ⟨strip, hstrip, h⟩ := nest_eq_ok_register.1 h
  obtain ⟨outer, houter, rfl⟩ := nestLayer_eq_ok hstrip
  have hregister := hr.register hwf h
  rw [entries_eq, List.map_map, List.map_map] at hregister
  have htoLayer := Wrapper.toLayer_strip houter
  constructor
  · have hsum := hregister.holdings
    rw [List.map_append, List.map_map] at hsum ⊢
    obtain ⟨-, hplaced, -⟩ := List.pairwise_append.1 hsum.apart
    refine hsum.replace (fun place slot k => ?_) ?_
    · have hleft := @exists_placed_iff _ inner hwf'.nodup front (.stripping outer.pattern) place slot k
      have hright := @Records.exists_behind_iff _ inner ys hinner front place slot k
      rw [htoLayer] at hright
      simp only [List.mem_map, exists_exists_and_eq_and]
      exact hleft.trans hright.symm
    · rw [List.pairwise_map] at hplaced ⊢
      exact hinner.pairwise_behind fun p q t u ht hu hne hsame slot h k =>
        apart_of_placed hwf'.nodup hplaced ht hu hne hsame
  · rw [(register_kept h).2, hr.fallback]
    unfold Registration.hasFallback
    rw [List.any_append, List.any_map]
    simp [Registration.behind]

end Router

end PathRouter
