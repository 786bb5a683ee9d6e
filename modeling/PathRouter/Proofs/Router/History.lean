/-
Which layers a request passes, and with what URI. A router that is built by steps answers a request by one handler,
behind everything that was put around its table after it was registered (`History.registrations`), and nothing else
(`History.serve_through`). A layer gets the URI that the prefixes outside of it leave: those that its router was nested
behind afterwards, and not those of routers that were nested in it before.
-/
import PathRouter.Proofs.Router.Registrations

namespace PathRouter

/-- How a router is built: from an empty one, by steps. -/
inductive History (σ : Type) where
  | new
  | route (before : History σ) (template : Text) (table : MethodTable σ)
  | fallback (before : History σ) (handler : Handler σ)
  | merge (before other : History σ)
  | nest (before : History σ) (front : Text) (inner : History σ)
  | layer (before : History σ) (l : Layer)

namespace History

variable {σ : Type}

/-- The router that is built. -/
def build : History σ → Build (Router σ)
  | new => return Router.empty
  | route before t table => do
    let r ← before.build
    r.route t table
  | fallback before h => do
    let r ← before.build
    return r.withFallback h
  | merge before other => do
    let r ← before.build
    let r' ← other.build
    r.merge r'
  | nest before front inner => do
    let r ← before.build
    let r' ← inner.build
    r.nest front r'
  | layer before l => do
    let r ← before.build
    return r.layer l

/-- What is registered, each with what was put around it afterwards. A fallback takes the place of an earlier one. A
layer is around all that is registered before, and around a fallback that finds nothing if there is none. -/
def registrations : History σ → List (Registration σ)
  | new => []
  | route before t table => before.registrations ++ [⟨some t, table, []⟩]
  | fallback before h => Registration.templated before.registrations ++ [⟨none, .any h, []⟩]
  | merge before other =>
    (if Registration.hasFallback other.registrations then Registration.templated before.registrations
      else before.registrations) ++ other.registrations
  | nest before front inner => before.registrations ++ inner.registrations.map (.behind front)
  | layer before l =>
    (if Registration.hasFallback before.registrations then before.registrations
      else before.registrations ++ [Registration.finding]).map (.push (.layer l))

/-- The router that is built has the handlers that are registered. -/
theorem records : ∀ {b : History σ} {r : Router σ}, b.build.result = .ok r → r.WellFormed ∧ r.Records b.registrations
  | new, r, h => by
    cases h
    exact ⟨Router.wellFormed_empty, Router.records_empty⟩
  | route before t u, r, h => by
    obtain ⟨r₀, h₀, h⟩ := Build.result_bind_eq_ok.1 h
    obtain ⟨hwf, hrecords⟩ := records h₀
    exact ⟨(Router.grows_route h).wellFormed hwf, hrecords.route hwf.nodup h⟩
  | fallback before handler, r, h => by
    obtain ⟨r₀, h₀, h⟩ := Build.result_bind_eq_ok.1 h
    obtain ⟨hwf, hrecords⟩ := records h₀
    cases h
    have hgrows : r₀.Grows (r₀.withFallback handler) := .of_registered_eq rfl
    exact ⟨hgrows.wellFormed hwf, hrecords.withFallback handler⟩
  | merge before other, r, h => by
    obtain ⟨r₀, h₀, h⟩ := Build.result_bind_eq_ok.1 h
    obtain ⟨r₁, h₁, h⟩ := Build.result_bind_eq_ok.1 h
    obtain ⟨hwf, hrecords⟩ := records h₀
    obtain ⟨hwf', hrecords'⟩ := records h₁
    exact ⟨(Router.grows_merge hwf' h).wellFormed hwf, hrecords.merge hrecords' hwf hwf' h⟩
  | nest before front inner, r, h => by
    obtain ⟨r₀, h₀, h⟩ := Build.result_bind_eq_ok.1 h
    obtain ⟨r₁, h₁, h⟩ := Build.result_bind_eq_ok.1 h
    obtain ⟨hwf, hrecords⟩ := records h₀
    obtain ⟨hwf', hrecords'⟩ := records h₁
    exact ⟨(Router.grows_nest h).wellFormed hwf, hrecords.nest hrecords' hwf hwf' h⟩
  | layer before l, r, h => by
    obtain ⟨r₀, h₀, h⟩ := Build.result_bind_eq_ok.1 h
    obtain ⟨hwf, hrecords⟩ := records h₀
    cases h
    exact ⟨(Router.Grows.of_registered_eq (Router.registered_layer r₀ l)).wellFormed hwf, hrecords.layer l⟩

end History

/-! ## Where a request goes -/

/-- Where a request goes: the template of the endpoint that gets it, unless it is the router's fallback; the verb whose
handler answers it, unless it is the one for all that no verb answers; and the request as it gets there. -/
structure Destination where
  place : Option Text
  slot : Option Verb
  request : Request

namespace Router

variable {σ : Type} {r : Router σ}

/-- Where a request goes in a router. -/
def destination (r : Router σ) (request : Request) : Destination :=
  match r.dispatch? request.uri.path with
  | some (e, p) => ⟨some e.template, e.table.answering? request.method, request.dispatchedBy e p⟩
  | none => ⟨none, r.fallback.bind (·.answering? request.method), request⟩

theorem destination_of_dispatch {request : Request} {e : Endpoint σ} {p : Params}
    (h : r.dispatch? request.uri.path = some (e, p)) :
    r.destination request = ⟨some e.template, e.table.answering? request.method, request.dispatchedBy e p⟩ := by
  unfold destination
  rw [h]

theorem destination_of_none {request : Request} (h : r.dispatch? request.uri.path = none) :
    r.destination request = ⟨none, r.fallback.bind (·.answering? request.method), request⟩ := by
  unfold destination
  rw [h]

theorem uri_destination (r : Router σ) (request : Request) : (r.destination request).request.uri = request.uri := by
  unfold destination
  split <;> rfl

/-- The handler where a request goes answers it. -/
theorem serve_destination (hr : r.WellFormed) {request : Request} {d : Destination} (hd : r.destination request = d)
    {k : Handler σ} (hk : r.holdings d.place d.slot = some k) (s : σ) : ∃ allow events,
      (r.withState s).serve request = ((k s d.request).map (MethodTable.finish request allow)).after events := by
  obtain ⟨t, ht, hk⟩ := holdings_eq_some_iff.1 hk
  cases he : r.dispatch? request.uri.path with
  | some x =>
    obtain ⟨e, p⟩ := x
    cases (destination_of_dispatch he).symm.trans hd
    have htable : e.table = t := Option.some.inj ((tableFor?_of_mem hr.nodup (mem_of_dispatch? he)).symm.trans ht)
    subst htable
    obtain ⟨allow, hserve⟩ := @MethodTable.serve_of_registered? _ _ (request.dispatchedBy e p) _ hk s
    rw [serve_withState he, hserve]
    exact ⟨allow, _, rfl⟩
  | none =>
    cases (destination_of_none he).symm.trans hd
    have hfallback : r.fallback = some t := ht
    have hk' : t.registered? (t.answering? request.method) = some k := by
      rw [hfallback] at hk
      exact hk
    obtain ⟨allow, hserve⟩ := MethodTable.serve_of_registered? hk' s
    have hunmatched : r.unmatched s request = t.serve s request := by
      rw [unmatched, hfallback]
    rw [serve_withState_of_none he, hunmatched, hserve]
    exact ⟨allow, _, rfl⟩

end Router

/-! ## Prefixes that are there -/

namespace Registration

variable {σ : Type} {x : Registration σ} {front : Text}

/-- The prefixes around a table can be stripped, and its template is a plain one behind them. -/
structure Prefixed (x : Registration σ) : Prop where
  strips : Wrapper.Strips x.stack
  template : ∃ t, Template.Plain t ∧ x.place.getD Router.catchAll = Wrapper.joined x.stack t
  fallback : x.place = none → Wrapper.fronts x.stack = []

/-- Where nothing is around a table, its template only has to be plain. -/
theorem prefixed_bare (place : Option Text) (u : MethodTable σ) (h : Template.Plain (place.getD Router.catchAll)) :
    Prefixed ⟨place, u, []⟩ :=
  ⟨List.forall_mem_nil _, ⟨_, h, rfl⟩, fun _ => rfl⟩

theorem Prefixed.push (h : x.Prefixed) (l : Layer) : (x.push (.layer l)).Prefixed :=
  ⟨h.strips, h.template, h.fallback⟩

theorem Prefixed.behind (h : x.Prefixed) (hfront : Template.Nestable front) {route : Route}
    (hroute : Route.compile front .loose = .ok route) : (x.behind front).Prefixed where
  strips := List.forall_mem_cons.2 ⟨⟨hfront, route, hroute⟩, h.strips⟩
  template := by
    obtain ⟨t, ht, hplace⟩ := h.template
    exact ⟨t, ht, congrArg (Template.join front) hplace⟩
  fallback := nofun

end Registration

namespace History

variable {σ : Type}

/-- Plain templates are registered, and routers are nested behind prefixes that can be stripped. -/
def Plain : History σ → Prop
  | new => True
  | route before t _ => before.Plain ∧ Template.Plain t
  | fallback before _ => before.Plain
  | merge before other => before.Plain ∧ other.Plain
  | nest before front inner => before.Plain ∧ Template.Nestable front ∧ inner.Plain
  | layer before _ => before.Plain

/-- In such a router, the prefixes around every table can be stripped. -/
theorem prefixed : ∀ {b : History σ} {r : Router σ}, b.build.result = .ok r → b.Plain →
    ∀ x ∈ b.registrations, x.Prefixed
  | new, r, _, _ => List.forall_mem_nil _
  | route before t u, r, h, hplain => by
    obtain ⟨r₀, h₀, -⟩ := Build.result_bind_eq_ok.1 h
    refine List.forall_mem_append.2 ⟨prefixed h₀ hplain.1, List.forall_mem_singleton.2 ?_⟩
    exact Registration.prefixed_bare (some t) u hplain.2
  | fallback before handler, r, h, hplain => by
    obtain ⟨r₀, h₀, -⟩ := Build.result_bind_eq_ok.1 h
    have hbefore := prefixed h₀ hplain
    refine List.forall_mem_append.2 ⟨fun x hx => hbefore x (List.mem_of_mem_filter hx), List.forall_mem_singleton.2 ?_⟩
    exact Registration.prefixed_bare none _ Router.plain_catchAll
  | merge before other, r, h, hplain => by
    obtain ⟨r₀, h₀, h⟩ := Build.result_bind_eq_ok.1 h
    obtain ⟨r₁, h₁, -⟩ := Build.result_bind_eq_ok.1 h
    have hbefore := prefixed h₀ hplain.1
    refine List.forall_mem_append.2 ⟨?_, prefixed h₁ hplain.2⟩
    split
    · exact fun x hx => hbefore x (List.mem_of_mem_filter hx)
    · exact hbefore
  | nest before front inner, r, h, hplain => by
    obtain ⟨r₀, h₀, h⟩ := Build.result_bind_eq_ok.1 h
    obtain ⟨r₁, h₁, h⟩ := Build.result_bind_eq_ok.1 h
    obtain ⟨hbefore, hfront, hinner⟩ := hplain
    obtain ⟨strip, -, hstrip, -⟩ := Router.nest_eq_ok.1 h
    obtain ⟨route, hroute, -⟩ := Router.nestLayer_eq_ok hstrip
    refine List.forall_mem_append.2 ⟨prefixed h₀ hbefore, List.forall_mem_map.2 fun x hx => ?_⟩
    exact (prefixed h₁ hinner x hx).behind hfront hroute
  | layer before l, r, h, hplain => by
    obtain ⟨r₀, h₀, -⟩ := Build.result_bind_eq_ok.1 h
    have hbefore := prefixed h₀ hplain
    refine List.forall_mem_map.2 fun x hx => Registration.Prefixed.push ?_ l
    split at hx
    · exact hbefore x hx
    · rcases List.mem_append.1 hx with hx | hx
      · exact hbefore x hx
      · rw [List.mem_singleton.1 hx]
        exact Registration.prefixed_bare none _ Router.plain_catchAll

/-- Where plain templates are registered behind prefixes that can be stripped, a request comes to each prefix with a URI
that has it. -/
theorem strip?_of_plain {b : History σ} {r : Router σ} (hb : b.build.result = .ok r) (hplain : b.Plain)
    {request : Request}
    (hrequest : request.uri.WellFormed) {x : Registration σ} (hx : x ∈ b.registrations)
    (hplace : x.place = (r.destination request).place) (outer : List Wrapper) (front : Text) (inner : List Wrapper)
    (hstack : x.stack = outer ++ .strip front :: inner) : ∃ loose, Route.compile front .loose = .ok loose ∧
      loose.pattern.strip? (Wrapper.reach outer request.uri) =
        some (Wrapper.reach (outer ++ [.strip front]) request.uri) := by
  obtain ⟨hwf, -⟩ := records hb
  obtain ⟨hstrips, ⟨t, ht, htemplate⟩, hnone⟩ := prefixed hb hplain x hx
  cases he : r.dispatch? request.uri.path with
  | some y =>
    obtain ⟨e, p⟩ := y
    rw [Router.destination_of_dispatch he] at hplace
    rw [hplace] at htemplate
    obtain ⟨-, -, -, hexec, -⟩ := Router.dispatch?_eq_some_iff.1 he
    have hroute := hwf.compiled _ (List.mem_map_of_mem (Router.mem_of_dispatch? he))
    have hjoined : Route.compile (Wrapper.joined x.stack t) .strict = .ok e.route := by
      rw [← htemplate]
      exact hroute
    exact Wrapper.strip?_of_exec ht hstrips hjoined hexec hrequest outer front inner hstack
  | none =>
    -- No prefix is stripped around the fallback.
    rw [Router.destination_of_none he] at hplace
    have hfronts := hnone hplace
    rw [hstack] at hfronts
    unfold Wrapper.fronts at hfronts
    rw [List.filterMap_append] at hfronts
    exact absurd hfronts (List.append_ne_nil_of_right_ne_nil _ (List.cons_ne_nil _ _))

/-! ## What a request passes -/

/-- The answer to a request in a router that is built by steps. Where the request goes, either the router has no
handler and none is registered, or just one is, in one registration. That one answers, behind what was put around its
table after it was registered, what was put there last being outermost. As far as layers keep the URI, what is behind a
part of the stack is asked only about the URI that the prefixes in that part leave; and where plain templates are
registered behind prefixes that can be stripped, each prefix is there to be stripped. -/
theorem serve_through {b : History σ} {r : Router σ} (hb : b.build.result = .ok r) {request : Request} {d : Destination}
    (hd : r.destination request = d) (s : σ) :
    (r.holdings d.place d.slot = none ∧ ∀ x ∈ b.registrations, x.handler? d.place d.slot = none) ∨
    ∃ before x behind h, b.registrations = before ++ x :: behind ∧ x.handler? d.place d.slot = some h ∧
      (∀ y ∈ before ++ behind, y.handler? d.place d.slot = none) ∧
      (∃ allow events, (r.withState s).serve request =
        ((Wrapper.around x.stack (h s) d.request).map (MethodTable.finish request allow)).after events) ∧
      (∀ outer inner, x.stack = outer ++ inner → (∀ l, .layer l ∈ outer → l.KeepsUri) →
        Wrapper.around x.stack = Wrapper.around outer ∘ Wrapper.around inner ∧
        (Wrapper.around outer).AsksOnly d.request (Wrapper.reach outer request.uri)) ∧
      (b.Plain → request.uri.WellFormed → ∀ outer front inner, x.stack = outer ++ .strip front :: inner →
        ∃ loose, Route.compile front .loose = .ok loose ∧ loose.pattern.strip? (Wrapper.reach outer request.uri) =
          some (Wrapper.reach (outer ++ [.strip front]) request.uri)) := by
  obtain ⟨hwf, hrecords⟩ := records hb
  rcases hrecords.exists_unique d.place d.slot with hnone | ⟨before, x, behind, h, hsplit, hh, hothers, hheld⟩
  · exact .inl hnone
  · refine .inr ⟨before, x, behind, h, hsplit, hh, hothers, ?_, ?_, ?_⟩
    · exact Router.serve_destination hwf hd hheld s
    · intro outer inner hstack hkeeps
      have huri : d.request.uri = request.uri := hd ▸ r.uri_destination request
      rw [hstack, ← huri]
      exact ⟨Wrapper.around_append outer inner, Wrapper.asksOnly_around hkeeps d.request⟩
    · intro hplain hrequest outer front inner hstack
      have hx : x ∈ b.registrations := hsplit ▸ List.mem_append_right _ List.mem_cons_self
      have hplace : x.place = (r.destination request).place := by
        rw [hd]
        exact x.place_of_handler? hh
      exact strip?_of_plain hb hplain hrequest hx hplace outer front inner hstack

/-- A nested router with a layer, another layer around it, and a handler added afterwards under the same template. The
handler from before is behind both layers, the inner one of which gets the URI without the prefix; the one added
afterwards passes none. -/
theorem serve_through_nested : ∃ (b : History Unit) (r : Router Unit) (get post : Request) (x : Registration Unit)
    (h : Handler Unit), get = .new (.verb .get) ⟨none, none, "/p/x".toList, none⟩ ∧
    post = .new (.verb .post) ⟨none, none, "/p/x".toList, none⟩ ∧ b.build.result = .ok r ∧ x ∈ b.registrations ∧
    x.stack = [.layer (.tagged "B".toList), .strip "/p".toList, .layer (.tagged "A".toList)] ∧
    (∃ allow events, (r.withState ()).serve get = ((Wrapper.around x.stack (h ()) (r.destination get).request).map
      (MethodTable.finish get allow)).after events) ∧
    Wrapper.around x.stack = Wrapper.around [.layer (.tagged "B".toList), .strip "/p".toList] ∘
      Layer.tagged "A".toList ∧
    (Wrapper.around [.layer (.tagged "B".toList), .strip "/p".toList]).AsksOnly (r.destination get).request
      ⟨none, none, "/x".toList, none⟩ ∧
    (∃ loose, Route.compile "/p".toList .loose = .ok loose ∧
      loose.pattern.strip? get.uri = some ⟨none, none, "/x".toList, none⟩) ∧
    (r.serve get).response.passages = [⟨"A".toList, ⟨none, none, "/x".toList, none⟩, some "/p/x".toList⟩,
      ⟨"B".toList, ⟨none, none, "/p/x".toList, none⟩, some "/p/x".toList⟩] ∧
    (r.serve post).response.passages = [] := by
  let handler : Handler Unit := fun _ => .constant (.plain 200 [])
  let finding : MethodTable Unit := .any fun _ => .constant Router.notFound
  let b : History Unit := .route (.layer (.nest .new "/p".toList (.layer (.route .new "/x".toList (.on [.get] handler))
    (.tagged "A".toList))) (.tagged "B".toList)) "/p/x".toList (.on [.post] handler)
  let get : Request := .new (.verb .get) ⟨none, none, "/p/x".toList, none⟩
  let post : Request := .new (.verb .post) ⟨none, none, "/p/x".toList, none⟩
  let stack : List Wrapper := [.layer (.tagged "B".toList), .strip "/p".toList, .layer (.tagged "A".toList)]
  have hserve : b.build.result.map (fun r => ((r.destination get).place, (r.destination get).slot,
      (r.serve get).response.passages, (r.serve post).response.passages)) = .ok (some "/p/x".toList, some .get,
        [⟨"A".toList, ⟨none, none, "/x".toList, none⟩, some "/p/x".toList⟩,
          ⟨"B".toList, ⟨none, none, "/p/x".toList, none⟩, some "/p/x".toList⟩], []) := by decide +kernel
  have hregistrations : b.registrations = [⟨some "/p/x".toList, .on [.get] handler, stack⟩,
      ⟨some "/p/*?".toList, finding, stack⟩, ⟨none, finding, [.layer (.tagged "B".toList)]⟩,
      ⟨some "/p/x".toList, .on [.post] handler, []⟩] := rfl
  have hplain : b.Plain := by
    have hfront : Template.Nestable "/p".toList := by
      constructor <;> rw [show Template.segments "/p".toList = [.literal "p".toList] by decide]
      · exact List.forall_mem_singleton.2 (by decide : PlainText "p".toList)
      · exact ⟨_, List.mem_cons_self, nofun⟩
    have hinner : Template.Plain "/x".toList := by
      rw [Template.Plain, show Template.segments "/x".toList = [.literal "x".toList] by decide]
      exact List.forall_mem_singleton.2 (by decide : PlainText "x".toList)
    have hadded : Template.Plain "/p/x".toList := by
      rw [Template.Plain, show Template.segments "/p/x".toList = [.literal "p".toList, .literal "x".toList] by decide]
      exact List.forall_mem_cons.2 ⟨(by decide : PlainText "p".toList), List.forall_mem_singleton.2
        (by decide : PlainText "x".toList)⟩
    exact ⟨⟨trivial, hfront, trivial, hinner⟩, hadded⟩
  obtain ⟨r, hb, hresults⟩ := Build.map_eq_ok.1 hserve
  obtain ⟨hplace, hresults⟩ := Prod.mk.inj hresults
  obtain ⟨hslot, hresults⟩ := Prod.mk.inj hresults
  obtain ⟨hget, hpost⟩ := Prod.mk.inj hresults
  have hdestination : r.destination get = r.destination get := rfl
  rcases serve_through hb hdestination () with
    ⟨-, hnone⟩ | ⟨before, x, behind, h, hsplit, hh, -, hanswer, hlayers, hstrips⟩
  · rw [← hplace, ← hslot, hregistrations] at hnone
    cases hnone _ List.mem_cons_self
  · have hx : x ∈ b.registrations := hsplit ▸ List.mem_append_right _ List.mem_cons_self
    -- The other registrations are for other places, or for the other verb.
    have hstack : x.stack = stack := by
      rw [← hplace, ← hslot] at hh
      rw [hregistrations] at hx
      simp only [List.mem_cons, List.not_mem_nil, or_false] at hx
      rcases hx with rfl | rfl | rfl | rfl
      · rfl
      · rfl
      · cases hh
      · cases hh
    have htagged : ∀ l, .layer l ∈ [.layer (.tagged "B".toList), Wrapper.strip "/p".toList] → l.KeepsUri := by
      intro l hl
      simp only [List.mem_cons, Wrapper.layer.injEq, List.not_mem_nil, or_false, reduceCtorEq] at hl
      rw [hl]
      exact Layer.keepsUri_tagged _
    obtain ⟨haround, hasks⟩ := hlayers _ [.layer (.tagged "A".toList)] hstack htagged
    obtain ⟨loose, hloose, hstrip⟩ :=
      hstrips hplain (Uri.wellFormed_of_place (.inr rfl)) [.layer (.tagged "B".toList)] _ _ hstack
    have hreach : Wrapper.reach [.layer (.tagged "B".toList), .strip "/p".toList] get.uri =
        ⟨none, none, "/x".toList, none⟩ := by decide +kernel
    refine ⟨b, r, get, post, x, h, rfl, rfl, hb, hx, hstack, hanswer, haround, hreach ▸ hasks, ⟨loose, hloose, ?_⟩,
      hget.symm, hpost.symm⟩
    exact hstrip.trans (congrArg some hreach)

/-- A layer around a router that is nested afterwards can get a URI that has not been stripped: where the template
behind the prefix matches a path that the prefix does not match. -/
theorem serve_through_unstripped : ∃ (r : Router Unit) (handler : Handler Unit) (request : Request),
    request = .new (.verb .get) ⟨none, none, "/px".toList, none⟩ ∧
    (nest new "/p".toList (layer (route new "?x".toList (.on [.get] handler)) (.tagged "A".toList))).build.result =
      .ok r ∧
    (r.serve request).response.status = 203 ∧ handler () request = ⟨.plain 203 [], []⟩ ∧
    (r.serve request).response.passages = [⟨"A".toList, ⟨none, none, "/px".toList, none⟩, some "/p/?x".toList⟩] := by
  let handler : Handler Unit := fun _ => .constant (.plain 203 [])
  let request : Request := .new (.verb .get) ⟨none, none, "/px".toList, none⟩
  let b : History Unit := nest new "/p".toList (layer (route new "?x".toList (.on [.get] handler)) (.tagged "A".toList))
  have hserve : b.build.result.map (fun r => ((r.serve request).response.status, (r.serve request).response.passages)) =
      .ok (203, [⟨"A".toList, ⟨none, none, "/px".toList, none⟩, some "/p/?x".toList⟩]) := by decide +kernel
  obtain ⟨r, hb, hresponse⟩ := Build.map_eq_ok.1 hserve
  obtain ⟨hstatus, hpassages⟩ := Prod.mk.inj hresponse
  exact ⟨r, handler, request, rfl, hb, hstatus.symm, rfl, hpassages.symm⟩

end History

end PathRouter
