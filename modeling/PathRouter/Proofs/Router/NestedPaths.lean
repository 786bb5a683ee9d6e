/-
What a handler behind a prefix sees. A router dispatches by the joined template, and the layer of the prefix cuts the
path with a pattern of its own; both agree on where the prefix ends (`Template.exec_join`). So a handler that is nested
gets a path that the template it was registered under matches by itself, with the values that the joined route captured
(`Router.nest_join`).
-/
import PathRouter.Proofs.Router.History

namespace PathRouter

namespace Router

variable {σ : Type} {r r' inner : Router σ} {front : Text}

/-! ## Handlers behind a prefix -/

theorem nodup_placed (hr : r.templates.Nodup) : (r.placed.map Prod.fst).Nodup := by
  have hplaces : r.placed.map Prod.fst = r.templates.map some ++ (r.fallback.map fun _ => none).toList := by
    unfold placed templates
    rw [List.map_append, List.map_map, List.map_map]
    cases r.fallback <;> rfl
  rw [hplaces]
  refine List.nodup_append.2 ⟨hr.map (Option.some_injective _), ?_, ?_⟩
  · cases r.fallback <;> simp
  · intro place hplace place' hplace' heq
    obtain ⟨t, -, rfl⟩ := List.mem_map.1 hplace
    cases hf : r.fallback <;> rw [hf] at hplace' <;> simp [← heq] at hplace'

/-- Any router has the handlers of its tables, with nothing around them. -/
theorem records_placed (hr : r.templates.Nodup) : r.Records (r.placed.map fun x => ⟨x.1, x.2, []⟩) := by
  refine ⟨⟨fun place slot k => ?_, ?_⟩, ?_⟩
  · simp only [List.mem_map, exists_exists_and_eq_and, Registration.holdings_eq_some_iff, holdings_eq_some_iff]
    constructor
    · rintro ⟨t, ht, hk⟩
      exact ⟨(place, t), (mem_placed hr).2 ht, rfl, k, hk, rfl⟩
    · rintro ⟨x, hx, rfl, k, hk, rfl⟩
      exact ⟨x.2, (mem_placed hr).1 hx, hk⟩
  · -- Different tables stand at different places.
    have hplaces := List.pairwise_map.1 (List.nodup_iff_pairwise_ne.1 (nodup_placed hr))
    refine List.pairwise_map.2 (List.pairwise_map.2 (hplaces.imp fun hne => ?_))
    refine Holdings.apart_iff.2 fun place slot a b ha hb => hne ?_
    exact (Registration.holdings_eq_some_iff.1 ha).1.trans (Registration.holdings_eq_some_iff.1 hb).1.symm
  · unfold Registration.hasFallback placed
    cases hf : r.fallback <;> simp

/-- A handler of a nested router is there behind the prefix, which is stripped before it. -/
theorem holdings_nest (hr : r.WellFormed) (hinner : inner.WellFormed) (h : (r.nest front inner).result = .ok r')
    {outer : Route} (houter : Route.compile front .loose = .ok outer) {place : Option Text} {slot : Option Verb}
    {k : Handler σ} (hk : inner.holdings place slot = some k) :
    r'.holdings (some (Template.join front (place.getD catchAll))) slot = some fun s =>
      Layer.stripping outer.pattern (k s) := by
  have hrecords := (records_placed hr.nodup).nest (records_placed hinner.nodup) hr hinner h
  obtain ⟨x, hx, hheld⟩ := (records_placed hinner.nodup).exists_behind_iff.2 ⟨place, k, rfl, hk, rfl⟩
  rw [Wrapper.toLayer_strip houter] at hheld
  exact (hrecords.eq_some_iff _ _ _).2 ⟨_, List.mem_append_right _ (List.mem_map_of_mem hx), hheld⟩

/-- Stripping the prefix of a nested router agrees with the joined template. Where the route of a plain template
behind a prefix matches a path, the path is cut behind the prefix if that has a loose route, which it has if the
template has any segment. Without a loose route, which only its size can prevent, nothing is nested behind the prefix.
Where a router is nested, and a request is dispatched to a template behind the prefix, a handler that is registered
under the template gets the path that is cut off. The route of the template alone matches that path, and the values
are those that the joined route captured, which are recorded for the handler. -/
theorem nest_join {front back : Text} (hfront : Template.Nestable front) (hback : Template.Plain back) :
    (∀ (joined : Route) (path : Text) (c : Captures), Route.compile (Template.join front back) .strict = .ok joined →
      joined.pattern.exec path = some c →
      joined.exec path = some ⟨Template.named (Template.keys front) (c.groups.take (Template.keys front).length) ++
        Template.named (Template.keys back) (c.groups.drop (Template.keys front).length)⟩ ∧
      ((∃ s ∈ Template.segments back, s ≠ .empty) → ∃ outer, Route.compile front .loose = .ok outer) ∧
      ∃ own, Route.compile back .strict = .ok own ∧ ∀ outer, Route.compile front .loose = .ok outer →
        ∃ rest, Template.Cut front back outer own path c rest) ∧
    (∀ cause, Route.compile front .loose = .error cause → cause = ⟨front, .tooLarge⟩ ∧
      ∀ r inner : Router σ, (r.nest front inner).result = .error (.invalidTemplate front)) ∧
    ∀ (r inner r' : Router σ) (e : Endpoint σ) (request : Request) (d : Destination) (k : Handler σ), r.WellFormed →
      inner.WellFormed → (r.nest front inner).result = .ok r' → e ∈ inner.endpoints → e.template = back →
      request.uri.WellFormed → r'.destination request = d → d.place = some (Template.join front back) →
      e.table.registered? d.slot = some k →
      ∃ outer c rest, Route.compile front .loose = .ok outer ∧
        Template.Cut front back outer e.route request.uri.path c rest ∧
        d.request.recorded =
          some (Params.decode ⟨Template.named (Template.keys front) (c.groups.take (Template.keys front).length) ++
            Template.named (Template.keys back) (c.groups.drop (Template.keys front).length)⟩) ∧
        ∀ s, ∃ allow events, (r'.withState s).serve request =
          ((k s { d.request with uri := { request.uri with path := rest } }).map
            (MethodTable.finish request allow)).after
            events := by
  have hplain : Template.Plain front := fun s hs => (hfront.rigid s hs).plain
  refine ⟨fun joined path c hjoined hc => Template.exec_join hfront.rigid hfront.solid hback hjoined hc,
    fun cause hcause => ⟨Template.compile_eq_error hplain hcause,
      fun r inner => Build.result_bind_of_error (hfront.nestLayer_eq_error hcause) _⟩, ?_⟩
  rintro r inner r' e request d k hr hinner hnest he rfl huri hd hplace hk
  obtain ⟨strip, -, hstrip, -⟩ := nest_eq_ok.1 hnest
  obtain ⟨outer, houter, -⟩ := nestLayer_eq_ok hstrip
  have hwf := (grows_nest hnest).wellFormed hr
  -- The handler is at the joined template, behind the layer that strips the prefix.
  have hheld : inner.holdings (some e.template) d.slot = some k :=
    holdings_eq_some_iff.2 ⟨e.table, tableFor?_of_mem hinner.nodup he, hk⟩
  have hnested := holdings_nest hr hinner hnest houter hheld
  rw [Option.getD_some, ← hplace] at hnested
  cases hdispatch : r'.dispatch? request.uri.path with
  | none =>
    rw [← hd, destination_of_none hdispatch] at hplace
    cases hplace
  | some x =>
    obtain ⟨e', p⟩ := x
    have hdispatched := hd.symm.trans (destination_of_dispatch hdispatch)
    have htemplate : e'.template = Template.join front e.template :=
      Option.some.inj ((congrArg (·.place) hdispatched).symm.trans hplace)
    have hrecorded : d.request.recorded = some p.decode := congrArg (·.request.recorded) hdispatched
    -- What was dispatched is matched by the route of the joined template, so that its path is cut behind the prefix.
    obtain ⟨-, -, -, hexec, -⟩ := dispatch?_eq_some_iff.1 hdispatch
    have hjoined := hwf.compiled _ (List.mem_map_of_mem (mem_of_dispatch? hdispatch))
    rw [htemplate] at hjoined
    obtain ⟨c, hc, -⟩ := Option.map_eq_some_iff.1 hexec
    obtain ⟨hparams, -, own, hown, hcuts⟩ := Template.exec_join hfront.rigid hfront.solid hback hjoined hc
    cases hown.symm.trans (hinner.compiled _ (List.mem_map_of_mem he))
    cases hexec.symm.trans hparams
    obtain ⟨rest, hcut⟩ := hcuts outer houter
    refine ⟨outer, c, rest, houter, hcut, hrecorded, fun s => ?_⟩
    obtain ⟨allow, events, hserve⟩ := serve_destination hwf hd hnested s
    have hstripped : outer.pattern.strip? d.request.uri = some { request.uri with path := rest } := by
      rw [← hd, uri_destination]
      exact hcut.strip request.uri huri rfl
    rw [Layer.stripping_eq hstripped, Answer.map_after, Answer.after_after] at hserve
    exact ⟨allow, _, hserve⟩

/-- Where nothing is left but a slash, the template behind the prefix has its optional value missing, and its handler
gets the slash as the path. -/
theorem nest_join_slash : ∃ (outer own : Route) (nested : Router Unit) (k : Handler Unit) (request asked : Request),
    Route.compile "/t/:name.d".toList .loose = .ok outer ∧ Route.compile "/:id?".toList .strict = .ok own ∧
    outer.exec "/T/x.d/".toList = some ⟨[("name".toList, "x".toList)]⟩ ∧ own.exec "/".toList = some ⟨[]⟩ ∧
    (empty.nest "/t/:name.d".toList ⟨[⟨"/:id?".toList, own, .on [.get] k⟩], none⟩).result = .ok nested ∧
    request.uri.path = "/T/x.d/".toList ∧ asked.uri.path = "/".toList ∧
    asked.recorded = some (.ok [("name".toList, "x".toList)]) ∧
    ∃ allow events, (nested.withState ()).serve request =
      ((k () asked).map (MethodTable.finish request allow)).after events := by
  have hfront : Template.Nestable "/t/:name.d".toList := by
    constructor <;> rw [show Template.segments "/t/:name.d".toList =
      [.literal "t".toList, .param ⟨"name".toList, false, none, some ".d".toList⟩] by decide]
    · simp only [List.forall_mem_cons, List.not_mem_nil, false_imp_iff, implies_true, and_true]
      exact ⟨(by decide : PlainText "t".toList),
        ⟨rfl, fun s hs => ⟨"d".toList, (Option.some.inj hs).symm, by decide⟩⟩, rfl⟩
    · exact ⟨_, List.mem_cons_self, nofun⟩
  have hback : Template.Plain "/:id?".toList := by
    rw [Template.Plain, show Template.segments "/:id?".toList = [.param ⟨"id".toList, true, none, none⟩] by decide]
    exact List.forall_mem_singleton.2 ⟨rfl, fun s hs => (by cases hs)⟩
  obtain ⟨own, hown, hempty⟩ : ∃ own, Route.compile "/:id?".toList .strict = .ok own ∧
      own.exec "/".toList = some ⟨[]⟩ :=
    ⟨_, rfl, rfl⟩
  let k : Handler Unit := fun _ => .constant (.plain 200 [])
  let e : Endpoint Unit := ⟨"/:id?".toList, own, .on [.get] k⟩
  let request : Request := .new (.verb .get) ⟨none, none, "/T/x.d/".toList, none⟩
  have hinner : (⟨[e], none⟩ : Router Unit).WellFormed :=
    (grows_route (route_of_fresh List.not_mem_nil hown (.on [.get] k))).wellFormed wellFormed_empty
  obtain ⟨outer, houter, hbefore, hremainder⟩ : ∃ outer, Route.compile "/t/:name.d".toList .loose = .ok outer ∧
      outer.exec "/T/x.d/".toList = some ⟨[("name".toList, "x".toList)]⟩ ∧
      outer.pattern.remainder? "/T/x.d/".toList = some "/".toList := ⟨_, rfl, rfl, rfl⟩
  obtain ⟨joined, hjoined, hexec⟩ : ∃ joined, Route.compile "/t/:name.d/:id?".toList .strict = .ok joined ∧
      joined.exec "/T/x.d/".toList = some ⟨[("name".toList, "x".toList)]⟩ := ⟨_, rfl, rfl⟩
  let e' : Endpoint Unit := ⟨"/t/:name.d/:id?".toList, joined,
    (MethodTable.on [.get] k).layer (.stripping outer.pattern)⟩
  have hnested : (empty.nest "/t/:name.d".toList ⟨[e], none⟩).result = .ok ⟨[e'], none⟩ :=
    nest_eq_ok.2 ⟨_, _, hfront.nestLayer_eq_ok.2 ⟨outer, houter, rfl⟩,
      Build.result_bind_eq_ok.2 ⟨_, route_of_fresh List.not_mem_nil hjoined _, rfl⟩, .inl ⟨rfl, rfl⟩⟩
  have hd : (⟨[e'], none⟩ : Router Unit).destination request = _ := destination_of_dispatch (dispatch?_singleton hexec)
  obtain ⟨-, -, hserve⟩ := @nest_join Unit _ _ hfront hback
  obtain ⟨outer', c, rest, houter', hcut, -, hanswer⟩ :=
    hserve empty ⟨[e], none⟩ _ e request _ k wellFormed_empty hinner
    hnested List.mem_cons_self rfl (Uri.wellFormed_of_place (.inr rfl)) hd rfl rfl
  cases houter.symm.trans houter'
  cases hremainder.symm.trans hcut.remainder
  have hdecode : Params.decode ⟨[("name".toList, "x".toList)]⟩ = .ok [("name".toList, "x".toList)] := by decide +kernel
  exact ⟨outer, own, _, k, request, _, houter, hown, hbefore, hempty, hnested, rfl, rfl,
    congrArg some hdecode, hanswer ()⟩

/-- Where a prefix that ends in no slash is joined with nothing but a slash, that is dropped. -/
theorem join_replicate_slash {c : Char} (hc : c ≠ '/') (n : Nat) :
    Template.join ('/' :: List.replicate (n + 1) c) "/".toList = '/' :: List.replicate (n + 1) c := by
  rw [Template.join_eq, Template.headed_of_eq_nil (by decide), List.append_nil, Text.trimEnd, List.reverse_cons,
    List.reverse_replicate, List.replicate_succ, List.cons_append, Text.trimStart_cons_of_ne hc, ← List.cons_append,
    ← List.replicate_succ, List.reverse_append, List.reverse_replicate, List.reverse_singleton, List.singleton_append]

/-- A prefix of one long segment that is too large for a loose route alone. -/
theorem nest_join_replicate {c : Char} (hc : c ≠ '/' ∧ c ≠ '*' ∧ c ≠ ':') (hm : c ∉ Regex.metaChars) {n : Nat}
    (hle : 32 * n + 360 ≤ Regex.maxSize) (hlt : Regex.maxSize < 32 * n + 424) :
    ∃ (front : Text) (joined : Route) (c' : Captures), front = '/' :: List.replicate (n + 1) c ∧
      Template.Nestable front ∧ Template.Plain "/".toList ∧
      Route.compile (Template.join front "/".toList) .strict = .ok joined ∧ joined.pattern.exec front = some c' ∧
      Route.compile front .loose = .error ⟨front, .tooLarge⟩ := by
  have hplain := Template.plain_replicate hc hm n
  have hsize := Template.leastSize_replicate hc n
  obtain ⟨joined, hjoined⟩ : ∃ joined, Route.compile ('/' :: List.replicate (n + 1) c) .strict = .ok joined :=
    Template.exists_compile hplain (by omega)
  have hfits : (joined.exec ('/' :: List.replicate (n + 1) c)).isSome = true := by
    refine (Template.isSome_exec_iff hplain hjoined).2 ⟨[], _, [], (List.append_nil _).symm, ?_, rfl⟩
    rw [Template.segments_replicate hc]
    have htakes := Template.Takes.cons (.literal (Alike.refl (List.replicate (n + 1) c))) .nil
    rwa [List.append_nil, List.append_nil] at htakes
  rw [Route.exec, Option.isSome_map] at hfits
  obtain ⟨c', hc'⟩ := Option.isSome_iff_exists.1 hfits
  refine ⟨_, joined, c', rfl, nestable_replicate hc hm n, ?_, by rw [join_replicate_slash hc.1]; exact hjoined, hc', ?_⟩
  · rw [Template.Plain, show Template.segments "/".toList = [.empty] by decide]
    exact List.forall_mem_singleton.2 trivial
  · rw [Template.compile_eq hplain, if_pos]
    rw [Template.leastSize_loose]
    omega

/-- A prefix alone can be too large for a loose route where the joined template is not too large for its own. -/
theorem nest_join_tooLarge : ∃ (front : Text) (joined : Route) (c : Captures),
    front = '/' :: List.replicate 327669 '1' ∧
    Template.Nestable front ∧ Template.Plain "/".toList ∧
    Route.compile (Template.join front "/".toList) .strict = .ok joined ∧ joined.pattern.exec front = some c ∧
    Route.compile front .loose = .error ⟨front, .tooLarge⟩ :=
  nest_join_replicate (c := '1') (n := 327668) (by decide) (by decide) (by decide) (by decide)

end Router

end PathRouter
