/-
What building steps do when they succeed, one lemma for each step. Chains of steps (`Build.foldlM_induction`) and
everything that is proved about a step by its cases start from here.
-/
import PathRouter.Router
import PathRouter.Proofs.Regex.Escapes

namespace PathRouter

/-! ## Building steps that succeed -/

namespace Build

variable {α β : Type}

@[simp] theorem result_pure (a : α) : (pure a : Build α).result = .ok a := rfl

@[simp] theorem result_fail (e : BuildError) : (fail e : Build α).result = .error e := rfl

@[simp] theorem result_ofExcept (x : Except BuildError α) : (ofExcept x).result = x := rfl

theorem result_bind_of_ok {x : Build α} {a : α} (h : x.result = .ok a) (f : α → Build β) :
    (x >>= f).result = (f a).result := by
  obtain ⟨events, result⟩ := x
  cases h
  rfl

theorem result_bind_of_error {x : Build α} {e : BuildError} (h : x.result = .error e) (f : α → Build β) :
    (x >>= f).result = .error e := by
  obtain ⟨events, result⟩ := x
  cases h
  rfl

/-- One step behind another one succeeds if both do. -/
theorem result_bind_eq_ok {x : Build α} {f : α → Build β} {b : β} :
    (x >>= f).result = .ok b ↔ ∃ a, x.result = .ok a ∧ (f a).result = .ok b := by
  cases h : x.result with
  | error e => simp [result_bind_of_error h]
  | ok a => simp [result_bind_of_ok h]

/-- A report changes nothing in how a step ends. -/
theorem result_report_bind (events : List Event) (f : Unit → Build β) :
    (report events >>= f).result = (f ()).result := rfl

/-- What is made of a result is there if the result is. -/
theorem map_eq_ok {ε : Type} {x : Except ε α} {f : α → β} {b : β} : x.map f = .ok b ↔ ∃ a, x = .ok a ∧ b = f a := by
  cases x with
  | error e => exact ⟨fun h => (by cases h), fun ⟨a, h, _⟩ => (by cases h)⟩
  | ok a => exact ⟨fun h => ⟨a, rfl, (Except.ok.inj h).symm⟩, fun ⟨a', h, hb⟩ => by cases h; rw [hb]; rfl⟩

/-- What every step of a chain keeps is kept by the chain. -/
theorem foldlM_induction {f : β → α → Build β} {P : β → Prop} : ∀ {xs : List α} {b b' : β}, P b →
    (∀ b x b', x ∈ xs → P b → (f b x).result = .ok b' → P b') → (xs.foldlM f b).result = .ok b' → P b'
  | [], b, b', hb, _, h => by
    cases h
    exact hb
  | x :: xs, b, b', hb, hstep, h => by
    rw [List.foldlM_cons, result_bind_eq_ok] at h
    obtain ⟨b₁, h₁, h⟩ := h
    have hb₁ : P b₁ := hstep b x b₁ List.mem_cons_self hb h₁
    exact foldlM_induction hb₁ (fun b y b' hy => hstep b y b' (List.mem_cons_of_mem x hy)) h

end Build

theorem Template.result_compile {t : Text} {mode : Template.Mode} {route : Route} :
    (Template.compile t mode).result = .ok route ↔ Route.compile t mode = .ok route := by
  rw [Template.compile, Build.result_report_bind]
  cases Route.compile t mode <;> simp

/-- A layer is put around the handlers of a table if there are any. -/
theorem MethodTable.routeLayer_eq_ok {σ : Type} {t t' : MethodTable σ} {l : Layer} :
    t.routeLayer l = .ok t' ↔ (∃ v, (t.handlers v).isSome = true) ∧ t' = t.mapHandlers l := by
  have hany : (Verb.all.any fun v => (t.handlers v).isSome) = true ↔ ∃ v, (t.handlers v).isSome = true := by
    rw [List.any_eq_true]
    constructor
    · rintro ⟨v, -, hv⟩
      exact ⟨v, hv⟩
    · rintro ⟨v, hv⟩
      exact ⟨v, by cases v <;> decide, hv⟩
  unfold routeLayer
  split
  · rename_i h
    exact ⟨fun ht => ⟨hany.1 h, (Except.ok.inj ht).symm⟩, fun ht => by rw [ht.2]⟩
  · rename_i h
    exact ⟨fun ht => (by cases ht), fun ht => absurd (hany.2 ht.1) h⟩

/-! ## One lemma for each step -/

namespace Router

variable {σ : Type} {r r' : Router σ}

theorem hasTemplate_iff {t : Text} : r.hasTemplate t = true ↔ t ∈ r.templates := by
  simp [hasTemplate, templates]

/-- A table is merged into the first endpoint with the template, or into those behind it. -/
theorem mergeInto_cons {t : Text} {table : MethodTable σ} {e : Endpoint σ} {es es' : List (Endpoint σ)} :
    Endpoint.mergeInto t table (e :: es) = .ok es' ↔
      (e.template = t ∧ ∃ merged, e.table.merge table = .ok merged ∧ es' = { e with table := merged } :: es) ∨
      (e.template ≠ t ∧ ∃ rest, Endpoint.mergeInto t table es = .ok rest ∧ es' = e :: rest) := by
  rw [Endpoint.mergeInto]
  by_cases ht : e.template = t
  · simp [ht, Build.map_eq_ok]
  · simp [ht, Build.map_eq_ok]

theorem mergeTable_eq_ok {t : Text} {table : MethodTable σ} : (r.mergeTable t table).result = .ok r' ↔
    ∃ es, Endpoint.mergeInto t table r.endpoints = .ok es ∧ r' = { r with endpoints := es } := by
  rw [mergeTable, Build.result_ofExcept, Build.map_eq_ok]

/-- A table is registered under a template: it is merged into the endpoint that has the template, or a new endpoint is
added behind the others. -/
theorem route_eq_ok {t : Text} {table : MethodTable σ} : (r.route t table).result = .ok r' ↔
    (t ∈ r.templates ∧ (r.mergeTable t table).result = .ok r') ∨
    (t ∉ r.templates ∧ ∃ route, Route.compile t .strict = .ok route ∧
      r' = { r with endpoints := r.endpoints ++ [⟨t, route, table⟩] }) := by
  by_cases ht : r.hasTemplate t = true
  · have hmem := hasTemplate_iff.1 ht
    rw [route, if_pos ht]
    exact ⟨fun h => .inl ⟨hmem, h⟩, fun h => h.elim (·.2) fun h => absurd hmem h.1⟩
  · have hmem := mt hasTemplate_iff.2 ht
    rw [route, if_neg ht, Build.result_bind_eq_ok]
    constructor
    · rintro ⟨route, hroute, h⟩
      cases h
      exact .inr ⟨hmem, route, Template.result_compile.1 hroute, rfl⟩
    · rintro (⟨h, -⟩ | ⟨-, route, hroute, rfl⟩)
      · exact absurd h hmem
      · exact ⟨route, Template.result_compile.2 hroute, rfl⟩

/-- An endpoint is taken in: its table is merged, or it is added behind the others. -/
theorem mergeEndpoint_eq_ok {e : Endpoint σ} : (r.mergeEndpoint e).result = .ok r' ↔
    (e.template ∈ r.templates ∧ (r.mergeTable e.template e.table).result = .ok r') ∨
    (e.template ∉ r.templates ∧ r' = { r with endpoints := r.endpoints ++ [e] }) := by
  by_cases ht : r.hasTemplate e.template = true
  · have hmem := hasTemplate_iff.1 ht
    rw [mergeEndpoint, if_pos ht]
    exact ⟨fun h => .inl ⟨hmem, h⟩, fun h => h.elim (·.2) fun h => absurd hmem h.1⟩
  · have hmem := mt hasTemplate_iff.2 ht
    rw [mergeEndpoint, if_neg ht]
    exact ⟨fun h => .inr ⟨hmem, (Except.ok.inj h).symm⟩, fun h => h.elim (fun h => absurd h.1 hmem) fun h => h.2 ▸ rfl⟩

/-- A router is merged: its endpoints are taken in, and its fallback if it has one. -/
theorem merge_eq_ok {other : Router σ} : (r.merge other).result = .ok r' ↔
    ∃ r₁, (other.endpoints.foldlM mergeEndpoint r).result = .ok r₁ ∧
      r' = { r₁ with fallback := other.fallback.or r₁.fallback } := by
  rw [merge, Build.result_bind_eq_ok]
  simp only [Build.result_pure, Except.ok.injEq, eq_comm]

/-- A router is nested: its endpoints are registered behind the prefix, and then its fallback if it has one. -/
theorem nest_eq_ok {inner : Router σ} {front : Text} : (r.nest front inner).result = .ok r' ↔
    ∃ strip r₁, (nestLayer front).result = .ok strip ∧
      (inner.endpoints.foldlM (fun (r : Router σ) (e : Endpoint σ) =>
        r.route (Template.join front e.template) (e.table.layer strip)) r).result = .ok r₁ ∧
      ((inner.fallback = none ∧ r' = r₁) ∨ ∃ fallback, inner.fallback = some fallback ∧
        (r₁.route (Template.join front catchAll) (fallback.layer strip)).result = .ok r') := by
  rw [nest]
  simp only [Build.result_bind_eq_ok, Build.result_report_bind, exists_and_left]
  cases inner.fallback with
  | none => simp [eq_comm]
  | some fallback => simp

/-- A service is nested: it is registered for everything behind the prefix. -/
theorem nestService_eq_ok {front : Text} {s : Service} : (r.nestService front s).result = .ok r' ↔
    ∃ strip, (nestLayer front).result = .ok strip ∧
      (r.route (Template.join front catchAll) ((MethodTable.any fun _ => s).layer strip)).result = .ok r' := by
  rw [nestService]
  simp only [Build.result_bind_eq_ok, Build.result_report_bind]

/-- A layer is put around the routes of a router if every endpoint has a handler for some method. -/
theorem routeLayer_eq_ok {l : Layer} : (r.routeLayer l).result = .ok r' ↔
    (∀ e ∈ r.endpoints, ∃ v, (e.table.handlers v).isSome = true) ∧
      r' = { r with endpoints := r.endpoints.map (·.mapTable (·.mapHandlers l)) } := by
  -- Endpoint by endpoint; the first one without a handler ends it.
  have hmap : ∀ es es' : List (Endpoint σ),
      es.mapM (fun e => (e.table.routeLayer l).map fun t => { e with table := t }) = Except.ok es' ↔
        (∀ e ∈ es, ∃ v, (e.table.handlers v).isSome = true) ∧ es' = es.map (·.mapTable (·.mapHandlers l)) := by
    intro es
    induction es with
    | nil => exact fun es' => ⟨fun h => by cases h; exact ⟨List.forall_mem_nil _, rfl⟩, fun h => by rw [h.2]; rfl⟩
    | cons e es ih =>
      intro es'
      rw [List.mapM_cons, Regex.bind_eq_ok, List.forall_mem_cons, List.map_cons]
      constructor
      · rintro ⟨e', he, h⟩
        obtain ⟨t, ht, rfl⟩ := Build.map_eq_ok.1 he
        obtain ⟨rest, hes, h⟩ := Regex.bind_eq_ok.1 h
        cases h
        obtain ⟨hv, rfl⟩ := MethodTable.routeLayer_eq_ok.1 ht
        obtain ⟨hall, rfl⟩ := (ih rest).1 hes
        exact ⟨⟨hv, hall⟩, rfl⟩
      · rintro ⟨⟨hv, hall⟩, rfl⟩
        exact ⟨_, Build.map_eq_ok.2 ⟨_, MethodTable.routeLayer_eq_ok.2 ⟨hv, rfl⟩, rfl⟩,
          Regex.bind_eq_ok.2 ⟨_, (ih _).2 ⟨hall, rfl⟩, rfl⟩⟩
  rw [routeLayer, Build.result_ofExcept, Regex.bind_eq_ok]
  constructor
  · rintro ⟨es, hes, h⟩
    cases h
    obtain ⟨hall, rfl⟩ := (hmap _ _).1 hes
    exact ⟨hall, rfl⟩
  · rintro ⟨hall, rfl⟩
    exact ⟨_, (hmap _ _).2 ⟨hall, rfl⟩, rfl⟩

end Router

end PathRouter
