/-
Routers put together. Merging is union, template by template: it succeeds if the tables that two routers have under one
template are apart (`Router.Apart`), and then its outcome is `Router.union`. Unions are associative, and whether a
union is apart from a third router depends on two routers at a time, so it does not matter which ones are merged first.
-/
import PathRouter.Proofs.Router.Lockstep

namespace PathRouter

/-! ## Tables put together -/

namespace Fallback

variable {σ : Type} {f g h m : Fallback σ}

/-- The first one of two fallbacks if it is registered, else the second one. -/
def union : Fallback σ → Fallback σ → Fallback σ
  | standard _, g => g
  | custom h, _ => custom h

/-- Two fallbacks are merged if one of them is a standard one. -/
theorem merge?_eq_some : f.merge? g = some m ↔ (f.isCustom = false ∨ g.isCustom = false) ∧ m = f.union g := by
  cases f <;> cases g <;> simp [merge?, isCustom, union, eq_comm]

theorem union_assoc (f g h : Fallback σ) : (f.union g).union h = f.union (g.union h) := by
  cases f <;> rfl

theorem isCustom_union : (f.union g).isCustom = (f.isCustom || g.isCustom) := by
  cases f <;> rfl

end Fallback

theorem Allow.merge_assoc (a b c : Allow) : (a.merge b).merge c = a.merge (b.merge c) := by
  cases a <;> cases b <;> cases c <;> simp [merge]

namespace MethodTable

variable {σ : Type} {t u w : MethodTable σ}

/-- No verb has a handler in both tables, and at most one of the fallbacks is a registered one. -/
structure Apart (t u : MethodTable σ) : Prop where
  handlers : ∀ v, t.handlers v = none ∨ u.handlers v = none
  fallback : t.fallback.isCustom = false ∨ u.fallback.isCustom = false

/-- The handlers of two tables. Where both have something, the first one has its way. -/
def union (t u : MethodTable σ) : MethodTable σ :=
  ⟨fun v => (t.handlers v).or (u.handlers v), t.fallback.union u.fallback, t.allow.merge u.allow⟩

theorem overlap?_eq_none : t.overlap? u = none ↔ ∀ v, t.handlers v = none ∨ u.handlers v = none := by
  unfold overlap?
  rw [List.find?_eq_none]
  constructor
  · intro h v
    have hv := h v (by cases v <;> decide)
    cases ht : t.handlers v with
    | none => exact .inl rfl
    | some k =>
      rw [ht, Option.isSome_some, Bool.true_and, Option.not_isSome_iff_eq_none] at hv
      exact .inr hv
  · intro h v _
    rcases h v with hv | hv <;> simp [hv]

/-- Tables are merged if they are apart. -/
theorem merge_eq_ok_union : t.merge u = .ok w ↔ t.Apart u ∧ w = t.union u := by
  rw [merge_eq_ok, overlap?_eq_none]
  simp only [Fallback.merge?_eq_some]
  constructor
  · rintro ⟨hhandlers, fallback, ⟨hfallback, rfl⟩, rfl⟩
    exact ⟨⟨hhandlers, hfallback⟩, rfl⟩
  · rintro ⟨h, rfl⟩
    exact ⟨h.handlers, _, ⟨h.fallback, rfl⟩, rfl⟩

theorem Apart.symm (h : t.Apart u) : u.Apart t :=
  ⟨fun v => (h.handlers v).symm, h.fallback.symm⟩

theorem union_assoc (t u w : MethodTable σ) : (t.union u).union w = t.union (u.union w) := by
  simp only [union, Option.or_assoc, Fallback.union_assoc, Allow.merge_assoc]

/-- What is apart from two tables is apart from both together. -/
theorem apart_union_left : (t.union u).Apart w ↔ t.Apart w ∧ u.Apart w := by
  constructor
  · rintro ⟨hhandlers, hfallback⟩
    simp only [union, Option.or_eq_none_iff, Fallback.isCustom_union, Bool.or_eq_false_iff] at hhandlers hfallback
    exact ⟨⟨fun v => (hhandlers v).imp_left (·.1), hfallback.imp_left (·.1)⟩,
      ⟨fun v => (hhandlers v).imp_left (·.2), hfallback.imp_left (·.2)⟩⟩
  · rintro ⟨ht, hu⟩
    constructor
    · intro v
      show (t.handlers v).or (u.handlers v) = none ∨ w.handlers v = none
      rw [Option.or_eq_none_iff]
      exact and_or_right.2 ⟨ht.handlers v, hu.handlers v⟩
    · show (t.fallback.union u.fallback).isCustom = false ∨ w.fallback.isCustom = false
      rw [Fallback.isCustom_union, Bool.or_eq_false_iff]
      exact and_or_right.2 ⟨ht.fallback, hu.fallback⟩

end MethodTable

/-! ## Routers put together -/

namespace Router

variable {σ : Type} {a b c r r' : Router σ}

/-- The table that is registered under a template. -/
def tableFor? (r : Router σ) (t : Text) : Option (MethodTable σ) :=
  (r.endpoints.find? (·.template == t)).map (·.table)

/-- The endpoints of a router, each with what another router has under its template, and behind them the endpoints of
the other router under new templates. The other router's fallback comes first. -/
def union (a b : Router σ) : Router σ where
  endpoints := (a.endpoints.map fun e => { e with table := (b.tableFor? e.template).elim e.table e.table.union }) ++
    b.endpoints.filter fun e => !a.hasTemplate e.template
  fallback := b.fallback.or a.fallback

/-- Wherever two routers have the same template, the tables are apart. -/
def Apart (a b : Router σ) : Prop :=
  ∀ t u w, a.tableFor? t = some u → b.tableFor? t = some w → u.Apart w

theorem tableFor?_eq_none {t : Text} : r.tableFor? t = none ↔ t ∉ r.templates := by
  unfold tableFor? templates
  rw [Option.map_eq_none_iff, List.find?_eq_none, List.mem_map]
  simp only [beq_iff_eq, not_exists, not_and]

theorem tableFor?_of_mem (hr : r.templates.Nodup) {e : Endpoint σ} (he : e ∈ r.endpoints) :
    r.tableFor? e.template = some e.table := by
  cases hf : r.endpoints.find? (·.template == e.template) with
  | none => exact absurd (beq_self_eq_true e.template) (List.find?_eq_none.1 hf e he)
  | some e' =>
    have ht : e'.template = e.template := by simpa using List.find?_some hf
    rw [tableFor?, hf, List.inj_on_of_nodup_map hr (List.mem_of_find?_eq_some hf) he ht]
    rfl

theorem exists_of_tableFor? {t : Text} {u : MethodTable σ} (h : r.tableFor? t = some u) :
    ∃ e ∈ r.endpoints, e.template = t ∧ e.table = u := by
  obtain ⟨e, he, rfl⟩ := Option.map_eq_some_iff.1 h
  exact ⟨e, List.mem_of_find?_eq_some he, by simpa using List.find?_some he, rfl⟩

theorem tableFor?_singleton (e : Endpoint σ) (fallback : Option (MethodTable σ)) (t : Text) :
    (⟨[e], fallback⟩ : Router σ).tableFor? t = if e.template = t then some e.table else none := by
  unfold tableFor?
  rw [List.find?_singleton]
  by_cases ht : e.template = t <;> simp [ht]

theorem hasTemplate_eq_false {t : Text} : r.hasTemplate t = false ↔ t ∉ r.templates := by
  rw [← hasTemplate_iff, Bool.not_eq_true]

theorem not_hasTemplate_eq (t : Text) : (!r.hasTemplate t) = decide (t ∉ r.templates) := by
  rw [Bool.eq_iff_iff, Bool.not_eq_true', hasTemplate_eq_false, decide_eq_true_iff]

/-- The templates of a router come first, then those that the other one has in addition. -/
theorem templates_union (a b : Router σ) :
    (a.union b).templates = a.templates ++ b.templates.filter fun t => !a.hasTemplate t := by
  unfold union templates
  rw [List.map_append, List.map_map, List.filter_map]
  rfl

theorem mem_templates_union {t : Text} : t ∈ (a.union b).templates ↔ t ∈ a.templates ∨ t ∈ b.templates := by
  rw [templates_union, List.mem_append, List.mem_filter, Bool.not_eq_true', hasTemplate_eq_false]
  by_cases h : t ∈ a.templates <;> simp [h]

theorem hasTemplate_union (t : Text) : (a.union b).hasTemplate t = (a.hasTemplate t || b.hasTemplate t) := by
  rw [Bool.eq_iff_iff, hasTemplate_iff, mem_templates_union, Bool.or_eq_true, hasTemplate_iff, hasTemplate_iff]

/-- Under every template, the tables of both routers are together. -/
theorem tableFor?_union (a b : Router σ) (t : Text) :
    (a.union b).tableFor? t = (a.tableFor? t).merge MethodTable.union (b.tableFor? t) := by
  unfold tableFor? union
  rw [List.find?_append, List.find?_map, List.find?_filter]
  cases hf : a.endpoints.find? (·.template == t) with
  | some e =>
    have ht : e.template = t := by simpa using List.find?_some hf
    simp only [Function.comp_def, hf, ht, Option.map_some, Option.some_or]
    unfold tableFor?
    cases b.endpoints.find? (·.template == t) <;> rfl
  | none =>
    have hfresh : a.hasTemplate t = false := by
      rw [hasTemplate_eq_false, ← tableFor?_eq_none, tableFor?, hf]
      rfl
    have hkeep : ∀ e : Endpoint σ,
        decide ((!a.hasTemplate e.template) = true ∧ (e.template == t) = true) = (e.template == t) := by
      intro e
      by_cases h : e.template = t
      · simp [h, hfresh]
      · simp [h]
    simp only [Function.comp_def, hf, hkeep, Option.map_none, Option.none_or]
    cases b.endpoints.find? (·.template == t) <;> rfl

/-- It does not matter which two of three routers are put together first. -/
theorem union_assoc (a b c : Router σ) : (a.union b).union c = a.union (b.union c) := by
  have htable : ∀ e : Endpoint σ,
      (c.tableFor? e.template).elim ((b.tableFor? e.template).elim e.table e.table.union)
          ((b.tableFor? e.template).elim e.table e.table.union).union =
        ((b.union c).tableFor? e.template).elim e.table e.table.union := by
    intro e
    rw [tableFor?_union]
    cases b.tableFor? e.template with
    | none => cases c.tableFor? e.template <;> rfl
    | some u =>
      cases c.tableFor? e.template with
      | none => rfl
      | some w => exact MethodTable.union_assoc e.table u w
  have hnew : ∀ e : Endpoint σ, (!(a.union b).hasTemplate e.template) =
      (!a.hasTemplate e.template && !b.hasTemplate e.template) := by
    intro e
    rw [hasTemplate_union, Bool.not_or]
  unfold union at *
  simp only [List.map_append, List.filter_append, List.map_map, List.filter_map, List.filter_filter, List.append_assoc,
    Function.comp_def, htable, hnew, Option.or_assoc]

/-- What is apart from two routers is apart from both together. -/
theorem apart_union_left : (a.union b).Apart c ↔ a.Apart c ∧ b.Apart c := by
  unfold Apart
  simp only [tableFor?_union]
  constructor
  · refine fun h => ⟨fun t u w hu hw => ?_, fun t u w hu hw => ?_⟩
    · cases hb : b.tableFor? t with
      | none => exact h t u w (by rw [hu, hb]; rfl) hw
      | some u' => exact (MethodTable.apart_union_left.1 (h t (u.union u') w (by rw [hu, hb]; rfl) hw)).1
    · cases ha : a.tableFor? t with
      | none => exact h t u w (by rw [hu, ha]; rfl) hw
      | some u' => exact (MethodTable.apart_union_left.1 (h t (u'.union u) w (by rw [hu, ha]; rfl) hw)).2
  · rintro ⟨ha, hb⟩ t u w hu hw
    cases hua : a.tableFor? t with
    | none =>
      cases hub : b.tableFor? t with
      | none =>
        rw [hua, hub] at hu
        cases hu
      | some u₂ =>
        rw [hua, hub] at hu
        cases hu
        exact hb t u w hub hw
    | some u₁ =>
      cases hub : b.tableFor? t with
      | none =>
        rw [hua, hub] at hu
        cases hu
        exact ha t u w hua hw
      | some u₂ =>
        rw [hua, hub] at hu
        cases hu
        exact MethodTable.apart_union_left.2 ⟨ha t u₁ w hua hw, hb t u₂ w hub hw⟩

theorem Apart.symm (h : a.Apart b) : b.Apart a :=
  fun t u w hu hw => (h t w u hw hu).symm

theorem apart_union_right : a.Apart (b.union c) ↔ a.Apart b ∧ a.Apart c := by
  constructor
  · intro h
    obtain ⟨hb, hc⟩ := apart_union_left.1 h.symm
    exact ⟨hb.symm, hc.symm⟩
  · rintro ⟨hb, hc⟩
    exact (apart_union_left.2 ⟨hb.symm, hc.symm⟩).symm

theorem nodup_union (ha : a.templates.Nodup) (hb : b.templates.Nodup) : (a.union b).templates.Nodup := by
  rw [templates_union, List.nodup_append]
  refine ⟨ha, hb.filter _, ?_⟩
  rintro t ht _ ht' rfl
  have hfresh := (List.mem_filter.1 ht').2
  rw [Bool.not_eq_true', hasTemplate_eq_false] at hfresh
  exact hfresh ht

/-! ## Merging is union -/

/-- The endpoint with a table put to its own if it has the template. -/
def withTable (t : Text) (u : MethodTable σ) (e : Endpoint σ) : Endpoint σ :=
  { e with table := if e.template = t then e.table.union u else e.table }

theorem map_withTable_of_not_mem {t : Text} (u : MethodTable σ) {es : List (Endpoint σ)}
    (ht : t ∉ es.map (·.template)) :
    es.map (withTable t u) = es := by
  refine (List.map_congr_left fun e he => ?_).trans (List.map_id es)
  have hne : e.template ≠ t := fun h => ht (h ▸ List.mem_map_of_mem he)
  rw [withTable, if_neg hne]
  rfl

/-- A table is merged into the endpoint with its template, which there is at most once. -/
theorem mergeInto_eq_ok_union {t : Text} {u : MethodTable σ} :
    ∀ {es es' : List (Endpoint σ)}, (es.map (·.template)).Nodup →
    (Endpoint.mergeInto t u es = .ok es' ↔
      (∀ e ∈ es, e.template = t → e.table.Apart u) ∧ es' = es.map (withTable t u))
  | [], es', _ => by
    simp [Endpoint.mergeInto, eq_comm]
  | e :: es, es', hes => by
    rw [List.map_cons, List.nodup_cons] at hes
    rw [mergeInto_cons, List.forall_mem_cons, List.map_cons]
    by_cases ht : e.template = t
    · have hfresh : t ∉ es.map (·.template) := ht ▸ hes.1
      rw [map_withTable_of_not_mem u hfresh, withTable, if_pos ht]
      simp only [MethodTable.merge_eq_ok_union]
      constructor
      · rintro (⟨-, w, ⟨hw, rfl⟩, rfl⟩ | ⟨hne, -⟩)
        · exact ⟨⟨fun _ => hw, fun e' he' h => absurd (h ▸ List.mem_map_of_mem he') hfresh⟩, rfl⟩
        · exact absurd ht hne
      · rintro ⟨⟨hw, -⟩, rfl⟩
        exact .inl ⟨ht, _, ⟨hw ht, rfl⟩, rfl⟩
    · rw [withTable, if_neg ht]
      simp only [mergeInto_eq_ok_union hes.2]
      constructor
      · rintro (⟨h, -⟩ | ⟨-, rest, ⟨hrest, rfl⟩, rfl⟩)
        · exact absurd h ht
        · exact ⟨⟨fun h => absurd h ht, hrest⟩, rfl⟩
      · rintro ⟨⟨-, hrest⟩, rfl⟩
        exact .inr ⟨ht, _, ⟨hrest, rfl⟩, rfl⟩

theorem apart_singleton (hr : r.templates.Nodup) {e : Endpoint σ} :
    r.Apart ⟨[e], none⟩ ↔ ∀ e' ∈ r.endpoints, e'.template = e.template → e'.table.Apart e.table := by
  unfold Apart
  simp only [tableFor?_singleton]
  constructor
  · intro h e' he' ht
    exact h e'.template e'.table e.table (tableFor?_of_mem hr he') (if_pos ht.symm)
  · intro h t u w hu hw
    obtain ⟨e', he', rfl, rfl⟩ := exists_of_tableFor? hu
    by_cases ht : e.template = e'.template
    · rw [if_pos ht] at hw
      cases hw
      exact h e' he' ht.symm
    · rw [if_neg ht] at hw
      cases hw

theorem union_singleton (e : Endpoint σ) : r.union ⟨[e], none⟩ =
    { r with endpoints := r.endpoints.map (withTable e.template e.table) ++
        if e.template ∈ r.templates then [] else [e] } := by
  have htable : ∀ e' : Endpoint σ, { e' with
      table := ((⟨[e], none⟩ : Router σ).tableFor? e'.template).elim e'.table e'.table.union } =
        withTable e.template e.table e' := by
    intro e'
    rw [tableFor?_singleton, withTable]
    by_cases ht : e'.template = e.template
    · rw [if_pos ht.symm, if_pos ht]
      rfl
    · rw [if_neg (Ne.symm ht), if_neg ht]
      rfl
  have hnew : ([e].filter fun e' => !r.hasTemplate e'.template) = if e.template ∈ r.templates then [] else [e] := by
    by_cases ht : e.template ∈ r.templates
    · simp [ht, hasTemplate_iff.2 ht]
    · simp [ht, hasTemplate_eq_false.2 ht]
  unfold union
  simp only [htable, hnew, Option.none_or]

/-- An endpoint is taken in as the router that has nothing else. -/
theorem mergeEndpoint_eq_ok_union (hr : r.templates.Nodup) {e : Endpoint σ} :
    (r.mergeEndpoint e).result = .ok r' ↔ r.Apart ⟨[e], none⟩ ∧ r' = r.union ⟨[e], none⟩ := by
  rw [mergeEndpoint_eq_ok, mergeTable_eq_ok, apart_singleton hr, union_singleton]
  simp only [mergeInto_eq_ok_union hr]
  by_cases ht : e.template ∈ r.templates
  · rw [if_pos ht, List.append_nil]
    constructor
    · rintro (⟨-, es, ⟨hes, rfl⟩, rfl⟩ | ⟨h, -⟩)
      · exact ⟨hes, rfl⟩
      · exact absurd ht h
    · rintro ⟨hes, rfl⟩
      exact .inl ⟨ht, _, ⟨hes, rfl⟩, rfl⟩
  · rw [if_neg ht, map_withTable_of_not_mem e.table ht]
    constructor
    · rintro (⟨h, -⟩ | ⟨-, rfl⟩)
      · exact absurd h ht
      · exact ⟨fun e' he' h => absurd (h ▸ List.mem_map_of_mem he') ht, rfl⟩
    · rintro ⟨-, rfl⟩
      exact .inr ⟨ht, rfl⟩

/-- A router is its first endpoint with the others. -/
theorem union_cons {e : Endpoint σ} {es : List (Endpoint σ)} (he : e.template ∉ es.map (·.template)) :
    (⟨[e], none⟩ : Router σ).union ⟨es, none⟩ = ⟨e :: es, none⟩ := by
  have hnone : (⟨es, none⟩ : Router σ).tableFor? e.template = none := tableFor?_eq_none.2 he
  have hnew : (es.filter fun e' => !(⟨[e], none⟩ : Router σ).hasTemplate e'.template) = es := by
    refine List.filter_eq_self.2 fun e' he' => ?_
    rw [Bool.not_eq_true', hasTemplate_eq_false]
    show e'.template ∉ [e.template]
    rw [List.mem_singleton]
    exact fun h => he (h ▸ List.mem_map_of_mem he')
  unfold union
  simp only [List.map_singleton, hnone, hnew]
  rfl

theorem apart_cons {e : Endpoint σ} {es : List (Endpoint σ)} (he : e.template ∉ es.map (·.template)) :
    (⟨[e], none⟩ : Router σ).Apart ⟨es, none⟩ := by
  intro t u w hu hw
  obtain ⟨e₁, he₁, rfl, -⟩ := exists_of_tableFor? hu
  obtain ⟨e₂, he₂, ht, -⟩ := exists_of_tableFor? hw
  rw [List.mem_singleton.1 he₁] at ht
  exact absurd (ht ▸ List.mem_map_of_mem he₂) he

/-- Endpoints are taken in one after the other, which comes to the union with all of them. -/
theorem foldlM_mergeEndpoint_eq_ok : ∀ {es : List (Endpoint σ)} {r r' : Router σ}, (es.map (·.template)).Nodup →
    r.templates.Nodup → ((es.foldlM mergeEndpoint r).result = .ok r' ↔ r.Apart ⟨es, none⟩ ∧ r' = r.union ⟨es, none⟩)
  | [], r, r', _, _ => by
    have hunion : r.union ⟨[], none⟩ = r := by
      unfold union
      simp [tableFor?]
    rw [hunion]
    constructor
    · intro h
      cases h
      exact ⟨fun t u w _ hw => (by cases hw), rfl⟩
    · rintro ⟨-, rfl⟩
      rfl
  | e :: es, r, r', hes, hr => by
    rw [List.map_cons, List.nodup_cons] at hes
    have hr₁ : (r.union ⟨[e], none⟩).templates.Nodup := nodup_union hr (List.nodup_singleton e.template)
    rw [List.foldlM_cons, Build.result_bind_eq_ok, ← union_cons hes.1, ← union_assoc, apart_union_right]
    simp only [mergeEndpoint_eq_ok_union hr]
    constructor
    · rintro ⟨r₁, ⟨he, rfl⟩, h⟩
      obtain ⟨hrest, rfl⟩ := (foldlM_mergeEndpoint_eq_ok hes.2 hr₁).1 h
      exact ⟨⟨he, (apart_union_left.1 hrest).1⟩, rfl⟩
    · rintro ⟨⟨he, hrest⟩, rfl⟩
      exact ⟨_, ⟨he, rfl⟩, (foldlM_mergeEndpoint_eq_ok hes.2 hr₁).2 ⟨apart_union_left.2 ⟨hrest, apart_cons hes.1⟩, rfl⟩⟩

/-- A router is merged if it is apart, and the outcome is the union. -/
theorem merge_eq_ok_union (ha : a.templates.Nodup) (hb : b.templates.Nodup) :
    (a.merge b).result = .ok r ↔ a.Apart b ∧ r = a.union b := by
  rw [merge_eq_ok]
  simp only [foldlM_mergeEndpoint_eq_ok hb ha]
  constructor
  · rintro ⟨r₁, ⟨h, rfl⟩, rfl⟩
    exact ⟨h, by simp [union, tableFor?]⟩
  · rintro ⟨h, rfl⟩
    exact ⟨_, ⟨h, rfl⟩, by simp [union, tableFor?]⟩

/-- Merging is associative, and the empty router changes nothing. Three routers can be merged from the left if they can
from the right, which is if any two of them are apart, and the outcome is the same router either way. It has the
templates of the first one, then those that the second one adds, then those that the third one adds. -/
theorem Reachable.merge_merge (ha : a.Reachable) (hb : b.Reachable) (hc : c.Reachable) :
    (∀ r, (a.merge b >>= fun ab => ab.merge c).result = .ok r ↔ (b.merge c >>= fun bc => a.merge bc).result = .ok r) ∧
    ((∃ r, (a.merge b >>= fun ab => ab.merge c).result = .ok r) ↔ a.Apart b ∧ a.Apart c ∧ b.Apart c) ∧
    (∀ r, (a.merge b >>= fun ab => ab.merge c).result = .ok r → r.templates =
      a.templates ++ (b.templates.filter fun t => t ∉ a.templates) ++
        c.templates.filter fun t => t ∉ a.templates ∧ t ∉ b.templates) ∧
    (empty.merge a).result = .ok a ∧ (a.merge empty).result = .ok a := by
  have ha := ha.wellFormed.nodup
  have hb := hb.wellFormed.nodup
  have hc := hc.wellFormed.nodup
  have hleft : ∀ r, (a.merge b >>= fun ab => ab.merge c).result = .ok r ↔
      (a.Apart b ∧ a.Apart c ∧ b.Apart c) ∧ r = (a.union b).union c := by
    intro r
    simp only [Build.result_bind_eq_ok, merge_eq_ok_union ha hb]
    constructor
    · rintro ⟨ab, ⟨hab, rfl⟩, h⟩
      obtain ⟨habc, rfl⟩ := (merge_eq_ok_union (nodup_union ha hb) hc).1 h
      exact ⟨⟨hab, apart_union_left.1 habc⟩, rfl⟩
    · rintro ⟨⟨hab, habc⟩, rfl⟩
      exact ⟨_, ⟨hab, rfl⟩, (merge_eq_ok_union (nodup_union ha hb) hc).2 ⟨apart_union_left.2 habc, rfl⟩⟩
  have hright : ∀ r, (b.merge c >>= fun bc => a.merge bc).result = .ok r ↔
      (a.Apart b ∧ a.Apart c ∧ b.Apart c) ∧ r = a.union (b.union c) := by
    intro r
    simp only [Build.result_bind_eq_ok, merge_eq_ok_union hb hc]
    constructor
    · rintro ⟨bc, ⟨hbc, rfl⟩, h⟩
      obtain ⟨habc, rfl⟩ := (merge_eq_ok_union ha (nodup_union hb hc)).1 h
      obtain ⟨hab, hac⟩ := apart_union_right.1 habc
      exact ⟨⟨hab, hac, hbc⟩, rfl⟩
    · rintro ⟨⟨hab, hac, hbc⟩, rfl⟩
      exact ⟨_, ⟨hbc, rfl⟩, (merge_eq_ok_union ha (nodup_union hb hc)).2 ⟨apart_union_right.2 ⟨hab, hac⟩, rfl⟩⟩
  refine ⟨fun r => ?_, ?_, fun r hr => ?_, ?_, ?_⟩
  · rw [hleft, hright, union_assoc]
  · exact ⟨fun ⟨r, hr⟩ => ((hleft r).1 hr).1, fun h => ⟨_, (hleft _).2 ⟨h, rfl⟩⟩⟩
  · obtain ⟨-, rfl⟩ := (hleft r).1 hr
    rw [templates_union, templates_union]
    congr 1
    · exact congrArg _ (List.filter_congr fun t _ => not_hasTemplate_eq t)
    · refine List.filter_congr fun t _ => ?_
      rw [hasTemplate_union, Bool.not_or, not_hasTemplate_eq, not_hasTemplate_eq, Bool.decide_and]
  · refine (merge_eq_ok_union wellFormed_empty.nodup ha).2 ⟨fun t u w hu _ => (by cases hu), ?_⟩
    simp [union, empty, hasTemplate]
  · refine (merge_eq_ok_union ha wellFormed_empty.nodup).2 ⟨fun t u w _ hw => (by cases hw), ?_⟩
    simp [union, empty, tableFor?]

/-- Two routers with handlers for one template and a third one with a fallback. -/
theorem Reachable.merge_merge_overlapping :
    ∃ a b c r : Router Unit, a.templates = ["/x".toList] ∧ b.templates = ["/x".toList] ∧
    c.templates = ["/y".toList] ∧ c.fallback.isSome = true ∧ (a.merge b >>= fun ab => ab.merge c).result = .ok r ∧
    (b.merge c >>= fun bc => a.merge bc).result = .ok r ∧ r.templates = ["/x".toList, "/y".toList] ∧
    (empty.merge a).result = .ok a ∧ (a.merge empty).result = .ok a := by
  let handler (status : Nat) : Handler Unit := fun _ => .constant (.plain status [])
  obtain ⟨x, hx⟩ : ∃ route, Route.compile "/x".toList .strict = .ok route := ⟨_, rfl⟩
  obtain ⟨y, hy⟩ : ∃ route, Route.compile "/y".toList .strict = .ok route := ⟨_, rfl⟩
  let a : Router Unit := ⟨[⟨"/x".toList, x, .on [.get] (handler 200)⟩], none⟩
  let b : Router Unit := ⟨[⟨"/x".toList, x, .on [.post] (handler 201)⟩], none⟩
  let c : Router Unit := ⟨[⟨"/y".toList, y, .on [.get] (handler 202)⟩], some (.any (handler 203))⟩
  have ha : a.Reachable := reachable_route (route_of_fresh List.not_mem_nil hx _)
  have hb : b.Reachable := reachable_route (route_of_fresh List.not_mem_nil hx _)
  have hc : c.Reachable := @BuiltBy.step _ _ _ _ (.fallback (handler 203))
    (reachable_route (route_of_fresh List.not_mem_nil hy (.on [.get] (handler 202)))) trivial
      (List.forall_mem_nil _) rfl
  obtain ⟨hassoc, -, htemplates, hfront, hbehind⟩ := Reachable.merge_merge ha hb hc
  obtain ⟨r, hr⟩ : ∃ r, (a.merge b >>= fun ab => ab.merge c).result = .ok r := ⟨_, rfl⟩
  exact ⟨a, b, c, r, rfl, rfl, rfl, rfl, hr, (hassoc r).1 hr, htemplates r hr, hfront, hbehind⟩

end Router

end PathRouter
