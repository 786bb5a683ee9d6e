/-
What is known of a template that is registered behind a prefix. The pattern text and the keys of the joined template
are those of the prefix with those of the template behind them, whatever slashes either begins or ends with, and this
is what a request is told that is dispatched by it (`Router.Reachable.keys_nested`).
-/
import PathRouter.Proofs.Router.Nesting

namespace PathRouter.Router

open Template

variable {σ : Type} {r r' inner : Router σ}

/-- The templates of a nested router are registered behind the prefix. -/
theorem mem_templates_nest {front t : Text} (h : (r.nest front inner).result = .ok r') (ht : t ∈ inner.templates) :
    join front t ∈ r'.templates := by
  obtain ⟨strip, -, h⟩ := nest_eq_ok_register.1 h
  obtain ⟨e, he, rfl⟩ := List.mem_map.1 ht
  have hentry : (e.template, e.table) ∈ inner.entries := List.mem_append_left _ (List.mem_map_of_mem he)
  exact (mem_templates_register h).2 (.inr ⟨_, List.mem_map_of_mem hentry, rfl⟩)

/-- The keys of a route that is registered are those of its template. -/
theorem WellFormed.keys_eq (hr : r.WellFormed) {e : Endpoint σ} (he : e ∈ r.endpoints) :
    e.route.keys = .named (keys e.template) :=
  keys_of_compile (hr.compiled _ (List.mem_map_of_mem he))

/-- Joining templates is associative, and the compiler makes of a joined template the keys and the pattern text of the
first and behind them those of the second. So a template of a nested router is registered, and told to the requests that
are dispatched by it, with the keys of the prefix and its own behind them. -/
theorem Reachable.keys_nested (front middle back : Text) :
    join front (join middle back) = join (join front middle) back ∧
    keys (join front back) = keys front ++ keys back ∧ body (join front back) = body front ++ (body back).tail ∧
    ∀ {σ : Type} {r r' inner : Router σ}, r.Reachable → (r.nest front inner).result = .ok r' → back ∈ inner.templates →
      join front back ∈ r'.templates ∧ ∀ e ∈ r'.endpoints, e.template = join front back →
        e.route.keys = .named (keys front ++ keys back) ∧
        ∀ (request : Request) (p : Params), r'.dispatch? request.uri.path = some (e, p) → ∀ s : σ,
          (r'.withState s).serve request = (e.table.serve s
            { request with
              recorded := some p.decode
              matched := some ⟨join front back, .named (keys front ++ keys back)⟩ }).after
                [.matched request.uri.path (join front back)] := by
  refine ⟨(join_assoc front middle back).symm, keys_join front back, body_join front back, fun hr h hback => ?_⟩
  refine ⟨mem_templates_nest h hback, fun e he ht => ?_⟩
  have hkeys := ((grows_nest h).wellFormed hr.wellFormed).keys_eq he
  rw [ht, keys_join] at hkeys
  refine ⟨hkeys, fun request p hp s => ?_⟩
  rw [serve_withState hp, Request.dispatchedBy, ht, hkeys]

/-- Slashes at the end of a prefix and in front of a template behind it. -/
theorem Reachable.keys_nested_slashes : ∃ (inner r : Router Unit) (e : Endpoint Unit) (p : Params),
    inner.templates = ["//:x?/*".toList] ∧ (empty.nest "/:v.d//".toList inner).result = .ok r ∧
    r.dispatch? "/1.d/2/".toList = some (e, p) ∧ e.template = "/:v.d/:x?/*".toList ∧
    e.route.keys = .named ["v".toList, "x".toList, "wild".toList] := by
  obtain ⟨inner, r, e, p, -, hinner, hr, he, hp, ht⟩ : ∃ (inner r : Router Unit) (e : Endpoint Unit) (p : Params),
      (empty.route "//:x?/*".toList (.any fun _ => .constant notFound)).result = .ok inner ∧
      inner.templates = ["//:x?/*".toList] ∧ (empty.nest "/:v.d//".toList inner).result = .ok r ∧ e ∈ r.endpoints ∧
      r.dispatch? "/1.d/2/".toList = some (e, p) ∧ e.template = "/:v.d/:x?/*".toList :=
    ⟨_, _, _, _, rfl, rfl, rfl, List.mem_singleton_self _, rfl, rfl⟩
  have hback : "//:x?/*".toList ∈ inner.templates := hinner ▸ List.mem_singleton_self _
  obtain ⟨-, -, -, h⟩ := keys_nested "/:v.d//".toList "/".toList "//:x?/*".toList
  obtain ⟨hkeys, -⟩ := (h .empty hr hback).2 e he ht
  exact ⟨inner, r, e, p, hinner, hr, hp, ht, hkeys⟩

end PathRouter.Router
