/-
What registering does to a router, step by step. The steps that register endpoints are made of elementary changes
(`Router.Change`): what is true of every such change, and passes from one to the next, is true of each of these steps.
The changes also say what new endpoints are like, where something is known of them.
-/
import PathRouter.Proofs.Router.Steps
import Mathlib.Logic.Relation

namespace PathRouter

namespace Router

variable {σ : Type} {r r' : Router σ} {N : Text → Route → Prop}

/-- The elementary changes: a table is merged into the one of an endpoint, an endpoint with a new template, which has a
property with its route, is added behind the others, or the fallback is set. -/
inductive Change (N : Text → Route → Prop) : Router σ → Router σ → Prop
  | merged {before behind : List (Endpoint σ)} {e : Endpoint σ} {u t : MethodTable σ}
      {fallback : Option (MethodTable σ)} : e.table.merge u = .ok t →
      Change N ⟨before ++ e :: behind, fallback⟩ ⟨before ++ { e with table := t } :: behind, fallback⟩
  | added {r : Router σ} {e : Endpoint σ} : e.template ∉ r.templates → N e.template e.route →
      Change N r { r with endpoints := r.endpoints ++ [e] }
  | fallback (r : Router σ) (fallback : Option (MethodTable σ)) : Change N r { r with fallback }

/-- Any number of elementary changes. -/
abbrev Changes (N : Text → Route → Prop) : Router σ → Router σ → Prop := Relation.ReflTransGen (Change N)

theorem mergeInto_eq_ok {t : Text} {u : MethodTable σ} : ∀ {es es' : List (Endpoint σ)},
    Endpoint.mergeInto t u es = .ok es' → es' = es ∨ ∃ before e behind table, es = before ++ e :: behind ∧
      e.template = t ∧ e.table.merge u = .ok table ∧ es' = before ++ { e with table } :: behind
  | [], es', h => by
    cases h
    exact .inl rfl
  | e :: es, es', h => by
    rcases mergeInto_cons.1 h with ⟨ht, table, hmerge, rfl⟩ | ⟨-, rest, hrest, rfl⟩
    · exact .inr ⟨[], e, es, table, rfl, ht, hmerge, rfl⟩
    · rcases mergeInto_eq_ok hrest with rfl | ⟨before, e', behind, table, rfl, ht, hmerge, rfl⟩
      · exact .inl rfl
      · exact .inr ⟨e :: before, e', behind, table, rfl, ht, hmerge, rfl⟩

/-! ## Every step that registers is made of changes -/

theorem changes_mergeTable {t : Text} {u : MethodTable σ} (h : (r.mergeTable t u).result = .ok r') :
    Changes N r r' := by
  obtain ⟨es, fallback⟩ := r
  obtain ⟨es', hes', rfl⟩ := mergeTable_eq_ok.1 h
  rcases mergeInto_eq_ok hes' with rfl | ⟨before, e, behind, table, rfl, -, hmerge, rfl⟩
  · exact .refl
  · exact .single (.merged hmerge)

theorem changes_route {t : Text} {u : MethodTable σ} (hN : ∀ route, Route.compile t .strict = .ok route → N t route)
    (h : (r.route t u).result = .ok r') : Changes N r r' := by
  rcases route_eq_ok.1 h with ⟨-, h⟩ | ⟨ht, route, hroute, rfl⟩
  · exact changes_mergeTable h
  · exact .single (.added (e := ⟨t, route, u⟩) ht (hN route hroute))

theorem changes_mergeEndpoint {e : Endpoint σ} (he : N e.template e.route)
    (h : (r.mergeEndpoint e).result = .ok r') : Changes N r r' := by
  rcases mergeEndpoint_eq_ok.1 h with ⟨-, h⟩ | ⟨ht, rfl⟩
  · exact changes_mergeTable h
  · exact .single (.added ht he)

theorem changes_merge {other : Router σ} (hother : ∀ e ∈ other.endpoints, N e.template e.route)
    (h : (r.merge other).result = .ok r') : Changes N r r' := by
  obtain ⟨r₁, h₁, rfl⟩ := merge_eq_ok.1 h
  have hendpoints : Changes N r r₁ := Build.foldlM_induction (P := Changes N r) .refl
    (fun _ e _ he hb hstep => hb.trans (changes_mergeEndpoint (hother e he) hstep)) h₁
  exact hendpoints.tail (.fallback r₁ _)

theorem changes_nest {inner : Router σ} {front : Text}
    (hN : ∀ t route, Route.compile t .strict = .ok route → N t route) (h : (r.nest front inner).result = .ok r') :
    Changes N r r' := by
  obtain ⟨strip, r₁, -, h₁, h⟩ := nest_eq_ok.1 h
  have hendpoints : Changes N r r₁ := Build.foldlM_induction (P := Changes N r) .refl
    (fun _ _ _ _ hb hstep => hb.trans (changes_route (hN _) hstep)) h₁
  rcases h with ⟨-, rfl⟩ | ⟨fallback, -, h⟩
  · exact hendpoints
  · exact hendpoints.trans (changes_route (hN _) h)

theorem changes_nestService {front : Text} {s : Service}
    (hN : ∀ t route, Route.compile t .strict = .ok route → N t route)
    (h : (r.nestService front s).result = .ok r') : Changes N r r' := by
  obtain ⟨strip, -, h⟩ := nestService_eq_ok.1 h
  exact changes_route (hN _) h

end Router

end PathRouter
