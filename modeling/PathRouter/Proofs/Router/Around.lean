/-
What is around a handler: layers, and the layers that strip the prefixes of routers that were nested. A request comes
to each of them with the URI that the prefixes further out leave of it (`Wrapper.asksOnly_around`), whatever the layers
do, as long as they keep the URI. Where a template behind nestable prefixes matches the path, each prefix is there to be
stripped (`Wrapper.strip?_of_exec`).
-/
import PathRouter.Service
import PathRouter.Proofs.Template.Stripping

namespace PathRouter

/-! ## What a layer asks -/

namespace Layer

/-- Of a service behind the layer, only what it says to requests with the given URI makes a difference to the answer to
a request. -/
def AsksOnly (l : Layer) (request : Request) (u : Uri) : Prop :=
  ∀ f g : Service, (∀ asked : Request, asked.uri = u → f asked = g asked) → l f request = l g request

/-- What is behind the layer gets the URI that the layer gets. -/
def KeepsUri (l : Layer) : Prop :=
  ∀ request : Request, l.AsksOnly request request.uri

theorem keepsUri_tagged (tag : Text) : (tagged tag).KeepsUri := by
  intro request f g h
  unfold tagged
  rw [h request rfl]

/-- Behind the layer that strips a prefix, requests have the stripped URI. -/
theorem asksOnly_stripping (p : Pattern) (request : Request) :
    (stripping p).AsksOnly request (p.stripped request.uri) := by
  intro f g h
  unfold Pattern.stripped at h
  unfold stripping
  cases hstrip : p.strip? request.uri with
  | none =>
    rw [hstrip] at h
    exact h request rfl
  | some u =>
    rw [hstrip] at h
    have hsame : f { request with uri := u } = g { request with uri := u } := h _ rfl
    exact congrArg (fun a : Answer => a.after [.stripped request.uri.text u.text]) hsame

end Layer

/-! ## What is around a handler -/

/-- What is put around a handler: a layer, or the layer that strips a prefix. -/
inductive Wrapper where
  | layer (l : Layer)
  | strip (front : Text)

namespace Wrapper

/-- The layer that it is. A prefix without a loose route is not stripped. -/
def toLayer : Wrapper → Layer
  | layer l => l
  | strip front =>
    match Route.compile front .loose with
    | .ok outer => .stripping outer.pattern
    | .error _ => id

/-- The URI of a request behind it, if layers keep the URI. -/
def pass : Wrapper → Uri → Uri
  | layer _, u => u
  | strip front, u =>
    match Route.compile front .loose with
    | .ok outer => outer.pattern.stripped u
    | .error _ => u

/-- The prefix that it strips. -/
def front? : Wrapper → Option Text
  | layer _ => none
  | strip front => some front

/-- A stack of them as one layer, the first one outermost. -/
def around : List Wrapper → Layer
  | [] => id
  | w :: ws => w.toLayer ∘ around ws

/-- The URI that a request has behind a stack. -/
def reach (ws : List Wrapper) (u : Uri) : Uri :=
  ws.foldl (fun u w => w.pass u) u

/-- The prefixes that a stack strips, the outermost one first. -/
def fronts (ws : List Wrapper) : List Text :=
  ws.filterMap front?

variable {w : Wrapper} {ws outer inner : List Wrapper} {front : Text}

theorem toLayer_strip {route : Route} (h : Route.compile front .loose = .ok route) :
    (strip front).toLayer = .stripping route.pattern := by
  unfold toLayer
  dsimp only
  rw [h]

theorem pass_strip {route : Route} (h : Route.compile front .loose = .ok route) (u : Uri) :
    (strip front).pass u = route.pattern.stripped u := by
  unfold pass
  dsimp only
  rw [h]

theorem around_append (outer inner : List Wrapper) : around (outer ++ inner) = around outer ∘ around inner := by
  induction outer with
  | nil => rfl
  | cons w ws ih => rw [List.cons_append, around, ih, around, Function.comp_assoc]

theorem reach_append (outer inner : List Wrapper) (u : Uri) : reach (outer ++ inner) u = reach inner (reach outer u) :=
  List.foldl_append

theorem reach_concat (ws : List Wrapper) (w : Wrapper) (u : Uri) : reach (ws ++ [w]) u = w.pass (reach ws u) :=
  reach_append ws [w] u

theorem asksOnly_toLayer (hw : ∀ l, w = layer l → l.KeepsUri) (request : Request) :
    w.toLayer.AsksOnly request (w.pass request.uri) := by
  cases w with
  | layer l => exact hw l rfl request
  | strip front =>
    unfold toLayer pass
    dsimp only
    cases Route.compile front .loose with
    | ok route => exact Layer.asksOnly_stripping route.pattern request
    | error e => exact fun f g h => h request rfl

/-- What is behind a stack is asked only about requests with the URI that the prefixes in the stack leave. -/
theorem asksOnly_around (hws : ∀ l, layer l ∈ ws → l.KeepsUri) (request : Request) :
    (around ws).AsksOnly request (reach ws request.uri) := by
  induction ws generalizing request with
  | nil => exact fun f g h => h request rfl
  | cons w ws ih =>
    intro f g h
    have hw : ∀ l, w = layer l → l.KeepsUri := fun l hl => hws l (hl ▸ List.mem_cons_self)
    have hrest : ∀ l, layer l ∈ ws → l.KeepsUri := fun l hl => hws l (List.mem_cons_of_mem w hl)
    -- What is behind the outermost one answers alike with both services.
    refine asksOnly_toLayer hw request (around ws f) (around ws g) fun asked hasked => ih hrest asked f g ?_
    rw [hasked]
    exact h

/-! ## Prefixes that are there to be stripped -/

/-- A stack strips prefixes that can be stripped, and they have loose routes. -/
def Strips (ws : List Wrapper) : Prop :=
  ∀ front ∈ fronts ws, Template.Nestable front ∧ ∃ route, Route.compile front .loose = .ok route

/-- A template behind the prefixes of a stack. -/
def joined (ws : List Wrapper) (t : Text) : Text :=
  (fronts ws).foldr Template.join t

theorem plain_joined (hws : Strips ws) {t : Text} (ht : Template.Plain t) : Template.Plain (joined ws t) := by
  unfold joined
  unfold Strips at hws
  generalize fronts ws = fs at hws
  induction fs with
  | nil => exact ht
  | cons front fs ih =>
    have hfront := (hws front List.mem_cons_self).1
    exact Template.forall_segment_join trivial hfront.plain (ih fun f hf => hws f (List.mem_cons_of_mem front hf))

/-- Where a template behind the prefixes of a stack matches the path, the URI that gets to a prefix has it to be
stripped. -/
theorem strip?_of_exec {t : Text} (ht : Template.Plain t) :
    ∀ {ws : List Wrapper} {u : Uri} {route : Route} {p : Params},
    Strips ws → Route.compile (joined ws t) .strict = .ok route → route.exec u.path = some p → u.WellFormed →
    ∀ outer front inner, ws = outer ++ strip front :: inner → ∃ loose, Route.compile front .loose = .ok loose ∧
      loose.pattern.strip? (reach outer u) = some (reach (outer ++ [strip front]) u)
  | [], u, route, p, hws, hroute, hexec, hu, outer, front, inner, hsplit =>
    absurd hsplit.symm (List.append_ne_nil_of_right_ne_nil _ (List.cons_ne_nil _ _))
  | layer l :: ws, u, route, p, hws, hroute, hexec, hu, outer, front, inner, hsplit => by
    cases outer with
    | nil => cases hsplit
    | cons w outer =>
      rw [List.cons_append, List.cons.injEq] at hsplit
      obtain ⟨rfl, hsplit⟩ := hsplit
      have hrest : Strips ws := hws
      have hjoined : Route.compile (joined ws t) .strict = .ok route := hroute
      exact strip?_of_exec ht hrest hjoined hexec hu outer front inner hsplit
  | strip first :: ws, u, route, p, hws, hroute, hexec, hu, outer, front, inner, hsplit => by
    obtain ⟨hfirst, loose, hloose⟩ := hws first List.mem_cons_self
    have hrest : Strips ws := fun f hf => hws f (List.mem_cons_of_mem first hf)
    -- The first prefix matches with something left, which the template behind the other prefixes matches.
    obtain ⟨c, hc, -⟩ := Option.map_eq_some_iff.1 hexec
    obtain ⟨-, -, route', hroute', hjoin⟩ :=
      Template.exec_join hfirst.rigid hfirst.solid (plain_joined hrest ht) hroute hc
    obtain ⟨rest, hcut⟩ := hjoin loose hloose
    have hstripped : loose.pattern.strip? u = some { u with path := rest } := hcut.strip u hu rfl
    have hpass : (strip first).pass u = { u with path := rest } := by
      rw [pass_strip hloose, Pattern.stripped, hstripped, Option.getD_some]
    cases outer with
    | nil =>
      rw [List.nil_append, List.cons.injEq] at hsplit
      obtain ⟨heq, -⟩ := hsplit
      cases heq
      refine ⟨loose, hloose, ?_⟩
      rw [reach_concat, show reach [] u = u from rfl, hpass, hstripped]
    | cons w outer =>
      rw [List.cons_append, List.cons.injEq] at hsplit
      obtain ⟨rfl, hsplit⟩ := hsplit
      have hu' : Uri.WellFormed { u with path := rest } := by
        have hplace := hstripped
        rw [Pattern.strip?, hcut.remainder, Option.bind_some] at hplace
        exact Uri.WellFormed.withPath? hplace
      have ih := @strip?_of_exec t ht ws { u with path := rest } route' _ hrest hroute' hcut.behind hu' outer
        front inner hsplit
      rw [← hpass] at ih
      exact ih

end Wrapper

end PathRouter
