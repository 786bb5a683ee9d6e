/-
Routers: endpoints in the order of their registration, each a template with its table of methods.
A request goes to the first endpoint whose template matches its path. Building steps can fail; they
report what they do (`Build`).
-/
import PathRouter.MethodTable
import PathRouter.Template.Join

namespace PathRouter

/-- A building step: what it reports, and its result unless it fails. -/
structure Build (α : Type) where
  events : List Event
  result : Except BuildError α

namespace Build

/-- A step without a report. -/
def ofExcept {α : Type} (result : Except BuildError α) : Build α :=
  ⟨[], result⟩

/-- A step that fails. -/
def fail {α : Type} (e : BuildError) : Build α :=
  ⟨[], .error e⟩

/-- A step that only reports. -/
def report (events : List Event) : Build Unit :=
  ⟨events, .ok ()⟩

instance : Monad Build where
  pure a := ⟨[], .ok a⟩
  bind x f :=
    match x.result with
    | .ok a => ⟨x.events ++ (f a).events, (f a).result⟩
    | .error e => ⟨x.events, .error e⟩

end Build

/-- A template with its compiled route and its handlers. -/
structure Endpoint (σ : Type) where
  template : Text
  route : Route
  table : MethodTable σ

/-- A router whose handlers need a state. -/
structure Router (σ : Type) where
  endpoints : List (Endpoint σ)
  fallback : Option (MethodTable σ)

/-- A template compiled for a router. -/
def Template.compile (template : Text) (mode : Template.Mode) : Build Route := do
  Build.report [.compiled template mode]
  match Route.compile template mode with
  | .ok route => return route
  | .error _ => Build.fail (.invalidTemplate template)

namespace Endpoint

variable {σ : Type}

/-- With the table changed. -/
def mapTable {τ : Type} (e : Endpoint σ) (f : MethodTable σ → MethodTable τ) : Endpoint τ :=
  ⟨e.template, e.route, f e.table⟩

/-- With another table merged into the one of the endpoint with a template. Nothing changes where
no endpoint has the template. -/
def mergeInto (template : Text) (table : MethodTable σ) :
    List (Endpoint σ) → Except BuildError (List (Endpoint σ))
  | [] => .ok []
  | e :: es =>
    if e.template = template then (e.table.merge table).map fun t => { e with table := t } :: es
    else (mergeInto template table es).map (e :: ·)

end Endpoint

namespace Router

variable {σ : Type}

/-- The router without endpoints and without a fallback. -/
def empty : Router σ := ⟨[], none⟩

/-- The templates, in the order of registration. -/
def templates (r : Router σ) : List Text :=
  r.endpoints.map (·.template)

/-- Whether an endpoint has the template. -/
def hasTemplate (r : Router σ) (template : Text) : Bool :=
  r.endpoints.any (·.template == template)

/-- The router shown with its templates, and whether it has a fallback. -/
def description (r : Router σ) : Text :=
  "Router \x7b templates: [".toList ++
    ", ".toList.intercalate (r.templates.map Text.quoted) ++
    "], fallback: ".toList ++ (toString r.fallback.isSome).toList ++ " \x7d".toList

/-! ## Registration -/

/-- Merges a table into the endpoint of a template that is registered already. -/
def mergeTable (r : Router σ) (template : Text) (table : MethodTable σ) : Build (Router σ) :=
  .ofExcept ((Endpoint.mergeInto template table r.endpoints).map ({ r with endpoints := · }))

/-- Registers a table under a template. A template that is registered already keeps its place, and
the tables are merged. -/
def route (r : Router σ) (template : Text) (table : MethodTable σ) : Build (Router σ) :=
  if r.hasTemplate template then r.mergeTable template table
  else do
    let route ← Template.compile template .strict
    Build.report [.registered template]
    return { r with endpoints := r.endpoints ++ [⟨template, route, table⟩] }

/-- Registers a service for all methods. -/
def routeService (r : Router σ) (template : Text) (s : Service) : Build (Router σ) :=
  r.route template (.any fun _ => s)

/-- Appends an endpoint, or merges its table where its template is registered already. -/
def mergeEndpoint (r : Router σ) (e : Endpoint σ) : Build (Router σ) :=
  if r.hasTemplate e.template then r.mergeTable e.template e.table
  else return { r with endpoints := r.endpoints ++ [e] }

/-- Appends the endpoints of another router. Its fallback, if it has one, replaces the one here. -/
def merge (r other : Router σ) : Build (Router σ) := do
  let r ← other.endpoints.foldlM mergeEndpoint r
  return { r with fallback := other.fallback.or r.fallback }

/-! ## Nesting -/

/-- The template of everything behind a prefix. -/
def catchAll : Text := "/*?".toList

/-- Whether a template consists of slashes only. -/
def isRoot (template : Text) : Bool :=
  template.all (· == '/')

/-- Whether a template contains a wildcard. -/
def hasWildcard (template : Text) : Bool :=
  (Template.segments template).any fun
    | .wildcard _ => true
    | _ => false

/-- The layer that strips a prefix, which is neither the root nor contains a wildcard. -/
def nestLayer (front : Text) : Build Layer :=
  if isRoot front then Build.fail .nestedAtRoot
  else if hasWildcard front then Build.fail .nestedWildcard
  else do
    let route ← Template.compile front .loose
    return .stripping route.pattern

/-- Registers the endpoints of another router behind a prefix, each with the prefix stripped before
its handlers. The other router's fallback answers everything else behind the prefix. -/
def nest (r : Router σ) (front : Text) (inner : Router σ) : Build (Router σ) := do
  let strip ← nestLayer front
  Build.report [.nestingRouter front inner.endpoints.length]
  let r ← inner.endpoints.foldlM
    (fun (r : Router σ) (e : Endpoint σ) =>
      r.route (Template.join front e.template) (e.table.layer strip)) r
  match inner.fallback with
  | some fallback => r.route (Template.join front catchAll) (fallback.layer strip)
  | none => return r

/-- Registers a service for everything behind a prefix, which is stripped before. -/
def nestService (r : Router σ) (front : Text) (s : Service) : Build (Router σ) := do
  let strip ← nestLayer front
  Build.report [.nestingService front]
  r.route (Template.join front catchAll) ((MethodTable.any fun _ => s).layer strip)

/-! ## Fallback, layers and state -/

/-- With a handler for requests that no template matches. -/
def withFallback (r : Router σ) (h : Handler σ) : Router σ :=
  { r with fallback := some (.any h) }

/-- With a service for requests that no template matches. -/
def withFallbackService (r : Router σ) (s : Service) : Router σ :=
  r.withFallback fun _ => s

/-- The response to requests that nothing answers. -/
def notFound : Response :=
  .plain 404 []

/-- With a layer around all handlers and the fallback. A router without a fallback gets one that
finds nothing. -/
def layer (r : Router σ) (l : Layer) : Router σ where
  endpoints := r.endpoints.map (·.mapTable (·.layer l))
  fallback := some ((r.fallback.getD (.any fun _ => .constant notFound)).layer l)

/-- With a layer around the handlers of every endpoint, each of which has to have one. -/
def routeLayer (r : Router σ) (l : Layer) : Build (Router σ) :=
  .ofExcept do
    let endpoints ← r.endpoints.mapM fun e =>
      (e.table.routeLayer l).map fun t => { e with table := t }
    return { r with endpoints }

/-- With the state given. -/
def withState (r : Router σ) (s : σ) : Router Unit where
  endpoints := r.endpoints.map (·.mapTable (·.withState s))
  fallback := r.fallback.map (·.withState s)

/-! ## Serving -/

/-- The first endpoint whose template matches the path, with the captured parameters. -/
def dispatch? (r : Router σ) (path : Text) : Option (Endpoint σ × Params) :=
  r.endpoints.findSome? fun e => (e.route.exec path).map fun p => (e, p)

/-- The answer to a request. What a dispatch records replaces what an outer router recorded; the
fallback sees what an outer router recorded. -/
def serve (r : Router Unit) : Service := fun request =>
  let path := request.uri.path
  match r.dispatch? path with
  | some (e, p) =>
    let dispatched :=
      { request with
        recorded := some p.decode
        matched := some ⟨e.template, e.route.keys⟩ }
    (e.table.serve () dispatched).after [.matched path e.template]
  | none =>
    match r.fallback with
    | some table => (table.serve () request).after [.unmatched path]
    | none => ⟨notFound, [.unmatched path]⟩

end Router

end PathRouter
