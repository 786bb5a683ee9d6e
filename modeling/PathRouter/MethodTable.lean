/-
Handlers by method. A request without a handler for its method goes to the fallback, and the
response lists the methods that are allowed.
-/
import PathRouter.Service

namespace PathRouter

/-- Why a router cannot be built. -/
inductive BuildError where
  | invalidTemplate (template : Text)
  | overlap (v : Verb)
  | twoFallbacks
  | layerBeforeRoutes
  | nestedAtRoot
  | nestedWildcard
  deriving DecidableEq, Repr

/-- The wording of an error. -/
def BuildError.message : BuildError → Text
  | invalidTemplate template => "failed to insert route `".toList ++ template ++ "`".toList
  | overlap v =>
    "Overlapping method route. Cannot merge two method routes that both define `".toList ++
      v.name ++ "`".toList
  | twoFallbacks => "Cannot merge two `MethodRouter`s that both have a fallback".toList
  | layerBeforeRoutes =>
    ("Adding a route_layer before any routes is a no-op. " ++
      "Add the routes you want the layer to apply to first.").toList
  | nestedAtRoot => "nesting at the root is not supported".toList
  | nestedWildcard => "nest path must not contain wildcards".toList

/-- What the header of allowed methods says in answers of the fallback: the verbs that have a
handler, or there is no such header. -/
inductive Allow where
  | verbs (vs : List Verb)
  | skip
  deriving DecidableEq, Repr

/-- The service for requests without a handler: the standard one, or one that was registered. -/
inductive Fallback (σ : Type) where
  | standard (service : Service)
  | custom (handler : Handler σ)

/-- Handlers by verb, with a fallback. -/
structure MethodTable (σ : Type) where
  handlers : Verb → Option (Handler σ)
  fallback : Fallback σ
  allow : Allow

namespace Allow

/-- What two tables say together. -/
def merge : Allow → Allow → Allow
  | verbs vs, verbs ws => verbs (vs ++ ws)
  | _, _ => skip

/-- The value of the header. -/
def header? : Allow → Option Text
  | verbs vs => some ([','].intercalate (vs.map Verb.name))
  | skip => none

end Allow

namespace Fallback

variable {σ : Type}

/-- With the service changed. -/
def mapService (f : Service → Service) : Fallback σ → Fallback σ
  | standard service => standard (f service)
  | custom handler => custom fun s => f (handler s)

/-- With the state given. -/
def withState (s : σ) : Fallback σ → Fallback Unit
  | standard service => standard service
  | custom handler => custom fun _ => handler s

/-- The service, given the state. -/
def service (s : σ) : Fallback σ → Service
  | standard service => service
  | custom handler => handler s

/-- The fallback of two tables together: a registered one comes before a standard one. -/
def merge? : Fallback σ → Fallback σ → Option (Fallback σ)
  | standard _, f => some f
  | f, standard _ => some f
  | custom _, custom _ => none

end Fallback

namespace MethodTable

variable {σ : Type}

/-- The response where no method is allowed. -/
def notAllowed : Response :=
  .plain 405 []

/-- No handler at all. -/
def empty : MethodTable σ :=
  ⟨fun _ => none, .standard (.constant notAllowed), .verbs []⟩

/-- One handler for every method, also for methods without a verb. -/
def any (h : Handler σ) : MethodTable σ :=
  ⟨fun _ => none, .custom h, .skip⟩

/-- The verbs in the order in which they are listed as allowed. -/
def listed : List Verb :=
  [.get, .head, .trace, .put, .post, .patch, .options, .delete, .connect]

/-- The verbs that are listed where some verbs have a handler. Requests for the head alone are
answered by the handler that gets the whole, so that the one verb brings the other. -/
def allowed (verbs : List Verb) : List Verb :=
  listed.filter fun v => v ∈ verbs || (v == .head && .get ∈ verbs)

/-- One handler for several verbs. -/
def on (verbs : List Verb) (h : Handler σ) : MethodTable σ where
  handlers v := if v ∈ verbs then some h else none
  fallback := .standard (.constant notAllowed)
  allow := .verbs (allowed verbs)

/-- The first verb for which both tables have a handler. -/
def overlap? (t u : MethodTable σ) : Option Verb :=
  Verb.all.find? fun v => (t.handlers v).isSome && (u.handlers v).isSome

/-- Two tables together, if no verb has two handlers and at most one fallback is registered. -/
def merge (t u : MethodTable σ) : Except BuildError (MethodTable σ) :=
  match t.overlap? u, t.fallback.merge? u.fallback with
  | some v, _ => .error (.overlap v)
  | none, none => .error .twoFallbacks
  | none, some fallback =>
    .ok ⟨fun v => (t.handlers v).or (u.handlers v), fallback, t.allow.merge u.allow⟩

/-- With every handler changed. -/
def mapHandlers (t : MethodTable σ) (f : Service → Service) : MethodTable σ :=
  { t with handlers := fun v => (t.handlers v).map fun h s => f (h s) }

/-- With a layer around the handlers and the fallback. -/
def layer (t : MethodTable σ) (l : Layer) : MethodTable σ :=
  { t.mapHandlers l with fallback := t.fallback.mapService l }

/-- With a layer around the handlers only, of which there has to be one. -/
def routeLayer (t : MethodTable σ) (l : Layer) : Except BuildError (MethodTable σ) :=
  if Verb.all.any fun v => (t.handlers v).isSome then .ok (t.mapHandlers l)
  else .error .layerBeforeRoutes

/-- With the state given. -/
def withState (t : MethodTable σ) (s : σ) : MethodTable Unit where
  handlers v := (t.handlers v).map fun h _ => h s
  fallback := t.fallback.withState s
  allow := t.allow

/-- The handler for a method. -/
def handler? (t : MethodTable σ) : Method → Option (Handler σ)
  | .verb .head => (t.handlers .head).or (t.handlers .get)
  | .verb v => t.handlers v
  | .custom _ => none

/-- The response as it leaves the table. A successful response to CONNECT has no body and no list
of methods; a response to HEAD has no body. A list that is already there stays. -/
def finish (request : Request) (allow : Option Text) (r : Response) : Response :=
  if request.is .connect && r.isSuccess then { r with body := [] }
  else
    { r with
      allow := r.allow.or allow
      body := if request.is .head then [] else r.body }

/-- The answer to a request, given the state. -/
def serve (t : MethodTable σ) (s : σ) : Service := fun request =>
  match t.handler? request.method with
  | some h => (h s request).map (finish request none)
  | none => (t.fallback.service s request).map (finish request t.allow.header?)

end MethodTable

end PathRouter
