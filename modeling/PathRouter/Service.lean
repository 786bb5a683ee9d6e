/-
Requests, responses and the services between them. A service answers a request with a response and
reports what happened; a layer makes a service from a service.
-/
import PathRouter.Event
import PathRouter.Extraction.Read
import PathRouter.Method
import PathRouter.Prefix
import PathRouter.Route

namespace PathRouter

/-- The template that a request was dispatched by, with its keys. -/
structure MatchedPath where
  template : Text
  keys : Keys
  deriving DecidableEq, Repr

/-- A request, with what the latest dispatch recorded: the decoded parameters and the template. -/
structure Request where
  method : Method
  uri : Uri
  recorded : Option Recorded
  matched : Option MatchedPath

/-- A layer that a response has passed: its tag, and the URI and the template that the request had
when it passed the layer. -/
structure Passage where
  tag : Text
  uri : Uri
  template : Option Text
  deriving DecidableEq, Repr

/-- A response: its status, the value of its header of allowed methods if it has one, its body, and
the layers that it has passed, innermost first. -/
structure Response where
  status : Nat
  allow : Option Text
  body : Text
  passages : List Passage
  deriving DecidableEq, Repr

/-- A response with what was reported on the way to it. -/
structure Answer where
  response : Response
  events : List Event
  deriving DecidableEq, Repr

/-- A service answers every request. -/
abbrev Service := Request → Answer

/-- A handler becomes a service when it gets the state that it needs. -/
abbrev Handler (σ : Type) := σ → Service

/-- A layer makes a service from a service. -/
abbrev Layer := Service → Service

namespace Request

/-- The request of a client: nothing is recorded yet. -/
def new (method : Method) (uri : Uri) : Request :=
  ⟨method, uri, none, none⟩

/-- Whether the request has the given verb. -/
def is (r : Request) (v : Verb) : Bool :=
  r.method == .verb v

end Request

namespace Response

/-- A response with a status and a body. -/
def plain (status : Nat) (body : Text) : Response :=
  ⟨status, none, body, []⟩

/-- Whether the status reports success. -/
def isSuccess (r : Response) : Bool :=
  200 ≤ r.status && r.status < 300

end Response

/-- The response to an extraction that was rejected. -/
def Rejection.response (r : Rejection) : Response :=
  .plain r.status r.body

namespace Answer

/-- With events reported before. -/
def after (a : Answer) (events : List Event) : Answer :=
  { a with events := events ++ a.events }

/-- With the response changed. -/
def map (a : Answer) (f : Response → Response) : Answer :=
  { a with response := f a.response }

end Answer

namespace Service

/-- The service that always gives the same response. -/
def constant (r : Response) : Service :=
  fun _ => ⟨r, []⟩

/-- The service that needs data of a shape. A rejection is the response. -/
def withData (s : Shape) (respond : Reading → Service) : Service := fun request =>
  match s.extract request.recorded with
  | .ok data => respond data request
  | .error rejection => ⟨rejection.response, [.rejected rejection.message]⟩

/-- The response to a request that was not dispatched by a template. -/
def unmatched : Response :=
  .plain 500 "no route template matched this request".toList

/-- The service that needs the template of the request. -/
def withMatchedPath (respond : MatchedPath → Service) : Service := fun request =>
  match request.matched with
  | some matched => respond matched request
  | none => ⟨unmatched, []⟩

end Service

namespace Layer

/-- The layer that leaves its tag on every response. -/
def tagged (tag : Text) : Layer := fun inner request =>
  (inner request).map fun r =>
    { r with
      passages := r.passages ++ [⟨tag, request.uri, request.matched.map (·.template)⟩] }

/-- The layer that removes a prefix from the path. Requests outside the prefix pass unchanged. -/
def stripping (p : Pattern) : Layer := fun inner request =>
  match p.strip? request.uri with
  | some uri =>
    (inner { request with uri }).after [.stripped request.uri.text uri.text]
  | none => inner request

end Layer

end PathRouter
