import VirtualNode.Text.Uri
import VirtualNode.Watch.Health
import VirtualNode.Watch.Metrics

/-!
# The HTTP interface

What the agent answers over HTTP: whether it is alive, whether it is ready, and its metrics.  A
route answers the methods GET and HEAD, the latter without the body.
-/

set_option autoImplicit false

namespace VirtualNode.Agent.Api

/-- What can be asked for. -/
inductive Route where
  /-- Whether the controller is alive. -/
  | health
  /-- Whether the controller is ready. -/
  | readiness
  | metrics
  deriving DecidableEq, Repr, Inhabited

/-- The path of a route. -/
def Route.path : Route → String
  | health => "/healthz"
  | readiness => "/readyz"
  | metrics => "/metrics"

/-- The route of a path, which must be the same to the letter. -/
def Route.ofPath? (path : String) : Option Route :=
  [Route.health, .readiness, .metrics].find? fun r => r.path = path

/-- What an answer carries. -/
inductive Body where
  | empty
  | document (v : Json.Value)
  | exposition (m : Watch.Metrics)

/-- The type that is declared for a body. -/
def Body.contentType? : Body → Option String
  | empty => none
  | document _ => some "application/json"
  | exposition _ => some "text/plain; charset=utf-8"

/-- An answer. -/
structure Response where
  status : Nat
  contentType? : Option String
  body : Body

/-- An answer with a body. -/
def Response.carrying (status : Nat) (body : Body) : Response :=
  ⟨status, body.contentType?, body⟩

/-- An answer without a body. -/
def Response.bare (status : Nat) : Response :=
  .carrying status .empty

/-- The answer to GET on a route. -/
def get (h : Watch.Health) (m : Watch.Metrics) : Route → Response
  | .health => .carrying (if h.overall = .unhealthy then 503 else 200) (.document h.toJson)
  | .readiness => .carrying (if h.isReady then 200 else 503) (.document h.readinessToJson)
  | .metrics => .carrying 200 (.exposition m)

/-- The answer to a method on a route. -/
def onRoute (h : Watch.Health) (m : Watch.Metrics) (method : String) (r : Route) : Response :=
  if method = "GET" then get h m r
  else if method = "HEAD" then { get h m r with body := .empty }
  else .bare 405

/-- The answer to a request.  Neither a scheme and a host nor a query matter. -/
def respond (h : Watch.Health) (m : Watch.Metrics) (method address : String) : Response :=
  match (Text.Uri.parse? address).bind fun uri => Route.ofPath? uri.target.path with
  | some r => onRoute h m method r
  | none => .bare 404

end VirtualNode.Agent.Api
