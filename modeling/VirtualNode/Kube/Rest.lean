import VirtualNode.Dialogue
import VirtualNode.Fault
import VirtualNode.Json.Row
import VirtualNode.Kube.Node
import VirtualNode.Kube.PodStatus
import VirtualNode.Kube.Shapes.Outcome
import VirtualNode.Text.Uri

/-!
# Requests to the API server

The API server of a cluster is asked by HTTP requests.  A reply whose code is an error of the client
or of the server is a refusal, which says why in an outcome object; every other reply must carry
the object that was asked for.
-/

set_option autoImplicit false

namespace VirtualNode.Kube.Rest

open Json (Members Value)

/-- What a request does. -/
inductive Verb where
  | get
  | post
  | put
  | patch
  | delete
  deriving DecidableEq, Repr, Inhabited

/-- The word for a verb. -/
def Verb.text : Verb → String
  | get => "GET"
  | post => "POST"
  | put => "PUT"
  | patch => "PATCH"
  | delete => "DELETE"

/-- A request. -/
structure Request where
  verb : Verb
  target : Text.Url.Target
  body : Option Value
  deriving DecidableEq, Repr, Inhabited

/-- The type of the content of a request, if it has any. -/
def Request.contentType? (r : Request) : Option String :=
  r.body.map fun _ =>
    if r.verb = .patch then "application/merge-patch+json" else "application/json"

/-- A reply. -/
structure Reply where
  code : Nat
  body : String
  deriving DecidableEq, Repr, Inhabited

/-- The reply of a server that has nothing to say. -/
def Reply.unavailable : Reply := ⟨500, ""⟩

/-- A refusal. -/
structure Refusal where
  code : Nat
  reason : String
  message : String
  deriving DecidableEq, Repr, Inhabited

/-- Why an object could not be had. -/
inductive RestError where
  /-- The name or another part of the request is not usable. -/
  | unusable
  | refused (refusal : Refusal)
  /-- The reply does not carry the object that was asked for. -/
  | unreadable
  deriving DecidableEq, Repr, Inhabited

/-- The fault that a failed request means. -/
def RestError.fault : RestError → Fault
  | unusable => .clusterAccess "request is not usable"
  | refused refusal => .clusterAccess (refusal.message ++ " (" ++ refusal.reason ++ ")")
  | unreadable => .clusterAccess "reply is not readable"

/-- The fields in which an outcome object spells a refusal out. -/
def Refusal.fields : List Json.Field :=
  [⟨"status", none, .text, true⟩, ⟨"message", none, .text, false⟩, ⟨"reason", none, .text, false⟩,
    ⟨"code", none, .whole, true⟩]

/-- The refusal that a text spells out. -/
def Refusal.read? (text : String) : Option Refusal := do
  let row ← (Json.Row.decode fields (Text.Symbols.ofString text)).toOption
  let code := row.integer 3
  guard (0 ≤ code && code < 65536)
  return ⟨code.toNat, row.string 2, row.string 1⟩

/-- Whether a reply is a refusal. -/
def Reply.isRefusal (r : Reply) : Bool := 400 ≤ r.code && r.code < 600

/-- The refusal that a reply means.  A reply that does not spell it out is taken by its code. -/
def Reply.refusal (r : Reply) : Refusal :=
  (Refusal.read? r.body).getD ⟨r.code, "Failed to parse error data", r.body⟩

/-- What a reply carries, read by `f`. -/
def Reply.read {α : Type} (f : String → Option α) (r : Reply) : Except RestError α :=
  if r.isRefusal then .error (.refused r.refusal)
  else match f r.body with
    | some a => .ok a
    | none => .error .unreadable

/-- An exchange with the API server. -/
abbrev Exchange := Dialogue Request (fun _ => Reply) Unit

/-- Makes a request whose reply is read by `f`. -/
def send {α : Type} (verb : Verb) (url : String) (body : Option Value) (f : String → Option α) :
    Exchange (Except RestError α) :=
  match Text.Uri.parse? url with
  | none => return .error .unusable
  | some uri => .ask ⟨verb, uri.target, body⟩ fun reply => .done (reply.read f)

/-- Makes a request about an object that must have a name. -/
def sendNamed {α : Type} (verb : Verb) (name url : String) (body : Option Value)
    (f : String → Option α) : Exchange (Except RestError α) :=
  if name = "" then return .error .unusable else send verb url body f

/-! ## Where objects are -/

/-- Where all nodes are. -/
def nodesUrl : String := "/api/v1/nodes"

/-- Where all pods are. -/
def podsUrl : String := "/api/v1/pods"

/-- Where the pods of a namespace are. -/
def podsUrlIn (spaceName : String) : String := "/api/v1/namespaces/" ++ spaceName ++ "/pods"

/-- An address followed by a query, which may be empty. -/
def withQuery (url : String) (pairs : List String) : String :=
  url ++ "?" ++ String.join (pairs.map ("&" ++ ·))

/-- Where an object of a name is. -/
def objectUrl (url name : String) : String := url ++ "/" ++ name

/-- Where the status of an object is written, together with the name under which that is done. -/
def statusUrl (url name : String) : String :=
  withQuery (objectUrl url name ++ "/status")
    [Text.Url.pair "fieldManager" "module-controller"]

/-! ## What replies carry -/

/-- Whether a document is an outcome object. -/
def isOutcome (v : Value) : Bool :=
  match v.members? with
  | some ms => ms.get? "kind" = some (.text "Status")
  | none => false

/-- Reads the reply to a deletion: an outcome object, or the object that is being deleted. -/
def deleted? {α : Type} (f : String → Option α) (text : String) : Option Unit := do
  let v ← (Json.decode some (Text.Symbols.ofString text)).toOption
  if isOutcome v then (Shapes.outcome.read? text).map fun _ => () else (f text).map fun _ => ()

end VirtualNode.Kube.Rest
