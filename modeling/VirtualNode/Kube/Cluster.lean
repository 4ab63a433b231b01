import VirtualNode.Kube.Rest

/-!
# The cluster

What the controller does in a cluster, as exchanges with the API server.  A node is registered by
creating or replacing it and then writing its status, which the server ignores in the first of
these.  Deleting an object that does not exist is no failure.
-/

set_option autoImplicit false

namespace VirtualNode.Kube.Cluster

open Rest
open Json (Value)

/-- The fault of an object without a name. -/
def namelessNode : Fault := .config "node has no name"

/-- The outcome of an exchange as a fault. -/
def orFault {α : Type} (outcome : Except RestError α) : Except Fault α :=
  outcome.mapError RestError.fault

/-- The outcome of a deletion: that there is nothing to delete is no failure. -/
def forgiving (outcome : Except RestError Unit) : Except Fault Unit :=
  match outcome with
  | .error (.refused refusal) => if refusal.code = 404 then .ok () else orFault outcome
  | outcome => orFault outcome

/-- Looks a node up by its name; none if there is no such node. -/
def findNode (name : String) : Exchange (Except RestError (Option Node)) := do
  match ← sendNamed .get name (objectUrl nodesUrl name) none Node.read? with
  | .ok node => return .ok (some node)
  | .error (.refused refusal) =>
    return if refusal.reason = "NotFound" then .ok none else .error (.refused refusal)
  | .error e => return .error e

/-- The document that replaces the status of an object. -/
def statusPatch (status : Option Value) : Value :=
  .object [("status", status.getD .null)]

/-- Writes the status of a node. -/
def updateNodeStatus (node : Node) : Exchange (Except Fault Unit) :=
  match node.name with
  | none => return .error namelessNode
  | some name => do
    let outcome ← sendNamed .patch name (statusUrl nodesUrl name)
      (some (statusPatch (node.status.map NodeStatus.toJson))) Node.read?
    return orFault (outcome.map fun _ => ())

/-- Creates a node, or replaces it if there is one of that name. -/
def storeNode (node : Node) (name : String) (existing : Option Node) :
    Exchange (Except RestError Node) :=
  match existing with
  | some old =>
    sendNamed .put name (withQuery (objectUrl nodesUrl name) [])
      (some { node with resourceVersion := old.resourceVersion }.toJson) Node.read?
  | none => send .post (withQuery nodesUrl []) (some node.toJson) Node.read?

/-- Registers a node: creates or replaces it, and writes its status. -/
def registerNode (node : Node) : Exchange (Except Fault Unit) :=
  match node.name with
  | none => return .error namelessNode
  | some name => do
    match ← findNode name with
    | .error e => return .error e.fault
    | .ok existing =>
      match ← storeNode node name existing with
      | .error e => return .error e.fault
      | .ok _ => updateNodeStatus node

/-- Deletes a node. -/
def deleteNode (name : String) : Exchange (Except Fault Unit) := do
  let outcome ← sendNamed .delete name (withQuery (objectUrl nodesUrl name) [])
    (some (.object [])) (deleted? Node.read?)
  return forgiving outcome

/-- Lists the pods that are bound to a node. -/
def listPods (nodeName : String) : Exchange (Except Fault (List Pod)) := do
  let query := Text.Url.pair "fieldSelector" ("spec.nodeName=" ++ nodeName)
  let outcome ← send .get (withQuery podsUrl [query]) none Pod.readList?
  return orFault outcome

/-- Writes the status of a pod. -/
def updatePodStatus (spaceName name : String) (status : PodStatus) :
    Exchange (Except Fault Unit) := do
  let outcome ← sendNamed .patch name (statusUrl (podsUrlIn spaceName) name)
    (some (statusPatch (some status.toJson))) Pod.read?
  return orFault (outcome.map fun _ => ())

/-- Deletes a pod at once. -/
def deletePod (spaceName name : String) : Exchange (Except Fault Unit) := do
  let outcome ← sendNamed .delete name (withQuery (objectUrl (podsUrlIn spaceName) name) [])
    (some (.object [("gracePeriodSeconds", .ofInt 0)])) (deleted? Pod.read?)
  return forgiving outcome

/-- Answers requests from a list of replies. -/
def answerFrom (_ : Request) : List Reply → Reply × List Reply
  | [] => (.unavailable, [])
  | reply :: rest => (reply, rest)

/-- Makes an exchange with a server that replies from a list.  The result comes with the requests
that were made and the replies that are left. -/
def replay {α : Type} (exchange : Exchange α) (replies : List Reply) :
    α × List Request × List Reply :=
  let (a, _, rest, log) := Dialogue.replay answerFrom exchange () replies
  (a, log.map (·.question), rest)

end VirtualNode.Kube.Cluster
