import VirtualNode.Json.Writer
import VirtualNode.Simulation.World

/-!
# Transcripts

A transcript shows what happened in a simulation.  Where the order of neighbouring entries at one
instant means nothing, because they come from going through a table, they are shown in the order
of their keys.
-/

set_option autoImplicit false

namespace VirtualNode.Simulation

open Controller

/-- Puts an entry with a key into a sorted run of such entries. -/
def insertByKey {α : Type} (x : String × α) : List (String × α) → List (String × α)
  | [] => [x]
  | y :: ys => if y.1 ≤ x.1 then y :: insertByKey x ys else x :: y :: ys

/-- Sorts every run of neighbouring entries that have a key and the same time.  Entries of equal
keys keep their order, and entries without a key stay where they are. -/
def sortRuns {α : Type} (time : α → Nat) (key : α → Option String) (entries : List α) : List α :=
  go none [] entries
where
  /-- Goes on with an open run. -/
  go (since : Option Nat) (run : List (String × α)) : List α → List α
    | [] => run.map Prod.snd
    | x :: xs =>
      match key x with
      | none => run.map Prod.snd ++ x :: go none [] xs
      | some k =>
        if since = some (time x) then go since (insertByKey (k, x) run) xs
        else run.map Prod.snd ++ go (some (time x)) [(k, x)] xs

/-- The key of the entries whose order means nothing: commands to uninstall, and statuses of
pods. -/
def Record.freeKey (r : Record) : Option String :=
  match r.call with
  | .command .uninstall _ d => some d.encode
  | .reportPod spaceName name _ => some (spaceName ++ "/" ++ name)
  | _ => none

/-- The key of the events whose order means nothing: commands to uninstall. -/
def eventKey (e : Watch.Entry) : Option String :=
  match e.event with
  | .commandPublished command _ biz =>
    if command = Verb.uninstall.text then some (Json.quote biz) else none
  | _ => none

/-- Whether a call goes to the broker and not to the cluster. -/
def isTransport : Call → Bool
  | .probe _ | .command _ _ _ | .subscribe _ | .unsubscribe _ | .disconnect => true
  | _ => false

/-- The calls to the broker among some records, as they are shown. -/
def transportRecords (records : List Record) : List Record :=
  sortRuns Record.time Record.freeKey (records.filter fun r => isTransport r.call)

/-- The calls to the cluster among some records, as they are shown. -/
def clusterRecords (records : List Record) : List Record :=
  sortRuns Record.time Record.freeKey (records.filter fun r => !isTransport r.call)

/-- The events of a journal, as they are shown. -/
def shownEvents (entries : List Watch.Entry) : List Watch.Entry :=
  sortRuns Watch.Entry.time eventKey entries

/-! ## Calls as documents -/

open Json (Value Members)

/-- The word for a call. -/
def callWord : Call → String
  | .turn => "turn"
  | .noting => "noting"
  | .probe _ | .command _ _ _ => "publish"
  | .subscribe _ => "subscribe"
  | .unsubscribe _ => "unsubscribe"
  | .disconnect => "disconnect"
  | .register _ => "register_node"
  | .reportNode _ => "update_node_status"
  | .listPods => "list_pods"
  | .reportPod _ _ _ => "update_pod_status"
  | .deletePod _ _ => "delete_pod"
  | .deleteNode => "delete_node"

/-- The members of the document of a message. -/
def messageMembers (m : Message) : Members :=
  [("topic", .text m.topic), ("qos", .ofInt m.qos.level), ("retained", .bool m.retained),
    ("payload", .text m.payload)]

/-- The members of the document of a call. -/
def callMembers (s : Settings) (call : Call) : Members :=
  match call with
  | .probe _ | .command _ _ _ => ((call.message? s).map messageMembers).getD []
  | .subscribe purpose =>
    [("topic", .text (s.topic purpose)), ("qos", .ofInt s.commandQos.level)]
  | .unsubscribe purpose => [("topic", .text (s.topic purpose))]
  | .turn | .noting | .disconnect => []
  | .register node => [("node", node.toJson)]
  | .reportNode node =>
    [("name", .text (node.name.getD "")), ("phase", (node.phase.map .text).getD .null),
      ("conditions", .list (node.conditions.map (·.toJson)))]
  | .listPods => [("node", .text s.nodeName)]
  | .reportPod spaceName name status =>
    [("pod", .text (spaceName ++ "/" ++ name)), ("status", status.toJson)]
  | .deletePod spaceName name => [("pod", .text (spaceName ++ "/" ++ name))]
  | .deleteNode => [("name", .text s.nodeName)]

end VirtualNode.Simulation
