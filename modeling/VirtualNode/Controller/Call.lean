import VirtualNode.Biz.Descriptor
import VirtualNode.Biz.Probe
import VirtualNode.Controller.Settings
import VirtualNode.Kube.PodStatus

/-!
# What a controller asks of others

The calls of a controller to the message broker and to the cluster, and what can be answered.
The broker itself answers probes, commands and subscriptions within the limit; every other call
is given up when its limit has passed, which is the answer `none`.

At some points nobody is asked, but others may come first all the same.  Where it matters who comes
first, such a point counts as a call too (`Call.isWait`).
-/

set_option autoImplicit false

namespace VirtualNode.Controller

/-- What a command asks of a base. -/
inductive Verb where
  | install
  | uninstall
  deriving DecidableEq, Repr, Inhabited

/-- The word for a command. -/
def Verb.text : Verb → String
  | install => "install"
  | uninstall => "uninstall"

/-- The purpose of the topic on which a command is published. -/
def Verb.purpose : Verb → Topic.Purpose
  | install => .installBiz
  | uninstall => .uninstallBiz

/-- A call to the message broker or to the cluster, or a point at which others may come first. -/
inductive Call where
  /-- A loop that was set off waits for its turn. -/
  | turn
  /-- What was answered waits to be noted in the record of health, which all activities share. -/
  | noting
  /-- Publishes a probe. -/
  | probe (content : Biz.Probe)
  /-- Publishes a command about a module on behalf of a pod. -/
  | command (verb : Verb) (pod : String) (target : Biz.Descriptor)
  | subscribe (purpose : Topic.Purpose)
  | unsubscribe (purpose : Topic.Purpose)
  | disconnect
  /-- Creates or replaces the node. -/
  | register (node : Kube.Node)
  /-- Writes the status of the node. -/
  | reportNode (node : Kube.Node)
  /-- Lists the pods that are bound to the node. -/
  | listPods
  /-- Writes the status of a pod. -/
  | reportPod (spaceName name : String) (status : Kube.PodStatus)
  | deletePod (spaceName name : String)
  | deleteNode
  deriving DecidableEq, Repr

namespace Call

/-- What can be answered to a call. -/
abbrev Answer : Call → Type
  | probe _ | command _ _ _ | subscribe _ => Except DeliveryFault Unit
  | unsubscribe _ => Option (Except DeliveryFault Unit)
  | turn | noting | disconnect => Unit
  | listPods => Option (Except Fault (List Kube.Pod))
  | register _ | reportNode _ | reportPod _ _ _ | deletePod _ _ | deleteNode =>
    Option (Except Fault Unit)

/-- What a call to the cluster is about, as diagnostics name it. -/
def what : Call → String
  | register _ => "register node"
  | reportNode _ => "update node status"
  | listPods => "list pods"
  | reportPod _ _ _ => "update pod status"
  | deletePod _ _ => "delete pod"
  | deleteNode => "delete node"
  | _ => ""

/-- Whether nobody is asked. -/
def isWait : Call → Bool
  | turn | noting => true
  | _ => false

/-- How long a call may take, in milliseconds; disconnecting may take any time, and so may others
who come first. -/
def limit? (settings : Settings) : Call → Option Nat
  | turn | noting | disconnect => none
  | deleteNode => some settings.shutdownTimeout
  | _ => some settings.operationTimeout

end Call

/-- A message that is published. -/
structure Message where
  topic : String
  qos : Mqtt.Qos
  retained : Bool
  payload : String
  deriving DecidableEq, Repr, Inhabited

/-- The message that a call publishes. -/
def Call.message? (settings : Settings) : Call → Option Message
  | .probe content => some ⟨settings.topic .health, .atLeastOnce, false, content.encode⟩
  | .command verb _ target =>
    some ⟨settings.topic verb.purpose, settings.commandQos, false, target.encode⟩
  | _ => none

/-- The outcome of a call that was given up after a limit in milliseconds. -/
def bounded {α : Type} (what : String) (limit : Nat) :
    Option (Except Fault α) → Except Fault α
  | some outcome => outcome
  | none => .error (.clusterAccess
      (what ++ " timed out after " ++ (Time.Span.millis limit).text))

end VirtualNode.Controller
