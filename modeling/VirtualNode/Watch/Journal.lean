import VirtualNode.Json.Value
import VirtualNode.Text.Quoted

/-!
# The journal

The events in the life of a controller that are worth telling.  Every event has a stable name, a
level, a message and fields of its own.
-/

set_option autoImplicit false

namespace VirtualNode.Watch

/-- How serious an event is. -/
inductive Level where
  | info
  | warn
  deriving DecidableEq, Repr, Inhabited

/-- The word for a level. -/
def Level.text : Level → String
  | info => "INFO"
  | warn => "WARN"

/-- An event in the life of a controller. -/
inductive Event where
  | started (version broker : String)
  | stopped (reason : String)
  | nodeRegistered (nodeIp : String)
  | nodeRemoved (success : Bool)
  | readinessChanged (ready : Bool) (reason : String)
  | commandPublished (command pod biz : String)
  | stateChanged (biz : String) (previous : Option String) (state : String)
  | messageDropped (topic reason : String)
  deriving DecidableEq, Repr, Inhabited

namespace Event

/-- The stable name of an event. -/
def name : Event → String
  | started _ _ => "controller_started"
  | stopped _ => "controller_shutdown"
  | nodeRegistered _ => "node_registered"
  | nodeRemoved _ => "node_deregistered"
  | readinessChanged _ _ => "node_readiness_changed"
  | commandPublished _ _ _ => "biz_command_published"
  | stateChanged _ _ _ => "biz_state_changed"
  | messageDropped _ _ => "malformed_message_dropped"

/-- How serious an event is. -/
def level : Event → Level
  | nodeRemoved false | readinessChanged false _ | messageDropped _ _ => .warn
  | _ => .info

/-- What an event tells. -/
def message : Event → String
  | started _ _ => "Module controller started"
  | stopped _ => "Module controller shutting down"
  | nodeRegistered _ => "Virtual node registered"
  | nodeRemoved true => "Virtual node removed from the cluster"
  | nodeRemoved false => "Failed to remove virtual node from the cluster"
  | readinessChanged true _ => "Virtual node is ready"
  | readinessChanged false _ => "Virtual node is not ready"
  | commandPublished _ _ _ => "Published biz command"
  | stateChanged _ _ _ => "Biz state changed"
  | messageDropped _ _ => "Dropped malformed message"

/-- The fields of an event. -/
def fields : Event → Json.Members
  | started version broker => [("controller_version", .text version), ("broker", .text broker)]
  | stopped reason => [("reason", .text reason)]
  | nodeRegistered nodeIp => [("node_ip", .text nodeIp)]
  | nodeRemoved _ => []
  | readinessChanged ready reason => [("ready", .bool ready), ("reason", .text reason)]
  | commandPublished command pod biz =>
    [("command", .text command), ("pod", .text pod), ("biz", .text biz)]
  | stateChanged biz previous state =>
    [("biz", .text biz), ("previous", .text (Text.Quoted.encodeOption previous)),
      ("state", .text state)]
  | messageDropped topic reason => [("topic", .text topic), ("reason", .text reason)]

end Event

/-- An event and the time at which it happened, in milliseconds since the start of the clock. -/
structure Entry where
  time : Nat
  event : Event
  deriving DecidableEq, Repr, Inhabited

/-- The document of an entry in the journal of a node. -/
def Entry.toJson (node : String) (e : Entry) : Json.Value :=
  .object ([("event", .text e.event.name), ("level", .text e.event.level.text),
    ("message", .text e.event.message), ("node", .text node), ("t", .ofInt e.time)]
    ++ e.event.fields)

end VirtualNode.Watch
