import VirtualNode.Fault
import VirtualNode.Json.Value
import VirtualNode.Table
import VirtualNode.Time.Stamp

/-!
# Health

What is known about the health of the parts of the controller.  A part is healthy, degraded while
its failures are retried, or unhealthy once it has given up; the whole is as bad as its worst
part.  The controller is ready while its node is registered and no part is unhealthy.
-/

set_option autoImplicit false

namespace VirtualNode.Watch

/-- How a part of the controller is doing. -/
inductive Condition where
  | healthy
  /-- Failing, but the controller still makes progress. -/
  | degraded
  /-- Given up. -/
  | unhealthy
  deriving DecidableEq, Repr, Inhabited

namespace Condition

/-- How bad a condition is. -/
def rank : Condition → Nat
  | healthy => 0
  | degraded => 1
  | unhealthy => 2

/-- The word for a condition. -/
def text : Condition → String
  | healthy => "healthy"
  | degraded => "degraded"
  | unhealthy => "unhealthy"

/-- The worse one of two conditions. -/
def worse (a b : Condition) : Condition :=
  if a.rank ≤ b.rank then b else a

end Condition

/-- What is known about one part. -/
structure Checkup where
  condition : Condition
  message : Option String
  /-- When the part was last heard of, in seconds since the beginning of 1970. -/
  checkedAt : Int
  deriving DecidableEq, Repr, Inhabited

/-- What is known about all parts. -/
structure Health where
  parts : Table String Checkup
  /-- Whether the node is registered and served. -/
  registered : Bool

namespace Health

/-- The part that talks to the message broker. -/
def transport : String := "transport"

/-- The part that talks to the cluster. -/
def cluster : String := "cluster"

/-- The part that probes the base. -/
def heartbeat : String := "heartbeat"

/-- Nothing is known. -/
def empty : Health := ⟨Table.empty, false⟩

instance : Inhabited Health := ⟨empty⟩

/-- Notes the condition of a part. -/
def note (h : Health) (part : String) (condition : Condition) (message : Option String)
    (now : Time.Stamp) : Health :=
  { h with parts := h.parts.insert part ⟨condition, message, now.seconds⟩ }

/-- Notes that a part is healthy. -/
def healthy (h : Health) (part : String) (now : Time.Stamp) : Health :=
  h.note part .healthy none now

/-- Notes that a part is failing. -/
def degraded (h : Health) (part message : String) (now : Time.Stamp) : Health :=
  h.note part .degraded (some message) now

/-- Notes that a part has given up. -/
def unhealthy (h : Health) (part message : String) (now : Time.Stamp) : Health :=
  h.note part .unhealthy (some message) now

/-- Notes the outcome of an exchange: healthy if it worked, degraded if it failed. -/
def record (h : Health) (part : String) (outcome : Except DeliveryFault Unit)
    (now : Time.Stamp) : Health :=
  match outcome with
  | .ok () => h.healthy part now
  | .error e => h.degraded part e.message now

/-- Notes whether the node is registered. -/
def setRegistered (h : Health) (registered : Bool) : Health :=
  { h with registered := registered }

/-- The health of a controller that has not done anything yet. -/
def forController (now : Time.Stamp) : Health :=
  ((empty.healthy transport now).healthy cluster now).healthy heartbeat now

/-- The condition of the whole: that of its worst part. -/
def overall (h : Health) : Condition :=
  (h.parts.entries.map fun e => e.2.condition).foldl Condition.worse .healthy

/-- Why the controller is not ready, if it is not. -/
def unreadyReason? (h : Health) : Option String :=
  if !h.registered then some "virtual node not registered"
  else if h.overall = .unhealthy then some "controller component unhealthy"
  else none

/-- Whether the controller is ready. -/
def isReady (h : Health) : Bool := h.unreadyReason?.isNone

end Health

open Json (Value)

/-- The document of what is known about one part. -/
def Checkup.toJson (c : Checkup) : Value :=
  .object ([("status", .text c.condition.text)] ++ Json.optional "message" .text c.message
    ++ [("last_check_timestamp", .ofInt c.checkedAt)])

/-- The document of the health of the controller. -/
def Health.toJson (h : Health) : Value :=
  .object [("status", .text h.overall.text),
    ("components", .object (h.parts.entries.map fun e => (e.1, e.2.toJson)))]

/-- The document of the readiness of the controller. -/
def Health.readinessToJson (h : Health) : Value :=
  .object ([("ready", .bool h.isReady)] ++ Json.optional "reason" .text h.unreadyReason?)

end VirtualNode.Watch
