import VirtualNode.Time.Span

/-!
# What can go wrong

Delivery faults are the ways in which a single exchange with the message broker fails.  Faults
are the ways in which the controller as a whole can fail; a delivery fault is one of them.  Every
cause has one wording, given by `message`, and `isFatal` says which causes end a run.
-/

set_option autoImplicit false

namespace VirtualNode

/-- Why an exchange with the message broker failed. -/
inductive DeliveryFault where
  /-- No acknowledgement came within the limit. -/
  | timedOut (limit : Time.Span)
  /-- The broker refused the request. -/
  | rejected (reason : String)
  /-- The connection was lost before the acknowledgement came. -/
  | disconnected
  /-- The request could not be sent. -/
  | client (reason : String)
  deriving DecidableEq, Repr, Inhabited

/-- The wording of a delivery fault. -/
def DeliveryFault.message : DeliveryFault → String
  | timedOut limit => "operation timed out after " ++ limit.text
  | rejected reason => "broker rejected request: " ++ reason
  | disconnected => "connection lost before acknowledgement"
  | client reason => "client error: " ++ reason

/-- Why the controller failed, or why it refused to do something. -/
inductive Fault where
  /-- The message broker could not be reached. -/
  | connection (reason : String)
  /-- The cluster could not be reached or refused a request. -/
  | clusterAccess (reason : String)
  /-- An exchange with the message broker failed. -/
  | delivery (fault : DeliveryFault)
  /-- A message could not be understood. -/
  | malformedMessage (topic reason : String)
  /-- The base did not answer that many probes in a row. -/
  | heartbeatLost (failures : Nat)
  /-- A controller runs at most once. -/
  | alreadyStarted
  /-- The settings are not usable. -/
  | config (reason : String)
  deriving DecidableEq, Repr, Inhabited

namespace Fault

/-- The wording of a fault. -/
def message : Fault → String
  | connection reason => "connection error: " ++ reason
  | clusterAccess reason => "cluster access error: " ++ reason
  | delivery fault => "transport operation failed: " ++ fault.message
  | malformedMessage topic reason => "malformed message on " ++ topic ++ ": " ++ reason
  | heartbeatLost failures =>
    "heartbeat lost after " ++ toString failures ++ " consecutive failures"
  | alreadyStarted => "controller already started"
  | config reason => "configuration error: " ++ reason

/-- Whether a fault ends the run: all do but failed exchanges and malformed messages, which are
retried or dropped. -/
def isFatal : Fault → Bool
  | delivery _ | malformedMessage _ _ => false
  | _ => true

end Fault

end VirtualNode
