import VirtualNode.Agent.Environment
import VirtualNode.Agent.Place
import VirtualNode.Json.Value
import VirtualNode.Text.Decimal

/-!
# Tunables

Numbers that shape how the agent works, each with a standard value and a range.  They come from a
JSON document or from the variables whose names begin with `MODULE_CONTROLLER_`.
-/

set_option autoImplicit false

namespace VirtualNode.Agent

open Json (Value Members)

/-- The numbers that can be tuned.  Intervals and limits are in seconds. -/
inductive Tunable where
  /-- The port at which health and metrics are served. -/
  | apiPort
  | reconcileInterval
  | heartbeatInterval
  | operationTimeout
  | baseHeartbeatTimeout
  | maxHeartbeatFailures
  | maxClusterFailures
  /-- The number of the guarantee for the delivery of commands. -/
  | commandQos
  | shutdownTimeout
  deriving DecidableEq, Repr, Inhabited

namespace Tunable

/-- All tunables, in the order in which a list gives them. -/
def all : List Tunable :=
  [apiPort, reconcileInterval, heartbeatInterval, operationTimeout, baseHeartbeatTimeout,
    maxHeartbeatFailures, maxClusterFailures, commandQos, shutdownTimeout]

/-- The name of a tunable. -/
def name : Tunable → String
  | apiPort => "api_port"
  | reconcileInterval => "reconcile_interval_secs"
  | heartbeatInterval => "heartbeat_interval_secs"
  | operationTimeout => "operation_timeout_secs"
  | baseHeartbeatTimeout => "base_heartbeat_timeout_secs"
  | maxHeartbeatFailures => "max_heartbeat_failures"
  | maxClusterFailures => "max_cluster_failures"
  | commandQos => "command_qos"
  | shutdownTimeout => "shutdown_timeout_secs"

/-- The first number that is too large. -/
def bound : Tunable → Nat
  | apiPort => Nat.pow 2 16
  | maxHeartbeatFailures | maxClusterFailures => Nat.pow 2 32
  | commandQos => Nat.pow 2 8
  | _ => Nat.pow 2 64

/-- The value of a tunable that is not given. -/
def standard : Tunable → Nat
  | apiPort => 8080
  | reconcileInterval => 5
  | heartbeatInterval => 10
  | operationTimeout => 3
  | baseHeartbeatTimeout => 30
  | maxHeartbeatFailures => 3
  | maxClusterFailures => 5
  | commandQos => 1
  | shutdownTimeout => 5

/-- A number that is in range. -/
def fit? (t : Tunable) (n : Nat) : Option Nat :=
  if n < t.bound then some n else none

/-- The value that a document gives. -/
def ofJson? (t : Tunable) : Value → Option Nat
  | .number (.whole n) => if n < 0 then none else t.fit? n.toNat
  | _ => none

/-- The value that a variable gives: a number, or a word for one or for zero. -/
def ofText? (t : Tunable) (text : String) : Option Nat :=
  match text.toLower with
  | "true" | "on" | "yes" => t.fit? 1
  | "false" | "off" | "no" => t.fit? 0
  | _ => (Text.Decimal.natural? text).bind t.fit?

end Tunable

/-- A value for every tunable. -/
structure Tunables where
  value : Tunable → Nat

namespace Tunables

/-- The standard values. -/
def standard : Tunables := ⟨Tunable.standard⟩

instance : Inhabited Tunables := ⟨standard⟩

/-- Sets one value. -/
def set (ts : Tunables) (t : Tunable) (n : Nat) : Tunables :=
  ⟨fun u => if u = t then n else ts.value u⟩

/-- Sets values one after another, if all of them can be read. -/
def enter : List (Tunable × Option Nat) → Tunables → Option Tunables
  | [], ts => some ts
  | (t, value?) :: rest, ts => value?.bind fun n => enter rest (ts.set t n)

/-- The tunables that a document gives: an object with some of them, or a list of the first
ones. -/
def ofJson? : Value → Option Tunables
  | .object ms =>
    let given := Tunable.all.filterMap fun t =>
      (Members.get? ms t.name).map fun v => (t, t.ofJson? v)
    enter given standard
  | .list vs =>
    if vs.length ≤ Tunable.all.length then
      enter ((Tunable.all.zip vs).map fun (t, v) => (t, t.ofJson? v)) standard
    else none
  | _ => none

/-- How the names of the variables begin, in any case. -/
def namePrefix : String := "module_controller_"

/-- The place in the settings that a variable addresses; none if the variable is no setting. -/
def place? (name : String) : Option Place :=
  let name := name.toLower
  if name.startsWith namePrefix then some (.ofName (name.drop namePrefix.length).toString)
  else none

/-- The tunable that a variable addresses, and whether it addresses a part of it. -/
def ofVariable? (name : String) : Option (Tunable × Bool) := do
  let place ← place? name
  let tunable ← Tunable.all.find? fun t => t.name = place.root
  return (tunable, place.isPart)

/-- The value that variables give to a tunable, if they give one: a variable that is set again
counts with its last value only, and no tunable has parts. -/
def given? (env : Environment) (t : Tunable) : Option (Option Nat) :=
  let part? := env.find? fun e => ofVariable? e.1 = some (t, true)
  let whole? := env.reverse.find? fun e => ofVariable? e.1 = some (t, false)
  if part?.isSome then some none else whole?.map fun e => t.ofText? e.2

/-- The tunables that variables give. -/
def ofEnvironment? (env : Environment) : Option Tunables :=
  enter (Tunable.all.filterMap fun t => (given? env t).map fun n => (t, n)) standard

/-- The document of all tunables. -/
def toJson (ts : Tunables) : Value :=
  .object (Tunable.all.map fun t => (t.name, .ofInt (ts.value t)))

end Tunables

end VirtualNode.Agent
