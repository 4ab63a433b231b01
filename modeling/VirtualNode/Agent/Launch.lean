import VirtualNode.Agent.CommandLine
import VirtualNode.Agent.Tunables
import VirtualNode.Controller.Settings
import VirtualNode.Mqtt.Connection

/-!
# Launching

How the tunables, the flags and the variables make the settings of a controller.  A flag wins over
a variable, and either wins over a tunable.
-/

set_option autoImplicit false

namespace VirtualNode.Agent

/-- Why a controller cannot be launched. -/
inductive LaunchError where
  /-- A variable with a tunable that cannot be read. -/
  | tunables
  /-- A command line that is refused. -/
  | commandLine (refusal : Refusal)
  /-- There is no guarantee of that number. -/
  | commandQos (level : Nat)
  deriving DecidableEq, Repr, Inhabited

/-- The wording of an error; that of a refused command line is left to the front end. -/
def LaunchError.message : LaunchError → String
  | tunables => "Invalid MODULE_CONTROLLER_* configuration"
  | commandLine _ => "refused command line"
  | commandQos level => "Invalid command QoS " ++ toString level

/-- Everything that a launched controller works with. -/
structure Launch where
  connection : Mqtt.Connection
  /-- The file that says how to reach the cluster, if there is one. -/
  kubeconfig : Option String
  settings : Controller.Settings
  apiPort : Nat

namespace Launch

/-- The file that says how to reach the cluster: the one of the flag, else that of the variable,
else the one in the home directory if it exists.  An empty name is none. -/
def kubeconfigPath (flag : Option String) (env : Environment) (homeFile : Option String) :
    Option String :=
  let named (path? : Option String) := path?.filter fun path => !path.isEmpty
  (named flag).or ((named (env.value? "KUBECONFIG")).or homeFile)

/-- The connection that flags describe. -/
def connectionOf (values : FlagValues) (instanceId : String) : Mqtt.Connection :=
  let standard : Mqtt.Connection := {}
  { standard with
    broker := (CommandLine.text? values .broker).getD standard.broker
    port := (CommandLine.number? values .port).getD standard.port
    clientId := (CommandLine.text? values .clientId).getD
      (standard.clientId ++ "@@@" ++ instanceId)
    username := (CommandLine.text? values .username).getD ""
    password := (CommandLine.text? values .password).getD ""
    authoritiesPath := CommandLine.text? values .authoritiesPath
    certificatePath := CommandLine.text? values .certificatePath
    keyPath := CommandLine.text? values .keyPath
    cleanSession := (CommandLine.truth? values .cleanSession).getD true
    keepAlive := (CommandLine.number? values .keepAlive).getD 60 * 1000 }

/-- The base that flags describe. -/
def baseOf (values : FlagValues) (instanceId : String) : Kube.BaseInfo where
  nodeId := (CommandLine.text? values .nodeId).getD instanceId
  nodeIp := (CommandLine.text? values .nodeIp).getD ""
  bizName := (CommandLine.text? values .bizName).getD "base"
  techStack := (CommandLine.text? values .techStack).getD "java"
  version := (CommandLine.text? values .version).getD "1.0.0"

/-- The launch of an instance whose tunables and flags have been read. -/
def ofValues (tunables : Tunables) (values : FlagValues) (instanceId : String)
    (env : Environment) (homeFile : Option String) : Except LaunchError Launch :=
  let level := tunables.value .commandQos
  match Mqtt.Qos.ofLevel? level with
  | none => .error (.commandQos level)
  | some qos =>
    let connection := connectionOf values instanceId
    let millis (t : Tunable) := tunables.value t * 1000
    let millisOr (f : Flag) (t : Tunable) :=
      (CommandLine.number? values f).getD (tunables.value t) * 1000
    .ok {
      connection := connection
      kubeconfig := kubeconfigPath (CommandLine.text? values .kubeconfig) env homeFile
      apiPort := (CommandLine.number? values .apiPort).getD (tunables.value .apiPort)
      settings := {
        base := baseOf values instanceId
        broker := connection.broker
        reconcileInterval := millisOr .reconcileInterval .reconcileInterval
        heartbeatInterval := millisOr .heartbeatInterval .heartbeatInterval
        operationTimeout := millis .operationTimeout
        baseHeartbeatTimeout := millis .baseHeartbeatTimeout
        shutdownTimeout := millis .shutdownTimeout
        maxHeartbeatFailures := tunables.value .maxHeartbeatFailures
        maxClusterFailures := tunables.value .maxClusterFailures
        commandQos := qos } }

/-- The launch of an instance whose tunables are given.  `homeFile` is the file in the home
directory that says how to reach the cluster, if it exists. -/
def ofTunables (tunables : Tunables) (args : List String) (instanceId : String)
    (env : Environment) (homeFile : Option String) : Except LaunchError Launch :=
  match CommandLine.read args env with
  | .error refusal => .error (.commandLine refusal)
  | .ok values => ofValues tunables values instanceId env homeFile

/-- The tunables that the variables give. -/
def tunables (env : Environment) : Except LaunchError Tunables :=
  match Tunables.ofEnvironment? env with
  | none => .error .tunables
  | some ts => .ok ts

/-- The launch of an instance whose tunables are given by variables. -/
def ofEnvironment (args : List String) (instanceId : String) (env : Environment)
    (homeFile : Option String) : Except LaunchError Launch := do
  ofTunables (← tunables env) args instanceId env homeFile

/-! ## The document of a launch -/

open Json (Value Members)

/-- A time in milliseconds, shown in whole seconds. -/
def seconds (millis : Nat) : Value := .ofInt ((millis / 1000 : Nat) : Int)

/-- A text that may be absent. -/
def orNull : Option String → Value
  | some s => .text s
  | none => .null

/-- The document of a connection. -/
def connectionToJson (c : Mqtt.Connection) : Value :=
  .object [("broker", .text c.broker), ("ca_path", orNull c.authoritiesPath),
    ("clean_session", .bool c.cleanSession), ("client_crt_path", orNull c.certificatePath),
    ("client_id", .text c.clientId), ("client_key_path", orNull c.keyPath),
    ("connect_timeout_secs", seconds c.connectTimeout), ("keep_alive_secs", seconds c.keepAlive),
    ("password", .text c.password), ("port", .ofInt c.port),
    ("reconnect_delay_ms", .ofInt c.reconnectDelay), ("username", .text c.username)]

/-- The document of a base. -/
def baseToJson (b : Kube.BaseInfo) : Value :=
  .object [("biz_name", .text b.bizName), ("node_id", .text b.nodeId), ("node_ip", .text b.nodeIp),
    ("tech_stack", .text b.techStack), ("version", .text b.version)]

/-- The members of the document of a launch. -/
def members (l : Launch) : Members :=
  let s := l.settings
  [("api_port", .ofInt l.apiPort),
    ("base_heartbeat_timeout_secs", seconds s.baseHeartbeatTimeout),
    ("command_qos", .ofInt s.commandQos.level), ("heartbeat_secs", seconds s.heartbeatInterval),
    ("kube_config_path", orNull l.kubeconfig),
    ("max_cluster_failures", .ofInt s.maxClusterFailures),
    ("max_heartbeat_failures", .ofInt s.maxHeartbeatFailures),
    ("mqtt", connectionToJson l.connection), ("node", baseToJson s.base),
    ("node_name", .text s.nodeName), ("operation_timeout_secs", seconds s.operationTimeout),
    ("reconcile_secs", seconds s.reconcileInterval),
    ("shutdown_timeout_secs", seconds s.shutdownTimeout)]

end Launch

end VirtualNode.Agent
