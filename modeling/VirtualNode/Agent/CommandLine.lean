import VirtualNode.Agent.Environment
import VirtualNode.Text.Decimal

/-!
# The command line

The flags of the agent.  A flag is written `--name value` or `--name=value`; most of them can also
be given by a variable, which counts if the flag is not on the command line.  `CommandLine.read`
gives the values of all flags, or the first thing that is wrong with them.

A word that begins with a dash is never taken as the value of the flag before it, unless it is a
dash alone.
-/

set_option autoImplicit false

namespace VirtualNode.Agent

/-- The flags. -/
inductive Flag where
  | broker
  | port
  | clientId
  | username
  | password
  | authoritiesPath
  | certificatePath
  | keyPath
  | cleanSession
  | keepAlive
  | kubeconfig
  | nodeId
  | nodeIp
  | bizName
  | techStack
  | version
  | apiPort
  | reconcileInterval
  | heartbeatInterval
  deriving DecidableEq, Repr, Inhabited

/-- What the value of a flag may be. -/
inductive Form where
  | text
  /-- The name of a file, which is not empty. -/
  | path
  /-- One of the words `true` and `false`. -/
  | truth
  /-- A number below 65536; a minus sign before zero does not harm. -/
  | port
  /-- A number of seconds that fits a 64-bit word. -/
  | seconds
  deriving DecidableEq, Repr, Inhabited

/-- Why a command line is refused. -/
inductive Refusal where
  /-- There is no such flag, or a word stands where none is expected. -/
  | unknown
  /-- A flag without a value. -/
  | valueMissing
  /-- A value that is none of the words, or no name of a file. -/
  | valueNotAllowed
  /-- A value that is no number in range. -/
  | notANumber
  /-- A flag that is given twice. -/
  | repeated
  /-- A flag that makes sense only together with another one. -/
  | companionMissing
  /-- A value for a flag that takes none. -/
  | valueUnneeded
  /-- Not a mistake: the explanation of the flags is asked for. -/
  | helpAsked
  deriving DecidableEq, Repr, Inhabited

namespace Flag

/-- All flags, in the order in which their variables are looked at. -/
def all : List Flag :=
  [broker, port, clientId, username, password, authoritiesPath, certificatePath, keyPath,
    cleanSession, keepAlive, kubeconfig, nodeId, nodeIp, bizName, techStack, version, apiPort,
    reconcileInterval, heartbeatInterval]

/-- The name of a flag. -/
def name : Flag → String
  | broker => "mqtt-broker"
  | port => "mqtt-port"
  | clientId => "mqtt-client-id"
  | username => "mqtt-username"
  | password => "mqtt-password"
  | authoritiesPath => "mqtt-ca-path"
  | certificatePath => "mqtt-client-crt-path"
  | keyPath => "mqtt-client-key-path"
  | cleanSession => "clean-session"
  | keepAlive => "keep-alive-secs"
  | kubeconfig => "kubeconfig"
  | nodeId => "node-id"
  | nodeIp => "node-ip"
  | bizName => "biz-name"
  | techStack => "tech-stack"
  | version => "version"
  | apiPort => "api-port"
  | reconcileInterval => "reconcile-interval-secs"
  | heartbeatInterval => "heartbeat-interval-secs"

/-- The variable that gives a flag, if there is one. -/
def setBy? : Flag → Option String
  | broker => some "MQTT_BROKER"
  | port => some "MQTT_PORT"
  | clientId => some "MQTT_CLIENT_ID"
  | username => some "MQTT_USERNAME"
  | password => some "MQTT_PASSWORD"
  | authoritiesPath => some "MQTT_CA_PATH"
  | certificatePath => some "MQTT_CLIENT_CRT_PATH"
  | keyPath => some "MQTT_CLIENT_KEY_PATH"
  | cleanSession => some "MQTT_CLEAN_SESSION"
  | keepAlive => some "MQTT_KEEP_ALIVE_SECS"
  | kubeconfig => some "KUBE_CONFIG_PATH"
  | nodeId => some "NODE_ID"
  | nodeIp => some "NODE_IP"
  | bizName => some "BIZ_NAME"
  | techStack => some "TECH_STACK"
  | version => some "BASE_VERSION"
  | apiPort | reconcileInterval | heartbeatInterval => none

/-- What the value of a flag may be. -/
def form : Flag → Form
  | port | apiPort => .port
  | authoritiesPath | certificatePath | keyPath => .path
  | cleanSession => .truth
  | keepAlive | reconcileInterval | heartbeatInterval => .seconds
  | _ => .text

/-- The flag of a name. -/
def ofName? (name : String) : Option Flag :=
  all.find? fun f => f.name = name

end Flag

/-- The value of a flag. -/
inductive FlagValue where
  | text (s : String)
  | truth (b : Bool)
  | number (n : Nat)
  deriving DecidableEq, Repr, Inhabited

/-- Reads the value of a flag. -/
def Form.read (form : Form) (word : String) : Except Refusal FlagValue :=
  match form with
  | .text => .ok (.text word)
  | .path => if word.isEmpty then .error .valueMissing else .ok (.text word)
  | .truth =>
    if word = "true" then .ok (.truth true)
    else if word = "false" then .ok (.truth false)
    else .error .valueNotAllowed
  | .port =>
    match Text.Decimal.integer? word with
    | some n => if 0 ≤ n && n < 65536 then .ok (.number n.toNat) else .error .notANumber
    | none => .error .notANumber
  | .seconds =>
    match Text.Decimal.natural? word with
    | some n => if n < Nat.pow 2 64 then .ok (.number n) else .error .notANumber
    | none => .error .notANumber

/-- A word of a command line. -/
inductive Word where
  /-- Two dashes alone: no flag follows. -/
  | endOfFlags
  /-- A flag, by its name, and the value that is attached to it. -/
  | flag (name : String) (value : Option String)
  /-- A flag by its initial letter. -/
  | initial (letter : Char)
  /-- Anything else. -/
  | plain (text : String)
  deriving DecidableEq, Repr, Inhabited

/-- Tells what a word is. -/
def Word.ofString (s : String) : Word :=
  match s.toList with
  | ['-', '-'] => .endOfFlags
  | '-' :: '-' :: cs =>
    let value := match cs.dropWhile (· ≠ '=') with
      | [] => none
      | _ :: value => some (String.ofList value)
    .flag (String.ofList (cs.takeWhile (· ≠ '='))) value
  | '-' :: c :: _ => .initial c
  | _ => .plain s

/-- The values of flags. -/
abbrev FlagValues := List (Flag × FlagValue)

namespace CommandLine

/-- The value of a flag that has been given. -/
def given? (values : FlagValues) (f : Flag) : Option FlagValue :=
  (values.find? fun e => e.1 = f).map Prod.snd

/-- Enters the value of a flag that is on the command line. -/
def enter (values : FlagValues) (f : Flag) (word : String) : Except Refusal FlagValues :=
  if (given? values f).isSome then .error .repeated
  else (f.form.read word).map fun v => values ++ [(f, v)]

/-- A flag that has been named and is not entered yet, with its value once it has come. -/
abbrev Pending := Option (Flag × Option String)

/-- Enters the flag that has been named last. -/
def settle (values : FlagValues) : Pending → Except Refusal FlagValues
  | none => .ok values
  | some (_, none) => .error .valueMissing
  | some (f, some word) => enter values f word

/-- Goes through the words of a command line.  A word that is out of place is told before anything
that is wrong with the flag before it. -/
def scan (values : FlagValues) (pending : Pending) : List Word → Except Refusal FlagValues
  | [] => settle values pending
  | .endOfFlags :: rest => if rest.isEmpty then settle values pending else .error .unknown
  | .initial c :: _ => do
    if c = 'h' then
      let _ ← settle values pending
      .error .helpAsked
    else .error .unknown
  | .plain text :: rest =>
    match pending with
    | some (f, none) => scan values (some (f, some text)) rest
    | _ => .error .unknown
  | .flag name value :: rest =>
    match Flag.ofName? name with
    | some f => do
      let values ← settle values pending
      match value with
      | none => scan values (some (f, none)) rest
      | some word => do
        let values ← enter values f word
        scan values none rest
    | none =>
      if name = "help" then
        if value.isSome then .error .valueUnneeded
        else do
          let _ ← settle values pending
          .error .helpAsked
      else .error .unknown

/-- Enters the variables of the flags that are not on the command line. -/
def addVariables (env : Environment) : List Flag → FlagValues → Except Refusal FlagValues
  | [], values => .ok values
  | f :: rest, values =>
    match given? values f, f.setBy?.bind env.value? with
    | none, some word => do
      let v ← f.form.read word
      addVariables env rest (values ++ [(f, v)])
    | _, _ => addVariables env rest values

/-- Whether a certificate comes with its key, and a key with its certificate. -/
def paired (values : FlagValues) : Bool :=
  (given? values .certificatePath).isSome == (given? values .keyPath).isSome

/-- The values of the flags of a command line and of the variables. -/
def read (args : List String) (env : Environment) : Except Refusal FlagValues := do
  let values ← scan [] none (args.map Word.ofString)
  let values ← addVariables env Flag.all values
  if paired values then .ok values else .error .companionMissing

/-- The text of a flag. -/
def text? (values : FlagValues) (f : Flag) : Option String :=
  match given? values f with
  | some (.text s) => some s
  | _ => none

/-- The number of a flag. -/
def number? (values : FlagValues) (f : Flag) : Option Nat :=
  match given? values f with
  | some (.number n) => some n
  | _ => none

/-- The truth value of a flag. -/
def truth? (values : FlagValues) (f : Flag) : Option Bool :=
  match given? values f with
  | some (.truth b) => some b
  | _ => none

end CommandLine

end VirtualNode.Agent
