import VirtualNode.Mqtt.Tls

/-!
# Connections to a broker

What is needed to connect to a broker, and what follows from it: the address that is dialled and the
material for TLS.  A connection uses TLS if it is told against which certificates the broker is
verified.
-/

set_option autoImplicit false

namespace VirtualNode.Mqtt

/-- How to connect to a broker.  All times are in milliseconds. -/
structure Connection where
  /-- The host of the broker, optionally after a scheme. -/
  broker : String := "localhost"
  port : Nat := 1883
  clientId : String := "module-controller"
  username : String := ""
  password : String := ""
  /-- The file of the certificates against which the broker is verified. -/
  authoritiesPath : Option String := none
  /-- The file of the certificate with which the client identifies itself. -/
  certificatePath : Option String := none
  /-- The file of the key that belongs to the certificate. -/
  keyPath : Option String := none
  /-- Whether the broker forgets the client when the connection ends. -/
  cleanSession : Bool := true
  /-- The longest silence. -/
  keepAlive : Nat := 60000
  /-- How long the first connection may take. -/
  connectTimeout : Nat := 10000
  /-- The pause before a lost connection is made anew. -/
  reconnectDelay : Nat := 1000
  deriving DecidableEq, Repr, Inhabited

namespace Connection

/-- What follows the first `://` of a text. -/
def afterScheme? : List Char → Option (List Char)
  | ':' :: '/' :: '/' :: rest => some rest
  | _ :: cs => afterScheme? cs
  | [] => none

/-- The host that is dialled: the broker without its scheme. -/
def host (c : Connection) : String :=
  match afterScheme? c.broker.toList with
  | some rest => String.ofList rest
  | none => c.broker

/-- Whether the connection uses TLS. -/
def usesTls (c : Connection) : Bool := c.authoritiesPath.isSome

/-- The address that is dialled. -/
def url (c : Connection) : String :=
  (if c.usesTls then "ssl" else "tcp") ++ "://" ++ c.host ++ ":" ++ toString c.port

/-- The fault of a certificate without a key, or a key without a certificate. -/
def unpaired : Fault := .connection "client certificate and key must be supplied together"

/-- The material for TLS, if the connection uses it.  `read` finds the content of a file. -/
def material (c : Connection) (read : String → Tls.File) : Except Fault (Option Tls.Material) :=
  match c.authoritiesPath with
  | none => .ok none
  | some authorities =>
    match c.certificatePath, c.keyPath with
    | some certificate, some key =>
      (Tls.load (read authorities) (some (read certificate, read key))).map some
    | none, none => (Tls.load (read authorities) none).map some
    | _, _ => .error unpaired

/-- The fault of a broker that cannot be reached, or that refuses the connection. -/
def failure (c : Connection) (reason : String) : Fault :=
  .connection (c.url ++ ": " ++ reason)

end Connection

end VirtualNode.Mqtt
