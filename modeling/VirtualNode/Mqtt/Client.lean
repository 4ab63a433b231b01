import VirtualNode.Mqtt.Acks
import VirtualNode.Mqtt.Connection
import VirtualNode.Mqtt.Routes

/-!
# Clients of a broker

A client is made by connecting.  It keeps those who wait for acknowledgements and the handlers of
its subscriptions.  When the connection is lost all who wait are told so, and nothing is repeated;
the client connects anew and counts the sessions.  `Client.meet` says what a client does when
something happens, and who is told what.
-/

set_option autoImplicit false

namespace VirtualNode.Mqtt

/-- Why a broker refuses a connection. -/
inductive Denial where
  | badCredentials
  | notAuthorized
  | badClientId
  | unavailable
  deriving DecidableEq, Repr, Inhabited

/-- The word for a denial. -/
def Denial.text : Denial → String
  | badCredentials => "BadUserNamePassword"
  | notAuthorized => "NotAuthorized"
  | badClientId => "BadClientId"
  | unavailable => "ServiceUnavailable"

/-- What comes of dialling a broker. -/
inductive Reception where
  | accepted
  | denied (why : Denial)
  /-- Nothing comes within the limit. -/
  | silent
  /-- There is no way to the broker. -/
  | unreachable (reason : String)
  deriving DecidableEq, Repr, Inhabited

/-- The reason that a machine without a network gives. -/
def noNetwork : Reception := .unreachable "Network is unreachable (os error 101)"

/-- A request that waits for an acknowledgement. -/
inductive Request (η : Type) where
  | publish (topic : String) (qos : Qos) (retained : Bool) (payload : ByteArray)
  /-- Messages that match the filter go to the handler. -/
  | subscribe (filter : String) (qos : Qos) (handler : η)
  | unsubscribe (filter : String)

namespace Request

variable {η : Type}

/-- The kind of acknowledgement for which a request waits. -/
def kind : Request η → AckKind
  | publish _ _ _ _ => .publish
  | subscribe _ _ _ => .subscribe
  | unsubscribe _ => .unsubscribe

/-- A level of a filter that is well formed: a wildcard fills its level. -/
def isLevel (level : List Char) : Bool :=
  level.length ≤ 1 || !(level.contains '+' || level.contains '#')

/-- A filter that is well formed: not empty, and the wildcard for the rest only at its end. -/
def isFilter (filter : String) : Bool :=
  let levels := Topic.levels filter
  !filter.isEmpty && levels.all isLevel && levels.dropLast.all fun l => !l.contains '#'

/-- Whether a request can be sent at all. -/
def isSendable : Request η → Bool
  | publish topic _ _ _ => !topic.toList.any fun c => c = '+' || c = '#'
  | subscribe filter _ _ => isFilter filter
  | unsubscribe _ => true

end Request

/-- A client whose handlers are of type `η` and for whose requests someone of type `α` waits. -/
structure Client (α η : Type) where
  connection : Connection
  tracker : Tracker α
  routes : Routes η
  /-- How often the client has connected. -/
  sessions : Nat
  /-- Whether the client still takes requests. -/
  isOpen : Bool

/-- What can happen to a client. -/
inductive Incident (α η : Type) where
  /-- Someone makes a request. -/
  | request (who : α) (r : Request η)
  /-- A packet is written out. -/
  | sent (packet : Outgoing)
  /-- A packet arrives. -/
  | received (packet : Incoming)
  /-- Whoever has subscribed gets to know what came of it. -/
  | concluded (filter : String) (outcome : Except DeliveryFault Unit)
  /-- The connection is lost. -/
  | lost
  /-- The client has connected anew. -/
  | reconnected
  /-- The client is closed. -/
  | closed

namespace Client

variable {α η : Type}

/-- A client that has just connected. -/
def opened (c : Connection) : Client α η := ⟨c, .empty, .empty, 1, true⟩

/-- The fault of a request that cannot be sent. -/
def unsendable : DeliveryFault := .client "Failed to send mqtt requests to eventloop"

/-- Connects to a broker.  The material for TLS is checked before the broker is dialled. -/
def connect (c : Connection) (read : String → Tls.File) (reception : Reception) :
    Except Fault (Client α η) :=
  match c.material read with
  | .error e => .error e
  | .ok _ =>
    match reception with
    | .accepted => .ok (opened c)
    | .denied why =>
      .error (c.failure ("Connection refused, return code: \x60" ++ why.text ++ "\x60"))
    | .silent =>
      .error (c.failure ("no CONNACK within " ++ (Time.Span.millis c.connectTimeout).text))
    | .unreachable reason => .error (c.failure ("I/O: " ++ reason))

/-- What a request changes in the handlers before it is sent. -/
def adjustRoutes (c : Client α η) : Request η → Client α η
  | .publish _ _ _ _ => c
  | .subscribe filter _ handler => { c with routes := c.routes.set filter handler }
  | .unsubscribe filter => { c with routes := c.routes.remove filter }

/-- Whether the client takes a request. -/
def takes (c : Client α η) (r : Request η) : Bool := c.isOpen && r.isSendable

/-- Makes a request for which someone waits.  Whoever makes it is in the queue before it is handed
over, and is taken back if the client does not take it. -/
def request (c : Client α η) (who : α) (r : Request η) :
    Client α η × Except DeliveryFault Unit :=
  let tracker := c.tracker.enqueue r.kind who
  if c.takes r then ({ c.adjustRoutes r with tracker := tracker }, .ok ())
  else ({ c.adjustRoutes r with tracker := tracker.cancelLast.1 }, .error unsendable)

/-- Takes note of a packet that is written out. -/
def sent (c : Client α η) (p : Outgoing) : Client α η × List (α × Resolution) :=
  let (tracker, resolved) := c.tracker.sent p
  ({ c with tracker := tracker }, resolved)

/-- Takes note of a packet that has arrived. -/
def received (c : Client α η) (p : Incoming) : Client α η × List (α × Resolution) :=
  let (tracker, resolved) := c.tracker.received p
  ({ c with tracker := tracker }, resolved)

/-- Takes note of the outcome of a subscription: one that the broker refuses has no handler. -/
def concludeSubscribe (c : Client α η) (filter : String) (outcome : Except DeliveryFault Unit) :
    Client α η :=
  match outcome with
  | .error (.rejected _) => { c with routes := c.routes.remove filter }
  | _ => c

/-- The handler to which a message on a topic goes. -/
def dispatch (c : Client α η) (fallback : η) (topic : String) : η :=
  c.routes.dispatch fallback topic

/-- Tells all who wait that the connection is lost. -/
def lose (c : Client α η) : Client α η × List (α × Resolution) :=
  let (tracker, resolved) := c.tracker.failAll .disconnected
  ({ c with tracker := tracker }, resolved)

/-- Takes note of a new session. -/
def reconnected (c : Client α η) : Client α η :=
  { c with sessions := c.sessions + 1 }

/-- Ends the connection for good. -/
def close (c : Client α η) : Client α η × List (α × Resolution) :=
  { c with isOpen := false }.lose

/-- What a client does when something happens, and who is told what. -/
def meet (c : Client α η) : Incident α η → Client α η × List (α × Resolution)
  | .request who r => ((c.request who r).1, [])
  | .sent packet => c.sent packet
  | .received packet => c.received packet
  | .concluded filter outcome => (c.concludeSubscribe filter outcome, [])
  | .lost => c.lose
  | .reconnected => (c.reconnected, [])
  | .closed => c.close

end Client

end VirtualNode.Mqtt
