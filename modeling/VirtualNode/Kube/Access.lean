import VirtualNode.Fault
import VirtualNode.Kube.Login
import VirtualNode.Pki.Bundle
import VirtualNode.Pki.Key
import VirtualNode.Text.Quoted
import VirtualNode.Text.ServerName
import VirtualNode.Text.Uri

/-!
# Access to a cluster

How the cluster of the current context in a configuration file is reached.  First the names and
addresses in the file are looked up (`Target.find?`), then it is checked whether a connection can
be made with what was found (`Access.ofTarget`).  `load` and `infer` do both.
-/

set_option autoImplicit false

namespace VirtualNode.Kube

open Kubeconfig (Cluster Named Source User)

/-- Why no connection to a cluster can be made. -/
inductive AccessFlaw where
  /-- The proxy that is asked for is not supported. -/
  | proxy
  | login (fault : LoginFault)
  /-- The token cannot be sent. -/
  | token
  /-- One of the certificates against which the server is verified cannot be read. -/
  | authority
  /-- The certificate and the key of the user cannot be used. -/
  | identity
  | serverName
  /-- The names of those as whom requests are made cannot be sent. -/
  | impersonation
  deriving DecidableEq, Repr, Inhabited

/-- Why a cluster cannot be reached. -/
inductive AccessError where
  /-- The file cannot be read. -/
  | unreadable (path : String)
  /-- The file does not say how the cluster is reached. -/
  | invalid (path : String)
  /-- No file is named, and the one in the home directory does not help. -/
  | notInferred
  /-- What the file says cannot be used. -/
  | unusable (flaw : AccessFlaw)
  deriving DecidableEq, Repr, Inhabited

/-- The wording of a flaw. -/
def AccessFlaw.message : AccessFlaw → String
  | proxy => "the proxy is not supported"
  | login .provider => "the authentication provider is not supported"
  | login .tokenFile => "the token file cannot be read"
  | login .program => "credential programs are not supported"
  | token => "the token cannot be sent"
  | authority => "a root certificate is malformed"
  | identity => "the client identity is malformed"
  | serverName => "the server name is malformed"
  | impersonation => "the impersonated names cannot be sent"

/-- The fault that an error is. -/
def AccessError.fault : AccessError → Fault
  | unreadable path => .clusterAccess ("failed to read kubeconfig " ++ Text.Quoted.encode path)
  | invalid path => .clusterAccess ("invalid kubeconfig " ++ Text.Quoted.encode path)
  | notInferred => .clusterAccess "failed to infer config"
  | unusable flaw => .clusterAccess flaw.message

/-! ## What a file says -/

/-- Bytes. -/
abbrev Bytes := List UInt8

/-- The content of a source, if it can be read. -/
def Kubeconfig.Source.content? (read : Login.Reader) (s : Source) : Option Bytes :=
  match s.data with
  | some data => Text.Base64.decodeExact? data.toUTF8.toList
  | none => s.path.bind read

/-- What the current context of a configuration file leads to. -/
structure Target where
  server : String
  /-- The certificates against which the server is verified, if it is not those of the system. -/
  authority : Option (List Bytes)
  /-- Whether the server is reached through a proxy. -/
  hasProxy : Bool
  serverName : Option String
  user : User
  deriving DecidableEq, Repr, Inhabited

namespace Target

/-- What is known under the first entry of a name. -/
def lookup? {α : Type} (entries : Named α) (name : String) : Option α :=
  (entries.find? fun e => e.1 = name).bind Prod.snd

/-- The certificates against which the server of a cluster is verified. -/
def authority? (read : Login.Reader) (s : Source) : Option (Option (List Bytes)) :=
  if s.data.isNone && s.path.isNone then some none
  else (s.content? read).bind fun file => (Pki.Bundle.certificates? file).map some

/-- Whether a proxy is asked for. -/
def proxy? (proxy : Option String) : Option Bool :=
  match proxy with
  | none | some "" => some false
  | some address => if Text.Uri.isAddress address then some true else none

/-- Looks up what the current context leads to. -/
def find? (read : Login.Reader) (k : Kubeconfig) : Option Target := do
  let context ← lookup? k.contexts (← k.currentContext)
  let cluster ← lookup? k.clusters context.cluster
  let user ← lookup? k.users context.user
  let server ← cluster.server
  guard (Text.Uri.isAddress server)
  let authority ← authority? read cluster.authority
  return ⟨server, authority, ← proxy? cluster.proxy, cluster.serverName, user⟩

end Target

/-! ## Connections -/

/-- How a cluster is reached. -/
structure Access where
  server : String
  authority : Option (List Bytes)
  login : Login
  deriving DecidableEq, Repr, Inhabited

namespace Access

/-- Whether a text can be sent as one line. -/
def isSendable (s : String) : Bool :=
  s.toList.all fun c => c = '\t' || (32 ≤ c.toNat && c.toNat ≠ 127)

/-- Whether what a user logs in with can be sent. -/
def canBeSent : Login → Bool
  | .token secret => isSendable secret
  | _ => true

/-- A file with a line end at its end. -/
def closeLine (file : Bytes) : Bytes :=
  if file.getLast? = some 10 then file else file ++ [10]

/-- The key and the certificate of a user in one file.  If one of them cannot be read, the user has
none. -/
def identity? (read : Login.Reader) (u : User) : Option Bytes := do
  let key ← u.key.content? read
  let certificate ← u.certificate.content? read
  return closeLine key ++ closeLine certificate

/-- The first flaw for which a connection cannot be made, if there is one. -/
def flaw? (read : Login.Reader) (t : Target) : Option AccessFlaw :=
  let authorities := t.authority.getD []
  if authorities.any fun c => (Pki.Certificate.read? c).isNone then some .authority
  else if (identity? read t.user).any fun file => !Pki.isIdentity file then some .identity
  else if t.serverName.any fun name => !Text.ServerName.isValid name then some .serverName
  else if (t.user.actsAs.toList ++ t.user.groups).any fun name => !isSendable name then
    some .impersonation
  else none

/-- How a target is reached.  `now` is missing if the time is not known. -/
def ofTarget (now : Option Time.Stamp) (read : Login.Reader) (t : Target) :
    Except AccessFlaw Access := do
  if t.hasProxy then throw .proxy
  let login ← (Login.ofUser now read t.user).mapError AccessFlaw.login
  if !canBeSent login then throw .token
  match flaw? read t with
  | some flaw => throw flaw
  | none => return ⟨t.server, t.authority, login⟩

/-- How a cluster is reached that a file describes.  The text of the file is absent if it cannot
be read. -/
def load (path : String) (now : Option Time.Stamp) (text : Option String) (read : Login.Reader) :
    Except AccessError Access :=
  match text.bind Kubeconfig.parse? with
  | none => .error (.unreadable path)
  | some k =>
    match Target.find? read k with
    | none => .error (.invalid path)
    | some t => (ofTarget now read t).mapError .unusable

/-- How a cluster is reached if no file is named: as the file in the home directory says. -/
def infer (now : Option Time.Stamp) (text : Option String) (read : Login.Reader) :
    Except AccessError Access :=
  match (text.bind Kubeconfig.parse?).bind (Target.find? read) with
  | none => .error .notInferred
  | some t => (ofTarget now read t).mapError .unusable

end Access

end VirtualNode.Kube
